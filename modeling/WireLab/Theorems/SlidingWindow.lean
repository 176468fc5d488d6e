import WireLab.Base.TSys
import WireLab.Logic.Detection
import WireLab.Logic.PacketTables
import WireLab.Model.AnalysisPipeline

/-!
# The detector is its sliding window

The detector keeps a queue that expires from the front, eight counters and the
anomalies of the call before. By definition a call reports on the packets that
are not older than the window, whatever came before them: the sources that exceed
a threshold and did not exceed it at the call before (`detector_slides`).
-/

namespace WireLab

open Base

/-! ## The order of a report -/

/-- What orders events: the type, the source, and the port. -/
def AnomalyEvent.rank (event : AnomalyEvent) : ℕ ×ₗ List ℕ ×ₗ ℕ ×ₗ ℕ :=
  toLex (event.type.ctorIdx, toLex (macRank event.sourceMac,
    toLex (event.sourceIpv4.toNat, event.ingressPort.toNat)))

private theorem ctorIdx_inj {type other : AnomalyType} :
    type.ctorIdx = other.ctorIdx ↔ type = other := by
  cases type <;> cases other <;> decide

/-- `event_less` compares ranks. -/
theorem eventLess_iff (first second : AnomalyEvent) :
    eventLess first second = true ↔ first.rank < second.rank := by
  have hmac : first.sourceMac.bytes < second.sourceMac.bytes ↔
      macRank first.sourceMac < macRank second.sourceMac := mac_lt_iff _ _
  simp only [AnomalyEvent.rank, Prod.Lex.toLex_lt_toLex, ctorIdx_inj, macRank_injective.eq_iff,
    UInt32.toNat_inj, ← hmac, ← UInt32.lt_iff_toNat_lt]
  unfold eventLess
  split_ifs with htype hmac hipv4
  · simp [htype]
  · simp [not_not.mp htype, hmac]
  · simp [not_not.mp htype, not_not.mp hmac, hipv4]
  · simp [not_not.mp htype, not_not.mp hmac, not_not.mp hipv4]

/-- Events of one rank have one identity. -/
theorem active_of_rank {first second : AnomalyEvent} (h : first.rank = second.rank) :
    first.active = second.active := by
  simp only [AnomalyEvent.rank, toLex_inj, Prod.mk.injEq, ctorIdx_inj, macRank_injective.eq_iff,
    UInt32.toNat_inj] at h
  obtain ⟨htype, hmac, hipv4, hport⟩ := h
  rw [AnomalyEvent.active, AnomalyEvent.active, htype, hmac, hipv4, hport]

/-! ## A report names each anomaly once -/

/-- Events with identities of their own, each of one of some types. -/
private structure Named (types : List AnomalyType) (events : List AnomalyEvent) : Prop where
  distinct : events.Pairwise fun first second => first.active ≠ second.active
  typed : ∀ event ∈ events, event.type ∈ types

private theorem Named.append {types others : List AnomalyType} {first second : List AnomalyEvent}
    (hfirst : Named types first) (hsecond : Named others second) (hnew : ∀ type ∈ others, type ∉ types) :
    Named (types ++ others) (first ++ second) where
  distinct := by
    refine List.pairwise_append.mpr ⟨hfirst.distinct, hsecond.distinct, ?_⟩
    intro event hevent other hother hsame
    have htype : event.type = other.type := congrArg ActiveAnomaly.type hsame
    exact hnew _ (hsecond.typed other hother) (htype ▸ hfirst.typed event hevent)
  typed event hevent := by
    rcases List.mem_append.mp hevent with h | h
    · exact List.mem_append_left _ (hfirst.typed event h)
    · exact List.mem_append_right _ (hsecond.typed event h)

/-- The candidates of one table: the identity of each has the key of its entry. -/
private theorem named_table {K V : Type} {f : (Sigma fun _ : K => V) → Option AnomalyEvent}
    (type : AnomalyType) (key : ActiveAnomaly → K) (table : Dict K V)
    (hnames : ∀ entry event, f entry = some event →
      event.type = type ∧ key event.active = entry.1) :
    Named [type] (table.entries.filterMap f) where
  distinct := by
    refine List.pairwise_filterMap.mpr (List.Pairwise.imp ?_ (List.nodupKeys_iff_pairwise.mp
      table.nodupKeys))
    intro entry other hne event hevent event' hevent' hsame
    have hkey := (hnames entry event hevent).2
    have hkey' := (hnames other event' hevent').2
    exact hne (hkey.symm.trans ((congrArg key hsame).trans hkey'))
  typed event hevent := by
    obtain ⟨entry, _, hentry⟩ := List.mem_filterMap.mp hevent
    rw [(hnames entry event hentry).1]
    exact List.mem_singleton_self type

section
variable (config : AnomalyDetectorConfig)

private theorem named_macCandidates (type : AnomalyType) (threshold : Nat)
    (counters : Dict MacAddress TrafficCounter) :
    Named [type] (macCandidates config type threshold counters) := by
  refine named_table type ActiveAnomaly.sourceMac counters ?_
  intro entry event h
  obtain ⟨_, _, rfl⟩ := candidate?_eq_some.mp h
  exact ⟨rfl, rfl⟩

private theorem named_udpCandidates (counters : Dict UInt32 TrafficCounter) :
    Named [.udpFlood] (udpCandidates config counters) := by
  refine named_table _ ActiveAnomaly.sourceIpv4 counters ?_
  intro entry event h
  obtain ⟨_, _, rfl⟩ := candidate?_eq_some.mp h
  exact ⟨rfl, rfl⟩

private theorem named_scanCandidates (destinations : Dict UInt32 (Finset UInt16))
    (scanIngressPorts : Dict UInt32 UInt32) :
    Named [.portScan] (scanCandidates config destinations scanIngressPorts) := by
  refine named_table _ ActiveAnomaly.sourceIpv4 destinations ?_
  intro entry event h
  obtain ⟨_, _, rfl⟩ := candidate?_eq_some.mp h
  exact ⟨rfl, rfl⟩

private theorem named_flapCandidates (ingressPorts : Dict MacAddress (List UInt32)) :
    Named [.macFlap] (flapCandidates config ingressPorts) := by
  refine named_table _ ActiveAnomaly.sourceMac ingressPorts ?_
  intro entry event h
  obtain ⟨_, _, rfl⟩ := candidate?_eq_some.mp h
  exact ⟨rfl, rfl⟩

private theorem named_malformedCandidates (counters : Dict UInt32 TrafficCounter) :
    Named [.malformedFrame] (malformedCandidates config counters) := by
  refine named_table _ ActiveAnomaly.ingressPort counters ?_
  intro entry event h
  obtain ⟨_, _, rfl⟩ := candidate?_eq_some.mp h
  exact ⟨rfl, rfl⟩

/-- No two candidates have one identity. -/
private theorem distinct_candidates (tally : Tally) :
    (tally.candidates config).Pairwise fun first second => first.active ≠ second.active := by
  have hstorm := named_macCandidates config .broadcastStorm config.broadcastPacketsThreshold
    tally.broadcasts
  have hflood := named_macCandidates config .unknownUnicastFlood
    config.unknownUnicastPacketsThreshold tally.unknownUnicasts
  have hudp := named_udpCandidates config tally.udpSources
  have hscan := named_scanCandidates config tally.scanDestinations tally.scanIngressPorts
  have hflap := named_flapCandidates config tally.ingressPorts
  have htalker := named_macCandidates config .hotTalker config.hotTalkerPacketsThreshold
    tally.sourceTraffic
  have hmalformed := named_malformedCandidates config tally.malformedIngressPorts
  have hnamed := (((((hstorm.append hflood (by decide)).append hudp (by decide)).append hscan
    (by decide)).append hflap (by decide)).append htalker (by decide)).append hmalformed (by decide)
  exact hnamed.distinct

/-- **Candidates come in order**, each once. -/
theorem candidates_sorted (window : List ObservedPacket) :
    (AnomalyDetector.candidates config window).Pairwise fun first second =>
      eventLess first second = true := by
  have hsort : AnomalyDetector.candidates config window =
      sortBy eventLess ((window.foldl Tally.observe {}).candidates config) := by
    simp only [AnomalyDetector.candidates, sortBy, Bool.not_eq_true']
  rw [hsort]
  generalize hfound : (window.foldl Tally.observe {}).candidates config = found
  have hranked := sortBy_sorted (L := ℕ ×ₗ List ℕ ×ₗ ℕ ×ₗ ℕ) eventLess_iff found
  have hfresh : found.Pairwise fun first second => first.active ≠ second.active :=
    hfound ▸ distinct_candidates config _
  have hdistinct := hfresh.perm (perm_sortBy eventLess found).symm fun hne => hne.symm
  refine (hranked.and hdistinct).imp ?_
  rintro first second ⟨hle, hne⟩
  exact (eventLess_iff _ _).mpr (lt_of_le_of_ne hle fun hsame => hne (active_of_rank hsame))

end

/-! ## The window -/

/-- A call of `evaluate`, with the controller as it is then. -/
structure EvaluateCall where
  controller : TopologyController := {}
  batch : AnalysisBatch
  timestampNs : Nat
  now : Int := 0

/-- The clamped clock after some calls: the latest time any of them was given. -/
def clampedClock (calls : List EvaluateCall) : Nat :=
  calls.foldl (fun clock call => max clock call.timestampNs) 0

/-- The packets of some calls, observed at clamped times. -/
def arrivalsFrom (clock : Nat) : List EvaluateCall → List ObservedPacket
  | [] => []
  | call :: calls =>
      call.batch.packets.map (AnomalyDetector.observed (max clock call.timestampNs)) ++
        arrivalsFrom (max clock call.timestampNs) calls

/-- By definition: the packets of all calls that are not older than the window. -/
def slidingWindow (config : AnomalyDetectorConfig) (calls : List EvaluateCall) :
    List ObservedPacket :=
  (arrivalsFrom 0 calls).filter fun observation =>
    clampedClock calls ≤ observation.timestampNs + config.windowDurationNs

theorem clampedClock_append (calls : List EvaluateCall) (call : EvaluateCall) :
    clampedClock (calls ++ [call]) = max (clampedClock calls) call.timestampNs := by
  rw [clampedClock, List.foldl_append]
  rfl

private theorem arrivalsFrom_append (clock : Nat) (calls : List EvaluateCall)
    (call : EvaluateCall) :
    arrivalsFrom clock (calls ++ [call]) = arrivalsFrom clock calls ++
      call.batch.packets.map (AnomalyDetector.observed
        (max (calls.foldl (fun clock call => max clock call.timestampNs) clock)
          call.timestampNs)) := by
  induction calls generalizing clock with
  | nil => exact List.append_nil _
  | cons earlier calls ih =>
      rw [List.cons_append, arrivalsFrom, ih, arrivalsFrom, List.append_assoc]
      rfl

/-- Packets arrive in the order of their times, none of them in the future. -/
private theorem arrivals_sorted (calls : List EvaluateCall) :
    (arrivalsFrom 0 calls).Pairwise (fun first second => first.timestampNs ≤ second.timestampNs) ∧
      ∀ observation ∈ arrivalsFrom 0 calls, observation.timestampNs ≤ clampedClock calls := by
  induction calls using List.reverseRecOn with
  | nil => exact ⟨.nil, fun _ h => absurd h (List.not_mem_nil)⟩
  | append_singleton calls call ih =>
      obtain ⟨hsorted, hpast⟩ := ih
      rw [arrivalsFrom_append, clampedClock_append]
      have hnow : ∀ observation ∈ call.batch.packets.map (AnomalyDetector.observed
          (max (clampedClock calls) call.timestampNs)),
          observation.timestampNs = max (clampedClock calls) call.timestampNs := by
        intro observation hmem
        obtain ⟨packet, _, rfl⟩ := List.mem_map.mp hmem
        rfl
      refine ⟨List.pairwise_append.mpr ⟨hsorted, ?_, ?_⟩, ?_⟩
      · exact List.pairwise_of_forall_mem_list fun first hfirst second hsecond =>
          (hnow first hfirst).trans_le (hnow second hsecond).ge
      · intro first hfirst second hsecond
        have := hpast first hfirst
        rw [hnow second hsecond]
        omega
      · intro observation hmem
        rcases List.mem_append.mp hmem with h | h
        · have := hpast observation h
          omega
        · exact (hnow observation h).le

/-- Expiring from the front of a list in order leaves what is recent. -/
private theorem expire_eq_filter (config : AnomalyDetectorConfig)
    {observations : List ObservedPacket} (timestampNs : Nat)
    (hsorted : observations.Pairwise fun first second =>
      first.timestampNs ≤ second.timestampNs) :
    AnomalyDetector.expire config observations timestampNs =
      observations.filter fun observation =>
        timestampNs ≤ observation.timestampNs + config.windowDurationNs := by
  unfold AnomalyDetector.expire
  induction hsorted with
  | nil => rfl
  | @cons observation observations hlater _ ih =>
      dsimp only at ih ⊢
      by_cases hold : observation.timestampNs < timestampNs - config.windowDurationNs
      · rw [List.dropWhile_cons_of_pos (by rw [decide_eq_true_eq]; exact hold), ih,
          List.filter_cons_of_neg (by rw [decide_eq_true_eq]; omega)]
      · -- What stands behind a recent packet is recent.
        rw [List.dropWhile_cons_of_neg (by rw [decide_eq_true_eq]; exact hold)]
        refine (List.filter_eq_self.mpr fun other hother => ?_).symm
        rw [decide_eq_true_eq]
        rcases List.mem_cons.mp hother with rfl | hbehind
        · omega
        · have := hlater other hbehind
          omega

/-- **The queue is the window**, whatever was expired before. -/
theorem window_slides (detector : AnomalyDetector) (calls : List EvaluateCall)
    (call : EvaluateCall)
    (hqueue : detector.observations = slidingWindow detector.config calls) :
    detector.window call.batch (max (clampedClock calls) call.timestampNs) =
      slidingWindow detector.config (calls ++ [call]) := by
  have hsorted := (arrivals_sorted (calls ++ [call])).1
  have happend := arrivalsFrom_append 0 calls call
  have hlater : ∀ observation : ObservedPacket,
      (max (clampedClock calls) call.timestampNs ≤
          observation.timestampNs + detector.config.windowDurationNs ∧
        clampedClock calls ≤ observation.timestampNs + detector.config.windowDurationNs) ↔
      max (clampedClock calls) call.timestampNs ≤
        observation.timestampNs + detector.config.windowDurationNs := by
    intro observation
    omega
  rw [AnomalyDetector.window, hqueue, slidingWindow, slidingWindow, clampedClock_append, happend]
  rw [happend] at hsorted
  rw [expire_eq_filter, List.filter_append, List.filter_append, List.filter_filter]
  · simp only [← Bool.decide_and, hlater]
    rfl
  · exact hsorted.sublist (List.Sublist.append List.filter_sublist (List.Sublist.refl _))

/-! ## Runs -/

/-- Calls of `evaluate` on a pipeline, and what the last one returned. The
controller is whatever it is at each call. -/
def evaluating : TSys (AnalysisPipeline × AnalysisOutcome) EvaluateCall where
  init state := state.1.detector.observations = [] ∧ state.1.detector.activeAnomalies = [] ∧
    state.1.lastTimestampNs = 0
  step state call :=
    (state.1.evaluate call.controller call.batch call.timestampNs call.now).map fun out =>
      (out.2.1, out.1)

/-- The invariant: the queue is the window, and what is remembered exceeds in
it. -/
private structure Slides (config : AnomalyDetectorConfig) (calls : List EvaluateCall)
    (pipeline : AnalysisPipeline) : Prop where
  configured : pipeline.detector.config = config
  queue : pipeline.detector.observations = slidingWindow config calls
  active : pipeline.detector.activeAnomalies =
    (AnomalyDetector.candidates config (slidingWindow config calls)).map AnomalyEvent.active
  clock : pipeline.lastTimestampNs = clampedClock calls

/-- Nothing exceeds in an empty window. -/
private theorem candidates_nil (config : AnomalyDetectorConfig) :
    AnomalyDetector.candidates config [] = [] := by
  refine List.eq_nil_iff_forall_not_mem.mpr fun event hevent => ?_
  obtain ⟨type, source, hexceeds, _⟩ := mem_candidates.mp hevent
  exact hexceeds.traffic_ne_nil rfl

section
variable {config : AnomalyDetectorConfig} {calls : List EvaluateCall}
  {pipeline after : AnalysisPipeline}

/-- **One call**: the window slides, and the events are those in it that were not
remembered. -/
private theorem Slides.evaluate (h : Slides config calls pipeline) {call : EvaluateCall}
    {outcome : AnalysisOutcome} {controller : TopologyController}
    (hevaluate : pipeline.evaluate call.controller call.batch call.timestampNs call.now =
      some (outcome, after, controller)) :
    Slides config (calls ++ [call]) after ∧
      outcome.anomalies = (AnomalyDetector.candidates config
        (slidingWindow config (calls ++ [call]))).filter fun event =>
          event.active ∉ (AnomalyDetector.candidates config (slidingWindow config calls)).map
            AnomalyEvent.active := by
  obtain ⟨hanalyses, _⟩ := AnalysisPipeline.evaluate_spec hevaluate
  obtain ⟨hdetected, _, _, hclock⟩ := hanalyses
  have hqueue := window_slides pipeline.detector calls call (h.configured ▸ h.queue)
  rw [h.configured] at hqueue
  rw [h.clock] at hdetected hclock
  simp only [AnomalyDetector.evaluate] at hdetected
  split at hdetected
  · exact absurd hdetected (by simp)
  · obtain ⟨hevents, hafter⟩ := Prod.mk.inj (Option.some.inj hdetected)
    rw [hqueue, h.configured, h.active] at hevents
    refine ⟨⟨?_, ?_, ?_, ?_⟩, hevents.symm⟩
    · rw [← hafter]
      exact h.configured
    · rw [← hafter]
      exact hqueue
    · rw [← hafter]
      show List.map _ (AnomalyDetector.candidates pipeline.detector.config _) = _
      rw [hqueue, h.configured]
    · rw [hclock, clampedClock_append]

/-- **A run** of calls returns, and slides the window over all of them. -/
private theorem Slides.exec (h : Slides config calls pipeline) (more : List EvaluateCall)
    (outcome : AnalysisOutcome) :
    ∃ state, evaluating.exec (pipeline, outcome) more = some state ∧
      Slides config (calls ++ more) state.1 := by
  induction more generalizing calls pipeline outcome with
  | nil => exact ⟨_, rfl, (List.append_nil calls).symm ▸ h⟩
  | cons call more ih =>
      obtain ⟨⟨out, next, controller⟩, hevaluate⟩ := pipeline.evaluate_returns call.controller
        call.batch call.timestampNs call.now
      have hstep : evaluating.step (pipeline, outcome) call = some (next, out) := by
        show Option.map _ (pipeline.evaluate call.controller call.batch call.timestampNs
          call.now) = _
        rw [hevaluate]
        rfl
      obtain ⟨state, hexec, hslides⟩ := ih (h.evaluate hevaluate).1 out
      refine ⟨state, ?_, ?_⟩
      · rw [TSys.exec, hstep]
        exact hexec
      · rwa [List.append_assoc] at hslides

/-- **The detector is its sliding window.** Whatever calls came before and
whatever their times, a call returns; its events are in order, each of them once;
and they are the reports on the sources that exceed a threshold in the window of
all the calls and that did not, by their keys, in the window before this one. -/
theorem detector_slides (config : AnomalyDetectorConfig) (windowed : config.windowDurationNs ≠ 0)
    (policies : PolicyEngine) (enforcer : PolicyEnforcer) (attached : Bool)
    (history : List EvaluateCall) (call : EvaluateCall) :
    ∃ state outcome after controller,
      evaluating.exec ({ detector := { config, windowed }, policies, enforcer, attached }, {})
        history = some state ∧
      state.1.evaluate call.controller call.batch call.timestampNs call.now =
        some (outcome, after, controller) ∧
      (outcome.anomalies.Pairwise fun first second => eventLess first second = true) ∧
      ∀ event, event ∈ outcome.anomalies ↔
        (∃ type source, Exceeds config (slidingWindow config (history ++ [call])) type source ∧
          report config (slidingWindow config (history ++ [call])) type source = event) ∧
        ∀ type source, Exceeds config (slidingWindow config history) type source →
          (report config (slidingWindow config history) type source).active ≠ event.active := by
  have hfresh : Slides config []
      { detector := { config, windowed }, policies, enforcer, attached } :=
    ⟨rfl, rfl, by rw [slidingWindow, arrivalsFrom, List.filter_nil, candidates_nil]; rfl, rfl⟩
  obtain ⟨state, hexec, hslides⟩ := hfresh.exec history {}
  rw [List.nil_append] at hslides
  obtain ⟨⟨outcome, after, controller⟩, hevaluate⟩ := state.1.evaluate_returns call.controller
    call.batch call.timestampNs call.now
  obtain ⟨_, hevents⟩ := hslides.evaluate hevaluate
  refine ⟨state, outcome, after, controller, hexec, hevaluate, ?_, fun event => ?_⟩
  · rw [hevents]
    exact (candidates_sorted config _).sublist List.filter_sublist
  · rw [hevents, List.mem_filter, mem_candidates, decide_eq_true_eq, List.mem_map]
    refine and_congr_right fun _ => ⟨fun hnew type source hexceeds hsame => ?_, ?_⟩
    · exact hnew ⟨_, mem_candidates.mpr ⟨type, source, hexceeds, rfl⟩, hsame⟩
    · rintro hnew ⟨earlier, hearlier, hsame⟩
      obtain ⟨type, source, hexceeds, rfl⟩ := mem_candidates.mp hearlier
      exact hnew type source hexceeds hsame

end

/-- Two broadcasts of one source, of which one is allowed. -/
def stormCall : EvaluateCall where
  batch := { packets := [{ classification := .broadcast, ingressPort := 3 },
    { classification := .broadcast, ingressPort := 4 }] }
  timestampNs := 5

/-- The storm is reported at the port of its last packet. -/
theorem detector_slides_storm :
    ∃ outcome after controller,
      ({ detector := { config := { broadcastPacketsThreshold := 1 } } } :
          AnalysisPipeline).evaluate {} stormCall.batch 5 0 = some (outcome, after, controller) ∧
      ({ type := .broadcastStorm, ingressPort := 4, observedPackets := 2, threshold := 1,
         windowDurationNs := 1000000000 } : AnomalyEvent) ∈ outcome.anomalies := by
  obtain ⟨state, outcome, after, controller, hexec, hevaluate, _, hevents⟩ :=
    detector_slides { broadcastPacketsThreshold := 1 } (by decide) {} {} false [] stormCall
  rw [← Option.some.inj hexec] at hevaluate
  refine ⟨outcome, after, controller, hevaluate, (hevents _).mpr ⟨?_, ?_⟩⟩
  · exact ⟨.broadcastStorm, .mac .zero, ⟨by decide, by decide⟩, by decide⟩
  · exact fun type source hexceeds => absurd rfl hexceeds.traffic_ne_nil

end WireLab
