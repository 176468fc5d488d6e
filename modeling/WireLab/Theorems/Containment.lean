import WireLab.Logic.Detection
import WireLab.Logic.Lab

/-!
# Containing a sustained attack

A detector reports an anomaly when it begins, a policy is decided on the report,
and the lease it leads to runs out by itself. An anomaly that lasts longer than
the lease is not reported again, so the port it comes in by is released under
it. `attack_contained_iff` says exactly when that does not happen.
-/

namespace WireLab

open Base TopologyController PolicyEnforcer

/-- The arguments of a call of `evaluate`. -/
structure Evaluation where
  batch : AnalysisBatch := {}
  timestampNs : Nat := 0
  now : Int := 0

/-- A pipeline and the controller it is attached to; nothing but `evaluate` is
called. At first the detector has seen nothing, and the anomaly's first rule
contains. -/
def analysing (type : AnomalyType) : TSys (AnalysisPipeline × TopologyController) Evaluation where
  init state := state.1.attached = true ∧ state.1.detector.observations = [] ∧
    state.1.detector.activeAnomalies = [] ∧
    ∃ rule, state.1.policies.ruleFor type = some rule ∧
      (rule.action = .drop ∨ rule.action = .quarantine)
  step state call :=
    (state.1.evaluate state.2 call.batch call.timestampNs call.now).map Prod.snd

/-- Every source over the threshold has the port its last packet came in by
enforced, if there is such a port. -/
def Contained (type : AnomalyType) (state : AnalysisPipeline × TopologyController) : Prop :=
  ∀ source p,
    Exceeds state.1.detector.config state.1.detector.observations type source →
    state.2.portIdAt (lastIngress (trafficOf type source state.1.detector.observations)) = some p →
    state.1.enforcer.isEnforced p = true

/-- The decision a rule makes about an anomaly. -/
def PolicyRule.decision (rule : PolicyRule) (anomaly : AnomalyEvent) : PolicyDecision where
  ruleName := rule.name
  action := rule.action
  anomaly := anomaly
  rateLimitPacketsPerSecond := rule.rateLimitPacketsPerSecond

/-- A window has a source over a threshold that is new to the detector and whose
rule can be enforced on the port. -/
def Renewed (state : AnalysisPipeline × TopologyController) (window : List ObservedPacket)
    (p : Bytes) : Prop :=
  ∃ type source rule, Exceeds state.1.detector.config window type source ∧
    (report state.1.detector.config window type source).active ∉
      state.1.detector.activeAnomalies ∧
    state.1.policies.ruleFor type = some rule ∧
    Enforceable state.1.enforcer.config state.2
      (rule.decision (report state.1.detector.config window type source)) p

/-- No lease runs out under an anomaly that goes on: where the port of a source
that exceeds, and is remembered with that port, has a lease that has run out,
something new is enforced on the port. -/
def NoneLapses (type : AnomalyType) (state : AnalysisPipeline × TopologyController)
    (call : Evaluation) : Prop :=
  let window := state.1.detector.window call.batch (max state.1.lastTimestampNs call.timestampNs)
  ∀ source p, Exceeds state.1.detector.config window type source →
    state.2.portIdAt (lastIngress (trafficOf type source window)) = some p →
    (report state.1.detector.config window type source).active ∈
      state.1.detector.activeAnomalies →
    (∃ lease, state.1.enforcer.leases.lookup p = some lease ∧ lease.action.expiresAt ≤ call.now) →
    Renewed state window p

/-! ## One evaluation -/

section
variable {type : AnomalyType} {state after : AnalysisPipeline × TopologyController}
  {call : Evaluation} {p : Bytes}

private theorem analysing_step :
    (analysing type).step state call = some after ↔
      ∃ outcome, state.1.evaluate state.2 call.batch call.timestampNs call.now =
        some (outcome, after) := by
  simp only [analysing, Option.map_eq_some_iff, Prod.exists]
  constructor
  · rintro ⟨outcome, pipeline, controller, h, rfl⟩
    exact ⟨outcome, h⟩
  · rintro ⟨outcome, h⟩
    exact ⟨outcome, after.1, after.2, h, rfl⟩

/-- The anomalies that are decided on a port are those new to the detector. -/
private theorem decided_iff {outcome : AnalysisOutcome}
    (h : state.1.Analyses call.batch call.timestampNs outcome after.1) :
    (∃ decision ∈ outcome.decisions,
        Enforceable state.1.enforcer.config state.2 decision p) ↔
      Renewed state after.1.detector.observations p := by
  have hdetects := AnomalyDetector.evaluate_detects h.detected
  have hdecisions : (state.1.policies.evaluate outcome.anomalies).1 = outcome.decisions :=
    congrArg Prod.fst h.decided
  constructor
  · rintro ⟨decision, hmem, henforceable⟩
    have hdecided := (state.1.policies.mem_evaluate outcome.anomalies decision.anomaly
      decision.action decision.rateLimitPacketsPerSecond).mp
        ⟨decision, hdecisions ▸ hmem, rfl, rfl, rfl⟩
    obtain ⟨hanomaly, rule, hrule, haction, hrate⟩ := hdecided
    obtain ⟨hcandidate, hnew⟩ := (hdetects.reports _).mp hanomaly
    obtain ⟨type, source, hexceeds, hreport⟩ := mem_candidates.mp hcandidate
    rw [hdetects.config] at hexceeds hreport
    refine ⟨type, source, rule, hexceeds, by rwa [hreport], ?_, ?_⟩
    · rwa [← hreport] at hrule
    · rw [hreport]
      exact henforceable.of_same rfl haction hrate
  · rintro ⟨type, source, rule, hexceeds, hnew, hrule, henforceable⟩
    rw [← hdetects.config] at hexceeds hnew henforceable
    have hanomaly := (hdetects.reports _).mpr
      ⟨mem_candidates.mpr ⟨type, source, hexceeds, rfl⟩, hnew⟩
    obtain ⟨decision, hmem, hsame, haction, hrate⟩ :=
      (state.1.policies.mem_evaluate outcome.anomalies _ _ _).mpr
        ⟨hanomaly, rule, hrule, rfl, rfl⟩
    exact ⟨decision, hdecisions ▸ hmem, henforceable.of_same hsame haction hrate⟩

/-- **What an evaluation leaves enforced**: the ports whose leases have not run
out, and those something new is enforced on. -/
private theorem isEnforced_evaluate {outcome : AnalysisOutcome}
    (hattached : state.1.attached = true)
    (h : state.1.evaluate state.2 call.batch call.timestampNs call.now = some (outcome, after)) :
    after.1.enforcer.isEnforced p = true ↔
      (∃ lease, state.1.enforcer.leases.lookup p = some lease ∧
        call.now < lease.action.expiresAt) ∨
      Renewed state after.1.detector.observations p := by
  obtain ⟨hanalyses, hwhole⟩ := AnalysisPipeline.evaluate_spec h
  rcases hwhole with ⟨hdetached, _⟩ | ⟨_, enforcer, middle, hreleases, happlies⟩
  · rw [hattached] at hdetached
    exact absurd hdetached (by simp)
  · -- Leases end first, then what was decided is enforced.
    obtain rfl : (state.1.enforcer.releaseExpired state.2 call.now).2.1 = enforcer := by
      rw [hreleases]
    obtain rfl : (state.1.enforcer.releaseExpired state.2 call.now).2.2 = middle := by
      rw [hreleases]
    have htopology := (releaseExpired_topology state.1.enforcer state.2 call.now).1
    have hconfig : (state.1.enforcer.releaseExpired state.2 call.now).2.1.config =
        state.1.enforcer.config := releaseExpired_config
    rw [← decided_iff hanalyses]
    have hafter := isEnforced_apply (state.1.enforcer.releaseExpired state.2 call.now).2.1
      (state.1.enforcer.releaseExpired state.2 call.now).2.2 outcome.decisions call.now p
    rw [happlies] at hafter
    refine hafter.trans ?_
    simp only [hconfig, Enforceable.congr htopology, isEnforced, Option.isSome_iff_exists,
      lookup_releaseExpired]

/-- What holds of a pipeline in every state: it is attached, the anomaly's first
rule contains, and the detector remembers what exceeds. -/
private structure Watching (type : AnomalyType) (state : AnalysisPipeline × TopologyController) :
    Prop where
  attached : state.1.attached = true
  contains : ∃ rule, state.1.policies.ruleFor type = some rule ∧
    (rule.action = .drop ∨ rule.action = .quarantine)
  remembers : state.1.detector.activeAnomalies =
    (AnomalyDetector.candidates state.1.detector.config state.1.detector.observations).map
      AnomalyEvent.active

/-- A source that the detector remembers exceeded with the same port. -/
private theorem Watching.enforced (h : Watching type state) (hcontained : Contained type state)
    {window : List ObservedPacket} {source : AnomalySource}
    (hactive : (report state.1.detector.config window type source).active ∈
      state.1.detector.activeAnomalies)
    (hport : state.2.portIdAt (lastIngress (trafficOf type source window)) = some p) :
    state.1.enforcer.isEnforced p = true := by
  rw [h.remembers, List.mem_map] at hactive
  obtain ⟨event, hcandidate, hsame⟩ := hactive
  obtain ⟨type', source', hexceeds, rfl⟩ := mem_candidates.mp hcandidate
  have htype : type' = type := congrArg ActiveAnomaly.type hsame
  have hingress : lastIngress (trafficOf type' source' state.1.detector.observations) =
      lastIngress (trafficOf type source window) := congrArg ActiveAnomaly.ingressPort hsame
  subst htype
  exact hcontained source' p hexceeds (by rw [hingress, hport])

/-- Rules that drop or quarantine can be enforced on any port. -/
private theorem enforceable_of_contains {rule : PolicyRule} {anomaly : AnomalyEvent}
    {config : PolicyEnforcerConfig} {controller : TopologyController}
    (hrule : rule.action = .drop ∨ rule.action = .quarantine)
    (hport : controller.portIdAt anomaly.ingressPort = some p) :
    Enforceable config controller (rule.decision anomaly) p where
  port := hport
  kind := by rcases hrule with h | h <;> simp [PolicyRule.decision, h, EnforcementKind.ofAction]
  rate := by rcases hrule with h | h <;> simp [PolicyRule.decision, h, EnforcementKind.ofAction]

private theorem watching_step (h : Watching type state)
    (hstep : (analysing type).step state call = some after) : Watching type after := by
  obtain ⟨outcome, hevaluate⟩ := analysing_step.mp hstep
  obtain ⟨hanalyses, _⟩ := AnalysisPipeline.evaluate_spec hevaluate
  have hrules : after.1.policies.rules = state.1.policies.rules := by
    have hsame := state.1.policies.evaluate_rules outcome.anomalies
    rwa [hanalyses.decided] at hsame
  refine ⟨hanalyses.attached.trans h.attached, ?_,
    (AnomalyDetector.evaluate_detects hanalyses.detected).remembers⟩
  simp only [PolicyEngine.ruleFor, hrules]
  exact h.contains

/-- **One evaluation keeps the attack contained exactly when no lease lapses
under it.** -/
private theorem contained_step (h : Watching type state) (hcontained : Contained type state)
    (hstep : (analysing type).step state call = some after) :
    Contained type after ↔ NoneLapses type state call := by
  obtain ⟨outcome, hevaluate⟩ := analysing_step.mp hstep
  obtain ⟨hanalyses, _⟩ := AnalysisPipeline.evaluate_spec hevaluate
  have hdetects := AnomalyDetector.evaluate_detects hanalyses.detected
  have hports := portIdAt_congr (evaluate_topology hevaluate).1
  simp only [Contained, NoneLapses, hports, hdetects.config, ← hdetects.window]
  constructor
  · intro hafter source p hexceeds hport _ hlapsed
    rcases (isEnforced_evaluate h.attached hevaluate).mp (hafter source p hexceeds hport) with
      hlive | hrenewed
    · obtain ⟨lease, hlease, hlive⟩ := hlive
      obtain ⟨lease', hlease', hend⟩ := hlapsed
      obtain rfl := Option.some.inj (hlease.symm.trans hlease')
      exact absurd hlive (not_lt.mpr hend)
    · exact hrenewed
  · intro hlapses source p hexceeds hport
    rw [isEnforced_evaluate h.attached hevaluate]
    by_cases hactive : (report state.1.detector.config after.1.detector.observations type
        source).active ∈ state.1.detector.activeAnomalies
    · -- It goes on: the port was enforced, and its lease may have run out.
      obtain ⟨lease, hlease⟩ := Option.isSome_iff_exists.mp (h.enforced hcontained hactive hport)
      by_cases hend : lease.action.expiresAt ≤ call.now
      · exact .inr (hlapses source p hexceeds hport hactive ⟨lease, hlease, hend⟩)
      · exact .inl ⟨lease, hlease, not_le.mp hend⟩
    · -- It is new: its rule decides on the port.
      obtain ⟨rule, hrule, hcontains⟩ := h.contains
      exact .inr ⟨type, source, rule, hexceeds, hactive, hrule,
        enforceable_of_contains hcontains hport⟩

/-- **A sustained attack stays contained exactly when no lease lapses under
it.** Every run of evaluations returns, and after each of them all attackers'
ports are enforced if and only if no evaluation ends a lease under an anomaly
that goes on without something new being enforced on the port. -/
theorem attack_contained_iff (type : AnomalyType) (start : AnalysisPipeline × TopologyController)
    (calls : List Evaluation) (hstart : (analysing type).init start) :
    (∃ final, (analysing type).exec start calls = some final) ∧
    ((analysing type).States (Contained type) start calls ↔
      (analysing type).Steps (fun state call _ => NoneLapses type state call) start calls) := by
  obtain ⟨hattached, hwindow, hactive, hrule⟩ := hstart
  have hwatching : Watching type start := ⟨hattached, hrule, by rw [hactive, hwindow]; rfl⟩
  have hcontained : Contained type start := by
    intro source p hexceeds
    rw [hwindow] at hexceeds
    exact absurd rfl hexceeds.traffic_ne_nil
  refine ⟨TSys.exec_returns (fun state call => ?_) calls start,
    TSys.States.iff_steps (I := Watching type) (fun _ _ _ => watching_step)
      (fun _ _ _ => contained_step) calls start hwatching hcontained⟩
  obtain ⟨out, hout⟩ :=
    state.1.evaluate_returns state.2 call.batch call.timestampNs call.now
  exact ⟨out.2, congrArg (Option.map Prod.snd) hout⟩

end

/-- A pipeline that drops broadcast storms, attached to the lab. -/
def stormLab : AnalysisPipeline × TopologyController :=
  ({ detector := { config := { broadcastPacketsThreshold := 1 } }
     policies := containStorms
     attached := true },
   ({} : TopologyController).load labTopology)

/-- Two broadcasts of one sender, half a second times `i` after the start. -/
def storm (i : Nat) : Evaluation where
  batch := { packets := List.replicate 2 { classification := .broadcast } }
  timestampNs := 500000000 * i
  now := 500000000 * i

theorem stormLab_init : (analysing .broadcastStorm).init stormLab :=
  ⟨rfl, rfl, rfl, _, rfl, .inl rfl⟩

/-- The threshold, what the storm's sender is measured at, and the port it comes
in by. -/
def stormRead (state : AnalysisPipeline × TopologyController) : Nat × Nat × Option Bytes :=
  let traffic := trafficOf .broadcastStorm (.mac .zero) state.1.detector.observations
  (state.1.detector.config.broadcastPacketsThreshold, traffic.length,
    state.2.portIdAt (lastIngress traffic))

/-- While the storm goes on, a contained state has `h1` enforced. -/
private theorem Contained.storm {state : AnalysisPipeline × TopologyController}
    (h : Contained .broadcastStorm state) {measured : Nat}
    (hread : stormRead state = (1, measured, some (bytes "h1"))) (hmeasured : 1 < measured) :
    state.1.enforcer.isEnforced (bytes "h1") = true := by
  simp only [stormRead, Prod.mk.injEq] at hread
  obtain ⟨hthreshold, rfl, hport⟩ := hread
  refine h (.mac .zero) (bytes "h1") ⟨?_, ?_⟩ hport
  · exact hthreshold.trans_ne Nat.one_ne_zero
  · exact hthreshold.trans_lt hmeasured

/-- The storm begins, and `h1` is enforced. -/
theorem attack_contained_iff_firstStorm :
    ∃ final, (analysing .broadcastStorm).exec stormLab [storm 0] = some final ∧
      final.1.enforcer.isEnforced (bytes "h1") = true := by
  have hrun : ((analysing .broadcastStorm).exec stormLab [storm 0]).map stormRead =
      some (1, 2, some (bytes "h1")) := by
    decide +kernel
  obtain ⟨final, hexec, hread⟩ := Option.map_eq_some_iff.mp hrun
  have hcontained := (attack_contained_iff .broadcastStorm stormLab [storm 0] stormLab_init).2.mpr
    fun _ _ => ⟨?_, trivial⟩
  · exact ⟨final, hexec, (hcontained.last hexec).storm hread (by decide)⟩
  · -- The detector remembers nothing yet, so no anomaly goes on.
    intro source p _ _ hactive
    exact absurd hactive List.not_mem_nil

/-- **A lease lapses under the attack.** The storm is analysed every half second
and never falls below its threshold; after five seconds the lease on `h1` ends
and `h1` is no longer enforced. -/
theorem attack_escapes :
    ¬∀ calls : List Evaluation, calls.Pairwise (fun earlier later =>
        earlier.timestampNs ≤ later.timestampNs ∧ earlier.now ≤ later.now) →
      (analysing .broadcastStorm).States (Contained .broadcastStorm) stormLab calls := by
  intro h
  have hrun : ((analysing .broadcastStorm).exec stormLab ((List.range 11).map storm)).map
      (fun state => (stormRead state, state.1.enforcer.isEnforced (bytes "h1"))) =
        some ((1, 6, some (bytes "h1")), false) := by
    decide +kernel
  obtain ⟨final, hexec, hfinal⟩ := Option.map_eq_some_iff.mp hrun
  obtain ⟨hread, hreleased⟩ := Prod.mk.inj hfinal
  have hclocks : ((List.range 11).map storm).Pairwise (fun earlier later =>
      earlier.timestampNs ≤ later.timestampNs ∧ earlier.now ≤ later.now) := by
    refine List.pairwise_map.mpr (List.pairwise_lt_range.imp fun {i j} hlt => ?_)
    simp only [storm]
    omega
  rw [((h _ hclocks).last hexec).storm hread (by decide)] at hreleased
  exact absurd hreleased (by simp)

end WireLab
