import WireLab.Logic.BatchAnalysis
import WireLab.Logic.TrafficBytes
import WireLab.Logic.TrafficLedger

/-!
# Conservation of traffic

A session with a log of what became of every frame since its topology was committed
(`TrafficLog`). The port counters and the totals say what the log says
(`Conserved`), in every state of a run in which no device's analyzer throws
(`traffic_conserved_iff`). A tick whose analyzer throws has counted its frames on the
ports and leaves them out of the totals (`traffic_lost`).
-/

namespace WireLab

open Base

variable {δ β τ : Type}

/-- What a run knows about its frames since the topology was committed. -/
structure TrafficLog where
  generated : List Bytes := []
  fates : List FrameFate := []
  /-- What an analyzer was given. -/
  handed : List PacketView := []

namespace Session

/-- The generator of a tick, if one is taken. -/
def ticking (session : Session δ β τ) : Option DeterministicTrafficGenerator :=
  if session.trafficRunning ∧ session.hosts ≠ [] ∧ session.switchId ≠ [] then
    session.trafficGenerator
  else none

theorem ticking_iff {session : Session δ β τ} {generator : DeterministicTrafficGenerator} :
    session.ticking = some generator ↔ session.Ticks generator := by
  unfold ticking
  constructor
  · intro h
    split at h
    · next hlab => exact ⟨h, hlab.1, hlab.2.1, hlab.2.2⟩
    · cases h
  · intro h
    rw [if_pos ⟨h.running, h.hosts, h.switch⟩, h.generator]

/-- A call writes its frames into the log; a commit begins a new one. -/
def note (log : TrafficLog) (session : Session δ β τ) (command : SessionCommand)
    (_ : Session δ β τ) : TrafficLog :=
  match command, session.ticking with
  | .runTrafficStep arrival _, some generator =>
      let frames := session.tickFrames generator
      { generated := log.generated ++ frames
        fates := log.fates ++ session.tickFates arrival frames
        handed := log.handed ++
          (if session.trafficAnalyzer.isSome then (session.sendTick arrival frames).delivered
          else []) }
  | command, _ => if session.commits command then {} else log

/-- The counters of a session. -/
structure TrafficLedger where
  hosts : List Bytes
  portCounters : Dict Bytes PortCounters
  totalPackets : UInt64
  totalBytes : UInt64
  totalDropped : UInt64

def TrafficLedger.countersAt (ledger : TrafficLedger) (host : Bytes) : PortCounters :=
  (ledger.portCounters.lookup host).getD {}

def ledger (session : Session δ β τ) : TrafficLedger where
  hosts := session.hosts
  portCounters := session.portCounters
  totalPackets := session.totalPackets
  totalBytes := session.totalBytes
  totalDropped := session.totalDropped

/-- The counters are those of the log. -/
structure Counted (ledger : TrafficLedger) (log : TrafficLog) : Prop where
  counters : ∀ host, ledger.countersAt host = countersOf log.fates host
  totalPackets : ledger.totalPackets = .ofNat log.fates.length
  totalDropped : ledger.totalDropped = .ofNat (log.fates.map FrameFate.drops).sum
  totalBytes : ledger.totalBytes = .ofNat (log.fates.map FrameFate.deliveredBytes).sum
  /-- Every generated frame is in the log, once and in order. -/
  frames : log.fates.map FrameFate.frame = log.generated
  routed : ∀ fate ∈ log.fates, Routed ledger.hosts fate
  handed : log.handed = log.fates.flatMap FrameFate.views

/-- **Nothing is lost count of.** -/
structure Conserved (ledger : TrafficLedger) (log : TrafficLog) : Prop
    extends Counted ledger log where
  sumReceived :
    (ledger.hosts.map fun host => (ledger.countersAt host).received).sum = ledger.totalPackets
  sumDropped :
    (ledger.hosts.map fun host => (ledger.countersAt host).dropped).sum = ledger.totalDropped
  /-- A frame is dropped, or forwarded once a copy. -/
  received_le : ∀ host,
    receivedOn log.fates host ≤ forwardedOn log.fates host + droppedOn log.fates host
  received_eq : ∀ host,
    (∀ fate ∈ log.fates, fate.host = host → fate.duplicated = false) →
      receivedOn log.fates host = forwardedOn log.fates host + droppedOn log.fates host

/-- Every frame went to a host of the lab. -/
private theorem Counted.host_mem {ledger : TrafficLedger} {log : TrafficLog}
    (h : Counted ledger log) : ∀ fate ∈ log.fates, fate.host ∈ ledger.hosts := by
  intro fate hfate
  exact List.mem_of_getElem? (h.routed fate hfate).host

/-- What is counted right is conserved, the hosts being distinct. -/
theorem Counted.conserved {ledger : TrafficLedger} {log : TrafficLog}
    (h : Counted ledger log) (hnodup : ledger.hosts.Nodup) : Conserved ledger log where
  toCounted := h
  sumReceived := by
    have hsum := sum_countersOf hnodup h.host_mem fun _ => 1
    simp only [h.counters, h.totalPackets]
    rw [List.map_const', List.sum_replicate_nat, Nat.mul_one] at hsum
    exact hsum
  sumDropped := by
    simp only [h.counters, h.totalDropped]
    exact sum_countersOf hnodup h.host_mem FrameFate.drops
  received_le := receivedOn_le log.fates
  received_eq host hhost :=
    receivedOn_eq fun fate hfate hat => (h.routed fate hfate).single (hhost fate hfate hat)

/-- A session that counts what a new one does. -/
theorem counted_nil {ledger : TrafficLedger}
    (hcounters : ∀ host, ledger.countersAt host = {}) (hpackets : ledger.totalPackets = 0)
    (hbytes : ledger.totalBytes = 0) (hdropped : ledger.totalDropped = 0) :
    Counted ledger {} where
  counters := hcounters
  totalPackets := hpackets
  totalDropped := hdropped
  totalBytes := hbytes
  frames := rfl
  routed _ hfate := absurd hfate List.not_mem_nil
  handed := rfl

/-! ## One tick -/

/-- The ledger after the loop of a tick. -/
def TrafficLedger.loop (ledger : TrafficLedger) (tick : TrafficTick) : TrafficLedger :=
  { ledger with portCounters := tick.portCounters }

/-- The ledger with a tick's totals. -/
def TrafficLedger.total (ledger : TrafficLedger) (frames : Nat) (tick : TrafficTick) :
    TrafficLedger :=
  { ledger with
    totalPackets := ledger.totalPackets + .ofNat frames
    totalBytes := ledger.totalBytes + tick.tickBytes
    totalDropped := ledger.totalDropped + tick.tickDropped }

section
variable (session : Session δ β τ)

theorem ledger_afterFrames (generator : DeterministicTrafficGenerator) (tick : TrafficTick) :
    (session.afterFrames generator tick).ledger = session.ledger.loop tick :=
  rfl

theorem ledger_countTick (frames : Nat) (tick : TrafficTick)
    (analyzer : Option (TrafficAnalyzer δ)) :
    (session.countTick frames tick analyzer).ledger = session.ledger.total frames tick :=
  rfl

theorem ledger_addSample (dropped : UInt64) (throughputMbps averageLatencyMs : Float) :
    (session.addSample dropped throughputMbps averageLatencyMs).ledger = session.ledger := by
  simp only [ledger, addSample, hosts]

theorem ledger_showPackets (analysis : AnalysisBatch) :
    (session.showPackets analysis).ledger = session.ledger :=
  rfl

theorem ledger_withEngines (pipeline : AnalysisPipeline) (controller : TopologyController) :
    (session.withEngines pipeline controller).ledger = session.ledger :=
  rfl

theorem ledger_showOutcome (outcome : AnalysisOutcome) :
    (session.showOutcome outcome).ledger = session.ledger :=
  showOutcome_preserves (P := fun shown => shown.ledger = session.ledger) rfl (fun _ h => h)
    fun _ h => h

theorem ledger_showTraffic (env : SessionEnvironment δ β τ)
    (throughputMbps averageLatencyMs : Float) :
    (session.showTraffic env throughputMbps averageLatencyMs).ledger = session.ledger :=
  rfl

theorem ledger_stopTraffic : session.stopTraffic.ledger = session.ledger := by
  unfold stopTraffic
  split
  · rfl
  · rfl

end

/-- The ledger of a tick that is taken to its end. -/
theorem ledger_ticked (env : SessionEnvironment δ β τ) (generator : DeterministicTrafficGenerator)
    (arrival : Int) (analyzer : Option (TrafficAnalyzer δ)) (analysis : AnalysisBatch)
    (outcome : AnalysisOutcome) (pipeline : AnalysisPipeline) (controller : TopologyController)
    (throughputMbps averageLatencyMs : Float) (session : Session δ β τ) :
    ((((session.analysed generator arrival analyzer analysis).withEngines pipeline
        controller).showOutcome outcome).showTraffic env throughputMbps averageLatencyMs).ledger =
      (session.ledger.loop (session.sendTick arrival (session.tickFrames generator))).total
        (session.tickFrames generator).length
        (session.sendTick arrival (session.tickFrames generator)) := by
  rw [ledger_showTraffic, ledger_showOutcome, ledger_withEngines, analysed, ledger_showPackets,
    ledger_addSample, ledger_countTick, afterLoop, ledger_afterFrames]

section
variable {session : Session δ β τ} {log : TrafficLog} {generator : DeterministicTrafficGenerator}
  {arrival : Int}

/-- What a tick writes into the log. -/
theorem note_tick (hticks : session.Ticks generator) (harmed : session.Armed) (now : Int)
    (session' : Session δ β τ) :
    note log session (.runTrafficStep arrival now) session' =
      { generated := log.generated ++ session.tickFrames generator
        fates := log.fates ++ session.tickFates arrival (session.tickFrames generator)
        handed := log.handed ++
          (session.sendTick arrival (session.tickFrames generator)).delivered } := by
  have hanalyzer : session.trafficAnalyzer.isSome = true :=
    harmed.analyzer (by rw [hticks.generator]; exact Option.some_ne_none _)
  unfold note
  rw [ticking_iff.mpr hticks]
  simp only [hanalyzer, if_true]

/-- A tick that is taken to its end is counted. -/
theorem Counted.tick (h : Counted session.ledger log) (hticks : session.Ticks generator) :
    Counted
      ((session.ledger.loop (session.sendTick arrival (session.tickFrames generator))).total
        (session.tickFrames generator).length
        (session.sendTick arrival (session.tickFrames generator)))
      { generated := log.generated ++ session.tickFrames generator
        fates := log.fates ++ session.tickFates arrival (session.tickFrames generator)
        handed := log.handed ++
          (session.sendTick arrival (session.tickFrames generator)).delivered } := by
  have hbooks := session.sendTick_books arrival (session.tickFrames generator)
  have hframes := session.map_frame_tickFates arrival (session.tickFrames generator)
  have hrouted := session.frameFates_routed hticks.hosts session.switchId arrival
    (session.tickFrames generator).zipIdx session.topologyController
  generalize session.tickFrames generator = frames at *
  generalize session.sendTick arrival frames = tick at *
  refine
    { counters := fun host => ?_
      totalPackets := ?_
      totalDropped := ?_
      totalBytes := ?_
      frames := ?_
      routed := fun fate hfate => ?_
      handed := ?_ }
  · rw [countersOf_append, ← h.counters host]
    exact hbooks.counters host
  · rw [List.length_append, UInt64.ofNat_add, ← h.totalPackets,
      ← List.length_map FrameFate.frame, hframes]
    rfl
  · rw [List.map_append, List.sum_append, UInt64.ofNat_add, ← h.totalDropped]
    exact congrArg (session.totalDropped + ·) (hbooks.tickDropped.trans (UInt64.zero_add _))
  · rw [List.map_append, List.sum_append, UInt64.ofNat_add, ← h.totalBytes]
    exact congrArg (session.totalBytes + ·) (hbooks.tickBytes.trans (UInt64.zero_add _))
  · rw [List.map_append, h.frames, hframes]
  · rcases List.mem_append.mp hfate with hold | hnew
    · exact h.routed fate hold
    · exact hrouted fate hnew
  · rw [h.handed, hbooks.delivered, List.flatMap_append]
    rfl

end

/-! ## Every call -/

/-- No device throws at what a tick hands to it. -/
def AnalyzerAnswers (env : SessionEnvironment δ β τ) (session : Session δ β τ) :
    SessionCommand → Prop
  | .runTrafficStep arrival _ => ∀ generator device, session.Ticks generator →
      session.trafficAnalyzer = some (.accelerated device) →
      (session.sendTick arrival (session.tickFrames generator)).delivered ≠ [] →
      env.analyze device (session.sendTick arrival (session.tickFrames generator)).delivered ≠ none
  | _ => True

/-- A frame of a generator is as long as it was configured to be. -/
theorem length_of_mem_tickFrames {session : Session δ β τ}
    {generator : DeterministicTrafficGenerator} {frame : Bytes}
    (h : frame ∈ session.tickFrames generator) :
    frame.length = generator.config.frameSize.toNat := by
  obtain ⟨index, _, rfl⟩ := List.mem_map.mp h
  have hsized := UInt64.le_iff_toNat_le.mp generator.sized
  have hpopulated := UInt32.le_iff_toNat_le.mp generator.populated
  rw [Traffic.trafficFrame_eq hsized hpopulated, Option.getD_some,
    Traffic.length_frameBytes hsized]

/-- What is delivered are frames that were generated. -/
theorem bytes_of_mem_delivered {session : Session δ β τ} {arrival : Int} {frames : List Bytes}
    {packet : PacketView} (h : packet ∈ (session.sendTick arrival frames).delivered) :
    packet.bytes ∈ frames := by
  rw [(session.sendTick_books arrival frames).delivered] at h
  rcases List.mem_append.mp h with hnone | hmem
  · cases hnone
  · obtain ⟨fate, hfate, hview⟩ := List.mem_flatMap.mp hmem
    obtain ⟨_, rfl⟩ := List.mem_replicate.mp hview
    have hframe := List.mem_map_of_mem (f := FrameFate.frame) hfate
    rw [session.map_frame_tickFates arrival frames] at hframe
    exact hframe

/-- A tick's analyzer throws exactly where a device does. -/
theorem analyzeDelivered_eq_none (env : SessionEnvironment δ β τ) {session : Session δ β τ}
    {generator : DeterministicTrafficGenerator} (hticks : session.Ticks generator)
    (arrival now : Int) :
    analyzeDelivered env session.trafficAnalyzer
        (session.sendTick arrival (session.tickFrames generator)).delivered = none ↔
      ¬AnalyzerAnswers env session (.runTrafficStep arrival now) := by
  have hsize : ∀ packet ∈ (session.sendTick arrival (session.tickFrames generator)).delivered,
      packet.bytes.length < 2 ^ 64 := by
    intro packet hpacket
    rw [length_of_mem_tickFrames (bytes_of_mem_delivered hpacket)]
    exact UInt64.toNat_lt _
  have hsame : ∀ other, session.Ticks other → other = generator := fun other hother =>
    Option.some.inj (hother.generator.symm.trans hticks.generator)
  unfold analyzeDelivered AnalyzerAnswers
  cases hempty : (session.sendTick arrival (session.tickFrames generator)).delivered.isEmpty with
  | true =>
      simp only [if_true, reduceCtorEq, false_iff, not_not]
      intro other device hother _ hdelivered
      obtain rfl := hsame other hother
      exact absurd (List.isEmpty_iff.mp hempty) hdelivered
  | false =>
      have hdelivered := List.isEmpty_eq_false_iff.mp hempty
      simp only [Bool.false_eq_true, if_false]
      cases hanalyzer : session.trafficAnalyzer with
      | none => simp
      | some analyzer =>
          cases analyzer with
          | cpu learnedMacs => simp [CpuPacketAnalyzer.analyze_eq hsize]
          | accelerated device =>
              simp only [Option.map_eq_none_iff]
              constructor
              · intro hthrew hanswers
                exact hanswers generator device hticks rfl hdelivered hthrew
              · intro hrefuses
                by_contra hanswers
                refine hrefuses fun other device' hother hdevice _ => ?_
                obtain rfl := hsame other hother
                obtain rfl : device = device' := by simpa using hdevice
                exact hanswers

/-- A new simulation counts nothing. -/
theorem lookup_fresh (hosts : List Bytes) (host : Bytes) (counters : Dict Bytes PortCounters)
    (h : (counters.lookup host).getD {} = {}) :
    ((hosts.foldl (fun counters host => counters.insert host {}) counters).lookup host).getD {} =
      ({} : PortCounters) := by
  induction hosts generalizing counters with
  | nil => exact h
  | cons other hosts ih =>
      refine ih _ ?_
      rw [Dict.lookup_insert]
      split
      · rfl
      · exact h

theorem counted_replaced (session : Session δ β τ) (configuration : TopologyConfiguration)
    (topology : Topology) (message : Bytes) (now : Int) :
    Counted (session.replaceTopology configuration topology message now).ledger {} :=
  counted_nil (fun host => lookup_fresh _ host ∅ rfl) rfl rfl rfl

/-- What a call that takes no tick does to the ledger and the log. -/
theorem quiet_perform {env : SessionEnvironment δ β τ} {session : Session δ β τ}
    {command : SessionCommand} (hcommits : session.commits command = false)
    (hidle : ∀ arrival now generator, command = .runTrafficStep arrival now →
      ¬session.Ticks generator) :
    (command.perform env session).2.ledger = session.ledger := by
  have houtcome := perform_outcome env session command
  generalize command.perform env session = result at houtcome
  cases houtcome with
  | replaced path configuration topology message now hrequested hcreate =>
      have hcommitted := commits_iff.mpr ⟨configuration, topology, hrequested, hcreate⟩
      rw [hcommits] at hcommitted
      cases hcommitted
  | stopped => exact session.ledger_stopTraffic
  | halted message => exact session.ledger_stopTraffic
  | tickThrew hticks => exact absurd hticks (hidle _ _ _ rfl)
  | ticked _ _ _ hticks => exact absurd hticks (hidle _ _ _ rfl)
  | _ => rfl

theorem note_quiet {session : Session δ β τ} {command : SessionCommand}
    (hidle : ∀ arrival now generator, command = .runTrafficStep arrival now →
      ¬session.Ticks generator) (log : TrafficLog) (session' : Session δ β τ) :
    note log session command session' = if session.commits command then {} else log := by
  unfold note
  split
  · next arrival now generator hticking =>
      exact absurd (ticking_iff.mp hticking) (hidle arrival now generator rfl)
  · rfl

/-- A tick conserves exactly where its analyzer answers. -/
theorem conserved_tick {env : SessionEnvironment δ β τ} {session : Session δ β τ}
    {log : TrafficLog} {generator : DeterministicTrafficGenerator} (hsettled : session.Settled)
    (harmed : session.Armed) (hticks : session.Ticks generator)
    (h : Conserved session.ledger log) (arrival now : Int) :
    Conserved (session.runTrafficStep env arrival now).2.ledger
        (note log session (.runTrafficStep arrival now)
          (session.runTrafficStep env arrival now).2) ↔
      AnalyzerAnswers env session (.runTrafficStep arrival now) := by
  have hthrows := analyzeDelivered_eq_none env hticks arrival now
  rw [note_tick hticks harmed]
  rcases runTrafficStep_ticks env hticks arrival now with
    ⟨hthrew, hrun⟩ | ⟨_, _, _, _, _, _, _, _, hanalysed, _, hrun⟩
  · -- The frames are on the ports, and not in the totals.
    refine ⟨fun hconserved => ?_, fun hanswers => absurd hanswers (hthrows.mp hthrew)⟩
    rw [hrun] at hconserved
    have hnow : session.totalPackets = UInt64.ofNat log.fates.length := h.totalPackets
    have hafter : session.totalPackets = UInt64.ofNat (log.fates ++ session.tickFates arrival
      (session.tickFrames generator)).length := hconserved.totalPackets
    have hframes : (session.tickFates arrival (session.tickFrames generator)).length =
        session.packetsPerTick.toInt.toNat := by
      rw [← List.length_map FrameFate.frame, session.map_frame_tickFates]
      exact (List.length_map _).trans List.length_range
    rw [List.length_append, hframes, UInt64.ofNat_add, ← hnow] at hafter
    have hpositive := harmed.ticks
    have hbound := Int32.toInt_lt session.packetsPerTick
    have hnat := congrArg UInt64.toNat (UInt64.left_eq_add.mp hafter)
    rw [UInt64.toNat_ofNat'] at hnat
    simp only [UInt64.toNat_zero] at hnat
    omega
  · have hanswers : AnalyzerAnswers env session (.runTrafficStep arrival now) := by
      by_contra hrefuses
      rw [hthrows.mpr hrefuses] at hanalysed
      cases hanalysed
    refine ⟨fun _ => hanswers, fun _ => ?_⟩
    rw [hrun, ledger_ticked]
    exact (h.toCounted.tick hticks).conserved hsettled.hosts_nodup

/-- **Every call conserves, but for a tick whose device throws.** -/
theorem conserved_perform (env : SessionEnvironment δ β τ) {session : Session δ β τ}
    {log : TrafficLog} (hsettled : session.Settled) (harmed : session.Armed)
    (h : Conserved session.ledger log) (command : SessionCommand) :
    Conserved (command.perform env session).2.ledger
        (note log session command (command.perform env session).2) ↔
      AnalyzerAnswers env session command := by
  by_cases htick : ∃ arrival now generator, command = .runTrafficStep arrival now ∧
      session.Ticks generator
  · obtain ⟨arrival, now, generator, rfl, hticks⟩ := htick
    exact conserved_tick hsettled harmed hticks h arrival now
  · have hidle : ∀ arrival now generator, command = .runTrafficStep arrival now →
        ¬session.Ticks generator :=
      fun arrival now generator hcommand hticks => htick ⟨arrival, now, generator, hcommand, hticks⟩
    have hanswers : AnalyzerAnswers env session command := by
      cases command with
      | runTrafficStep arrival now =>
          exact fun generator _ hticks => absurd hticks (hidle arrival now generator rfl)
      | _ => trivial
    refine ⟨fun _ => hanswers, fun _ => ?_⟩
    rw [note_quiet hidle]
    cases hcommits : session.commits command with
    | true =>
        obtain ⟨configuration, topology, hrequested, hcreate⟩ := commits_iff.mp hcommits
        obtain ⟨path, message, now, hperform⟩ := perform_accepted env hrequested hcreate
        have hnodup := (hsettled.perform env command).hosts_nodup
        rw [hperform] at hnodup ⊢
        exact (counted_replaced (session.withPath path) configuration topology message
          now).conserved hnodup
    | false =>
        rw [quiet_perform hcommits hidle]
        exact h

/-! ## Runs -/

/-- A session with the log of its traffic. -/
def tracedSession (env : SessionEnvironment δ β τ) :
    TSys (Session δ β τ × TrafficLog) SessionCommand :=
  (sessionCommands env).withGhost {} note

/-- Nothing is lost count of in a session and its log. -/
def TrafficConserved (state : Session δ β τ × TrafficLog) : Prop :=
  Conserved state.1.ledger state.2

theorem conserved_create (now : Int) :
    TrafficConserved ((Session.create now : Session δ β τ), ({} : TrafficLog)) :=
  (counted_nil (fun _ => rfl) rfl rfl rfl).conserved List.nodup_nil

end Session

open Session

/-- **A run loses count of nothing exactly while its analyzers answer.** For every
environment and every run of commands from a new session, of any length: the ports
and the totals count what became of every frame since the last commit, and the
analyzers were handed exactly the forwarded copies, in every state of the run, if and
only if no device's analyzer throws at what a tick hands to it. The analyzer of the
CPU never does. -/
theorem traffic_conserved_iff (env : SessionEnvironment δ β τ) (now : Int)
    (commands : List SessionCommand) :
    (tracedSession env).States TrafficConserved (Session.create now, {}) commands ↔
      (tracedSession env).Steps (fun state command _ => AnalyzerAnswers env state.1 command)
        (Session.create now, {}) commands := by
  have hnew : (sessionCommands env).Reachable (Session.create now) := .init ⟨now, rfl⟩
  refine TSys.States.iff_steps (I := fun state => state.1.Settled ∧ state.1.Armed) ?_ ?_ commands _
    ⟨settled_reachable hnew, armed_reachable hnew⟩ (conserved_create now)
  · rintro ⟨session, log⟩ command ⟨session', log'⟩ ⟨hsettled, harmed⟩ hstep
    obtain ⟨hperform, _⟩ := TSys.withGhost_step.mp hstep
    obtain rfl := Option.some.inj hperform
    exact ⟨hsettled.perform env command, harmed.perform env command⟩
  · rintro ⟨session, log⟩ command ⟨session', log'⟩ ⟨hsettled, harmed⟩ hconserved hstep
    obtain ⟨hperform, hnote⟩ := TSys.withGhost_step.mp hstep
    obtain rfl := Option.some.inj hperform
    have hlog : log' = note log session command (command.perform env session).2 := hnote
    rw [hlog]
    exact conserved_perform env hsettled harmed hconserved command

/-- A build whose device takes frames of at most 65535 bytes. -/
def shortFrameBuild : SessionEnvironment Unit (List MacAddress) Unit :=
  { cpuBuild with
    accelerated := [bytes "CUDA"]
    device := fun _ => some ()
    analyze := fun _ packets =>
      if packets.any fun packet => 65535 < packet.bytes.length then none
      else (CpuPacketAnalyzer.analyze [] packets).map fun (analysis, _) => (analysis, ()) }

/-- Two hosts with links, and traffic of frames that the device does not take. -/
def longFrameLab : Session Unit (List MacAddress) Unit :=
  (((twoHosts.addLink (bytes "client") (bytes "core") 0 4).addLink (bytes "server")
    (bytes "core") 0 5).startTraffic shortFrameBuild (bytes "mixed-traffic") 1 65536 1
      (bytes "CUDA")).2

/-- The calls that make it. -/
def longFrameCommands : List SessionCommand :=
  [.addNode (bytes "core") (bytes "switch") 1, .addNode (bytes "client") (bytes "host") 2,
    .addNode (bytes "server") (bytes "host") 3, .addLink (bytes "client") (bytes "core") 0 4,
    .addLink (bytes "server") (bytes "core") 0 5,
    .startTraffic (bytes "mixed-traffic") 1 65536 1 (bytes "CUDA")]

theorem longFrameLab_reachable : (sessionCommands shortFrameBuild).Reachable longFrameLab :=
  have hrun : (sessionCommands shortFrameBuild).exec (Session.create 0) longFrameCommands =
    some longFrameLab := rfl
  .exec (.init ⟨0, rfl⟩) hrun

/-- A frame of theirs leaves its link, whatever it holds. -/
private theorem longFrameLab_delivers (frame : Bytes) :
    (longFrameLab.sendTick 6 [frame]).delivered ≠ [] :=
  List.isEmpty_eq_false_iff.mp rfl

/-- The device throws at the first tick. -/
private theorem longFrameLab_refuses {generator : DeterministicTrafficGenerator}
    (hticks : longFrameLab.Ticks generator)
    (hsize : generator.config.frameSize.toNat = 65536) :
    ¬AnalyzerAnswers shortFrameBuild longFrameLab (.runTrafficStep 6 7) := by
  intro hanswers
  have hanalyzer : longFrameLab.trafficAnalyzer = some (.accelerated ()) := rfl
  obtain ⟨frame, hframe⟩ : ∃ frame, longFrameLab.tickFrames generator = [frame] := ⟨_, rfl⟩
  have hdelivered : (longFrameLab.sendTick 6 (longFrameLab.tickFrames generator)).delivered ≠ [] :=
    hframe ▸ longFrameLab_delivers frame
  refine hanswers generator () hticks hanalyzer hdelivered (if_pos ?_)
  obtain ⟨packet, hpacket⟩ := List.exists_mem_of_ne_nil _ hdelivered
  have hlength := length_of_mem_tickFrames (bytes_of_mem_delivered hpacket)
  exact List.any_eq_true.mpr ⟨packet, hpacket, by simpa using by omega⟩

/-- A call that takes no tick leaves a new log new. -/
private theorem skip {env : SessionEnvironment δ β τ} {session : Session δ β τ}
    {command : SessionCommand} {commands : List SessionCommand}
    (h : (tracedSession env).States TrafficConserved (session, {}) (command :: commands))
    (hother : ∀ arrival now, command ≠ .runTrafficStep arrival now) :
    (tracedSession env).States TrafficConserved ((command.perform env session).2, {})
      commands := by
  have hidle : ∀ arrival now generator, command = .runTrafficStep arrival now →
      ¬session.Ticks generator :=
    fun arrival now _ hcommand => absurd hcommand (hother arrival now)
  have hrest := h.2 ((command.perform env session).2,
    note {} session command (command.perform env session).2) rfl
  rwa [note_quiet hidle, ite_self] at hrest

/-- A tick at which a device throws breaks conservation. -/
private theorem lost_of_refused {env : SessionEnvironment δ β τ} {session : Session δ β τ}
    {generator : DeterministicTrafficGenerator} {arrival now : Int} (hsettled : session.Settled)
    (harmed : session.Armed) (hticks : session.Ticks generator)
    (hrefuses : ¬AnalyzerAnswers env session (.runTrafficStep arrival now)) :
    ¬(tracedSession env).States TrafficConserved (session, {}) [.runTrafficStep arrival now] := by
  intro h
  have hafter := h.2 ((session.runTrafficStep env arrival now).2,
    note {} session (.runTrafficStep arrival now) (session.runTrafficStep env arrival now).2) rfl
  exact hrefuses ((conserved_tick hsettled harmed hticks h.1 arrival now).mp hafter)

/-- One tick of such traffic is on the ports, and not in the totals. -/
theorem traffic_lost :
    ¬(tracedSession shortFrameBuild).States TrafficConserved (Session.create 0, {})
      (longFrameCommands ++ [.runTrafficStep 6 7]) := by
  intro h
  simp only [longFrameCommands, List.cons_append, List.nil_append] at h
  obtain ⟨generator, hticking, hsize⟩ : ∃ generator, longFrameLab.ticking = some generator ∧
      generator.config.frameSize.toNat = 65536 := by
    have hsized : longFrameLab.ticking.map (fun generator => generator.config.frameSize.toNat) =
        some 65536 := by decide +kernel
    exact Option.map_eq_some_iff.mp hsized
  have hticks := ticking_iff.mp hticking
  have hhosts := skip (skip (skip h (by simp)) (by simp)) (by simp)
  have hlinks := skip (skip hhosts (by simp)) (by simp)
  have hlab : (tracedSession shortFrameBuild).States TrafficConserved (longFrameLab, {})
      [.runTrafficStep 6 7] := skip hlinks (by simp)
  exact lost_of_refused (settled_reachable longFrameLab_reachable)
    (armed_reachable longFrameLab_reachable) hticks (longFrameLab_refuses hticks hsize) hlab

end WireLab
