import WireLab.Logic.Accusations
import WireLab.Logic.JsonScanner
import WireLab.Model.SwitchProcess
import WireLab.Theorems.AnalysedFrames
import WireLab.Theorems.LabNetwork

/-!
# The supervised lab

A lab around a switch process that was started with a topology and without a control
channel. In every run the switch lets a frame in exactly when the port of its sender holds
no lease (`supervised_switch_contains`), and a port holds a lease only if more frames of one
kind were received than its threshold, the last of them from that port's sender
(`contained_port_accused`).
-/

namespace WireLab

open Base TopologyController PolicyEnforcer

/-! ## The process -/

section
variable {α : Type} {machine : SwitchMachine α} {options : SwitchOptions}
  {supervisor : SwitchSupervisor α}

theorem installDefaultPolicies_rules :
    (installDefaultPolicies livePipeline).policies.rules = defaultPolicies := by
  decide +kernel

/-- What supervises a switch without a control channel. -/
theorem superviseSwitch_spec (h : superviseSwitch machine options = .ok supervisor)
    (hcontrol : options.controlPort = none) :
    ∃ topology analyzer, supervisor = .create (installDefaultPolicies livePipeline)
      (({} : TopologyController).load topology) {} analyzer := by
  rw [superviseSwitch] at h
  obtain ⟨configuration, _, h⟩ := bind_ok.mp h
  obtain ⟨topology, _, h⟩ := bind_ok.mp h
  obtain ⟨analyzer, _, h⟩ := bind_ok.mp h
  rw [hcontrol] at h
  exact ⟨topology, analyzer, (Except.ok.inj h).symm⟩

/-- The gate of a switch that was started with a topology. -/
theorem startSwitch_spec {arguments : List Bytes} {vswitch : VSwitch (SwitchSupervisor α)}
    (h : startSwitch machine arguments = .ok (options, vswitch))
    (htopology : options.topologyPath ≠ []) :
    ∃ supervisor, vswitch.gate = some supervisor ∧
      superviseSwitch machine options = .ok supervisor := by
  cases arguments with
  | nil => cases h
  | cons portText arguments =>
      rw [startSwitch] at h
      obtain ⟨parsed, _, h⟩ := bind_ok.mp h
      obtain ⟨_, _, h⟩ := bind_ok.mp h
      cases hport : parsePort portText with
      | none =>
          rw [hport] at h
          cases h
      | some port =>
          rw [hport] at h
          obtain ⟨created, _, h⟩ := bind_ok.mp h
          by_cases hempty : parsed.topologyPath.isEmpty = true
          · rw [if_pos hempty] at h
            obtain ⟨rfl, _⟩ := Prod.mk.inj (Except.ok.inj h)
            exact absurd (List.isEmpty_iff.mp hempty) htopology
          · rw [if_neg hempty] at h
            obtain ⟨supervisor, hsupervisor, h⟩ := bind_ok.mp h
            obtain ⟨rfl, rfl⟩ := Prod.mk.inj (Except.ok.inj h)
            exact ⟨supervisor, rfl, hsupervisor⟩

/-- A supervisor with the policies and thresholds of a lab switch, whose leases all have
their frames. -/
structure Live (seen : List (Endpoint × Bytes)) (supervisor : SwitchSupervisor α) : Prop where
  accountable : Accountable seen supervisor
  rules : supervisor.pipeline.policies.rules = defaultPolicies
  config : supervisor.pipeline.detector.config = liveAnomalyConfig

/-- It begins without leases. -/
theorem live_create (topology : Topology) (object : α) :
    Live [] (SwitchSupervisor.create (installDefaultPolicies livePipeline)
      (({} : TopologyController).load topology) {} object) := by
  have hnone (p : Bytes) : (∅ : Dict Bytes Lease).lookup p = none := Dict.lookup_empty p
  refine ⟨⟨⟨rfl, rfl, .of_no_leases hnone, ?_, ?_, ?_, ?_⟩, ⟨[], [], .slnil, .nil, .nil⟩, ?_⟩,
    installDefaultPolicies_rules, rfl⟩
  · intro p
    exact (operatorFault_unleased (hnone p)).trans (faultAt_load topology (.port p))
  · intro rule hrule
    have hdefault : rule ∈ defaultPolicies := installDefaultPolicies_rules ▸ hrule
    simp only [defaultPolicies, List.mem_cons, List.not_mem_nil, or_false] at hdefault
    rcases hdefault with rfl | rfl | rfl | rfl <;> simp
  · intro p lease hlease
    exact absurd ((hnone p).symm.trans hlease) (by simp)
  · intro name binding hbinding
    exact absurd ((Dict.lookup_empty name).symm.trans hbinding) (by simp)
  · intro p hlease
    rw [isEnforced, show (SwitchSupervisor.create (installDefaultPolicies livePipeline)
      (({} : TopologyController).load topology) {} object).pipeline.enforcer.leases.lookup p = none
      from hnone p] at hlease
    cases hlease

theorem supervisorGate_live {analyzer : PacketAnalyzer α} (hjudges : analyzer.Judges) :
    (supervisorGate analyzer).Keeps Live := by
  refine supervisorGate_keeps ?_ ?_ ?_ ?_
  · exact fun _ _ h => h.accountable.governed.uncontrolled
  · intro seen supervisor frameData sender h hfits
    obtain ⟨_, hpipeline, _⟩ := record_same supervisor frameData sender
    exact ⟨h.accountable.record sender hfits, by rw [hpipeline, h.rules],
      by rw [hpipeline, h.config]⟩
  · intro seen before after now h hanalyses
    obtain ⟨outcome, hevaluate⟩ := hanalyses.evaluated
    obtain ⟨hanalysed, _⟩ := AnalysisPipeline.evaluate_spec hevaluate
    have hrules := before.pipeline.policies.evaluate_rules outcome.anomalies
    rw [hanalysed.decided] at hrules
    exact ⟨h.accountable.analyse hjudges hanalyses, hrules.trans h.rules,
      (AnomalyDetector.evaluate_detects hanalysed.detected).config.trans h.config⟩
  · intro seen supervisor portId frameData arrival h
    obtain ⟨hpipeline, _⟩ := judge_pipeline supervisor portId frameData arrival
    exact ⟨h.accountable.judge portId frameData arrival, by rw [hpipeline, h.rules],
      by rw [hpipeline, h.config]⟩

/-- A switch process that is supervised begins live. -/
theorem startSwitch_live {arguments : List Bytes} {vswitch : VSwitch (SwitchSupervisor α)}
    (h : startSwitch machine arguments = .ok (options, vswitch))
    (htopology : options.topologyPath ≠ []) (hcontrol : options.controlPort = none) :
    ∃ supervisor, vswitch.gate = some supervisor ∧ Live [] supervisor := by
  obtain ⟨supervisor, hgate, hsupervise⟩ := startSwitch_spec h htopology
  obtain ⟨topology, object, rfl⟩ := superviseSwitch_spec hsupervise hcontrol
  exact ⟨_, hgate, live_create topology object⟩

end

/-! ## A lab that is started -/

/-- The analyzer of a process without a device. -/
theorem cpuAnalyzer_judges : cpuAnalyzer.Judges := by
  intro learnedMacs views hsizes
  have hpackets : (cpuAnalyzer.analyze learnedMacs views).1.packets =
      judgeAll learnedMacs (parsedPackets views) := by
    show ((CpuPacketAnalyzer.analyze learnedMacs views).getD ({}, learnedMacs)).1.packets = _
    rw [CpuPacketAnalyzer.analyze_eq hsizes]
    exact List.nil_append _
  rw [hpackets]
  clear hsizes hpackets
  induction views generalizing learnedMacs with
  | nil => exact .nil
  | cons view views ih => exact .cons ⟨learnedMacs, rfl⟩ (ih _)

/-- A machine with the file of the lab. -/
def labMachine : SwitchMachine (List MacAddress) where
  files := labEnv.files
  socket := some { results := fun _ => true }
  binds _ := true
  analyzer _ := .ok []
  listens _ _ := .ok ()

def labArguments : List Bytes := [bytes "5000", bytes "--topology", bytes "lab.yaml"]

def labOptions : SwitchOptions := { topologyPath := bytes "lab.yaml" }

theorem labOptions_topology : labOptions.topologyPath ≠ [] := by
  simp [labOptions, bytes]

/-- The network of a switch, with the ports of `smallNetwork`. -/
def supervisedNetwork {γ : Type} (vswitch : VSwitch γ) : LabNetwork γ :=
  { address := labHost 0, vswitch, ports := smallNetwork.ports }

/-- A host floods its network with broadcasts, and the switch looks at them with the last. -/
def floodingHost : List (LabTurn × Option Nat) :=
  (List.range 103).flatMap fun (index : Nat) =>
    [(.tapToSwitch 0 (some (headerFrame MacAddress.broadcast (labMac 1))) true, none),
      (.vswitch 0 (if index = 102 then 1000000000 else 1) 0, some index)]

/-- The process starts, and behind the flood the host is contained. -/
theorem floodingHost_contained : ∃ vswitch state supervisor,
    startSwitch labMachine labArguments = .ok (labOptions, vswitch) ∧
      (labNetwork (supervisorGate cpuAnalyzer)).system.exec (supervisedNetwork vswitch, [])
        floodingHost = some state ∧
      state.1.vswitch.gate = some supervisor ∧
      supervisor.pipeline.enforcer.isEnforced (bytes "h1") = true := by
  have hcontained : ((startSwitch labMachine labArguments).toOption.bind fun started =>
      ((labNetwork (supervisorGate cpuAnalyzer)).system.exec (supervisedNetwork started.2, [])
        floodingHost).bind fun state => state.1.vswitch.gate.map fun supervisor =>
          (started.1, supervisor.pipeline.enforcer.isEnforced (bytes "h1"))) =
        some (labOptions, true) := by
    decide +kernel
  obtain ⟨started, hstarted, hflooded⟩ := Option.bind_eq_some_iff.mp hcontained
  obtain ⟨state, hrun, hwatched⟩ := Option.bind_eq_some_iff.mp hflooded
  obtain ⟨supervisor, hgate, hresult⟩ := Option.map_eq_some_iff.mp hwatched
  obtain ⟨hoptions, hleased⟩ := Prod.mk.inj hresult
  refine ⟨started.2, state, supervisor, ?_, hrun, hgate, hleased⟩
  rw [← hoptions]
  generalize startSwitch labMachine labArguments = result at hstarted ⊢
  cases result with
  | error failure => cases hstarted
  | ok _ => exact congrArg Except.ok (Option.some.inj hstarted)

/-- A frame of the first host is read, and received by the switch. -/
def firstFrame : List (LabTurn × Option Nat) :=
  [(.tapToSwitch 0 (some (headerFrame (labMac 9) (labMac 1))) true, none),
    (.vswitch 0 0 0, some 0)]

/-- The turn of the switch. -/
def firstTurn {γ : Type} (vswitch : VSwitch γ) : Parties.Turn (LabNetwork γ) LabTurn Datagram where
  before := (supervisedNetwork vswitch).replacePort 0
    { endpoint := labHost 1, vswitchEndpoint := labHost 0
      read := [headerFrame (labMac 9) (labMac 1)] }
  input := .vswitch 0 0 0
  received := some
    { data := headerFrame (labMac 9) (labMac 1), source := labHost 1, destination := labHost 0 }

theorem firstFrame_turns {γ : Type} (plane : FrameGate γ) (vswitch : VSwitch γ) :
    ∃ turn, (labNetwork plane).turns (supervisedNetwork vswitch, []) firstFrame =
      [turn, firstTurn vswitch] := by
  have hread : (labNetwork plane).step (supervisedNetwork vswitch, [])
      (.tapToSwitch 0 (some (headerFrame (labMac 9) (labMac 1))) true, none) =
        some ((firstTurn vswitch).before, (firstTurn vswitch).received.toList) := rfl
  have hreceives : ((labNetwork plane).step
      ((firstTurn vswitch).before, (firstTurn vswitch).received.toList)
      (.vswitch 0 0 0, some 0)).isSome = true := by
    simp [Parties.step, firstTurn, labNetwork, LabNetwork.turn, LabNetwork.replacePort,
      supervisedNetwork]
  obtain ⟨state, hstate⟩ := Option.isSome_iff_exists.mp hreceives
  exact ⟨_, (Parties.turns_cons hread _).trans
    (congrArg (List.cons _) (Parties.turns_cons hstate []))⟩

/-! ## The lab -/

section
variable {α : Type} {machine : SwitchMachine α} {arguments : List Bytes} {options : SwitchOptions}
  {network : LabNetwork (SwitchSupervisor α)}

/-- **The switch lets in exactly who is not contained.** In every run of a lab around a
switch process with a topology and without a control channel, whatever its analyzer: of each
well-formed frame that the switch receives it asks its supervisor, and lets it in exactly
when the port of its sender then holds no lease. -/
theorem supervised_switch_contains (analyzer : PacketAnalyzer α)
    (hstart : startSwitch machine arguments = .ok (options, network.vswitch))
    (htopology : options.topologyPath ≠ []) (hcontrol : options.controlPort = none)
    {labels : List (LabTurn × Option Nat)}
    {turn : Parties.Turn (LabNetwork (SwitchSupervisor α)) LabTurn Datagram}
    (hturn : turn ∈ (labNetwork (supervisorGate analyzer)).turns (network, []) labels)
    {drained processed ticked : Int} (hinput : turn.input = .vswitch drained processed ticked)
    {datagram : Datagram} (hreceived : turn.received = some datagram) {frame : EthernetFrame}
    (hparse : EthernetFrame.tryParse (datagram.data.take receiveBuffer) = .ok frame) :
    ∃ before decision outcome after, turn.before.vswitch.gate = some before ∧
      before.inspect analyzer id (datagram.data.take receiveBuffer) datagram.source processed =
        some (decision, outcome, after) ∧
      (LabNetwork.Admits (supervisorGate analyzer) turn datagram.source
          (datagram.data.take receiveBuffer) frame ↔
        after.contains datagram.source = false) := by
  obtain ⟨start, hgate, hlive⟩ := startSwitch_live hstart htopology hcontrol
  obtain ⟨earlier, _, before, hbefore, hgoverned⟩ :=
    LabNetwork.labNetwork_turn_gate (supervisorGate_governed analyzer) hgate
      hlive.accountable.governed hturn
  obtain ⟨⟨decision, outcome, after⟩, hinspect⟩ := inspect_returns analyzer id before
    (datagram.data.take receiveBuffer) datagram.source processed
  refine ⟨before, decision, outcome, after, hbefore, hinspect, ?_⟩
  have hblocks := hgoverned.inspect_blocks hinspect
  -- what the gate decides is what the switch does
  have hadmitted : (turn.before.vswitch.drainDue drained).admitted (supervisorGate analyzer)
      (datagram.data.take receiveBuffer) datagram.source processed =
        if after.contains datagram.source then none else some (frame, decision) := by
    simp only [VSwitch.admitted, hparse, VSwitch.inspect, VSwitch.drainDue_gate, hbefore,
      supervisorGate_inspect hinspect, ← hblocks]
  rw [LabNetwork.Admits]
  constructor
  · rintro ⟨drained', now, ticked', other, decision', hinput', hreceived', _, _, hlet⟩
    rw [hinput] at hinput'
    obtain ⟨rfl, rfl, rfl⟩ := LabTurn.vswitch.inj hinput'
    rw [hadmitted] at hlet
    split at hlet
    · cases hlet
    · next hfree => exact Bool.eq_false_iff.mpr hfree
  · intro hfree
    refine ⟨drained, processed, ticked, datagram, decision, hinput, hreceived, rfl, rfl, ?_⟩
    rw [hadmitted, hfree, if_neg (by simp)]

/-- The first frame of a host. -/
theorem supervised_switch_contains_first : ∃ vswitch before decision outcome after,
    startSwitch labMachine labArguments = .ok (labOptions, vswitch) ∧
      vswitch.gate = some before ∧
      before.inspect cpuAnalyzer id ((headerFrame (labMac 9) (labMac 1)).take receiveBuffer)
        (labHost 1) 0 = some (decision, outcome, after) ∧
      (LabNetwork.Admits (supervisorGate cpuAnalyzer) (firstTurn vswitch) (labHost 1)
          ((headerFrame (labMac 9) (labMac 1)).take receiveBuffer)
          { dstMac := labMac 9, srcMac := labMac 1, ethertype := 0x800 } ↔
        after.contains (labHost 1) = false) := by
  obtain ⟨vswitch, _, _, hstart, _⟩ := floodingHost_contained
  obtain ⟨turn, hturns⟩ := firstFrame_turns (supervisorGate cpuAnalyzer) vswitch
  have hturn : firstTurn vswitch ∈ (labNetwork (supervisorGate cpuAnalyzer)).turns
      (supervisedNetwork vswitch, []) firstFrame := by
    rw [hturns]
    exact List.mem_cons_of_mem _ List.mem_cons_self
  obtain ⟨before, decision, outcome, after, hresult⟩ := @supervised_switch_contains _ labMachine
    labArguments labOptions (supervisedNetwork vswitch) cpuAnalyzer hstart labOptions_topology rfl
    firstFrame (firstTurn vswitch) hturn 0 0 0 rfl _ rfl
    { dstMac := labMac 9, srcMac := labMac 1, ethertype := 0x800 } rfl
  exact ⟨vswitch, before, decision, outcome, after, hstart, hresult⟩

/-- **Nobody is contained without cause.** In every run of such a lab, for every port that
holds a lease: the supervisor was asked about more frames of a broadcast storm, an unknown
unicast flood or a UDP flood of one source than its threshold is, and the last of them was
sent by a sender of this port. -/
theorem contained_port_accused {analyzer : PacketAnalyzer α} (hjudges : analyzer.Judges)
    (hstart : startSwitch machine arguments = .ok (options, network.vswitch))
    (htopology : options.topologyPath ≠ []) (hcontrol : options.controlPort = none)
    {labels : List (LabTurn × Option Nat)}
    {state : LabNetwork (SwitchSupervisor α) × List Datagram}
    (hrun : (labNetwork (supervisorGate analyzer)).system.exec (network, []) labels = some state) :
    ∃ supervisor, state.1.vswitch.gate = some supervisor ∧
      ∀ portId, supervisor.pipeline.enforcer.isEnforced portId = true →
        ∃ (type : AnomalyType) (source : AnomalySource) (frames : List (Endpoint × Bytes))
            (last : Endpoint × Bytes) (binding : Binding),
          (type = .broadcastStorm ∨ type = .unknownUnicastFlood ∨ type = .udpFlood) ∧
          frames.Sublist (LabNetwork.inspectedFrames
            ((labNetwork (supervisorGate analyzer)).turns (network, []) labels)) ∧
          (∀ frame ∈ frames, CountsFor type source frame.2) ∧
          type.threshold liveAnomalyConfig < frames.length ∧
          frames.getLast? = some last ∧
          supervisor.bindings.lookup last.1.toString = some binding ∧ binding.portId = portId := by
  obtain ⟨start, hgate, hlive⟩ := startSwitch_live hstart htopology hcontrol
  obtain ⟨supervisor, hsupervisor, hlater⟩ :=
    LabNetwork.labNetwork_gate (supervisorGate_live hjudges) hgate hlive hrun
  refine ⟨supervisor, hsupervisor, fun portId hlease => ?_⟩
  obtain ⟨type, source, frames, traffic, haccuses⟩ := hlater.accountable.accused portId hlease
  have htype : type = .broadcastStorm ∨ type = .unknownUnicastFlood ∨ type = .udpFlood := by
    obtain ⟨rule, hrule, rfl, hacts⟩ := haccuses.ruled
    rw [hlater.rules] at hrule
    simp only [defaultPolicies, List.mem_cons, List.not_mem_nil, or_false] at hrule
    rcases hrule with rfl | rfl | rfl | rfl
    · exact .inl rfl
    · exact .inr (.inl rfl)
    · exact .inr (.inr rfl)
    · exact absurd rfl hacts
  have habove := haccuses.above
  have hmeasure : type.measure traffic = traffic.length := by
    rcases htype with rfl | rfl | rfl <;> rfl
  rw [hlater.config, hmeasure, ← haccuses.noted.length_eq] at habove
  -- the last frame is the last that was observed
  have hlast : ∃ observation, traffic.getLast? = some observation := by
    cases hempty : traffic.getLast? with
    | some observation => exact ⟨observation, rfl⟩
    | none =>
        rw [haccuses.noted.length_eq, List.getLast?_eq_none_iff.mp hempty] at habove
        exact absurd habove (Nat.not_lt_zero _)
  obtain ⟨observation, hobservation⟩ := hlast
  obtain ⟨last, hframe, binding, learnedMacs, timestampNs, hbound, hnoted⟩ :=
    forall₂_getLast? haccuses.noted hobservation
  refine ⟨type, source, frames, last, binding, htype, haccuses.part, ?_, habove, hframe, hbound, ?_⟩
  · exact countsFor_noted htype haccuses.noted haccuses.source
  · have hport := haccuses.port
    rw [lastIngress, hobservation, hnoted] at hport
    rw [hlater.accountable.governed.bound _ _ hbound]
    have hingress := ingress_judged learnedMacs timestampNs last.2 binding.ingressPort
    rw [Option.map_some, Option.getD_some, hingress] at hport
    rw [hport, Option.getD_some]

/-- The first host floods the network, and is contained for its broadcasts. -/
theorem contained_port_accused_flood : ∃ vswitch state supervisor,
    startSwitch labMachine labArguments = .ok (labOptions, vswitch) ∧
      (labNetwork (supervisorGate cpuAnalyzer)).system.exec (supervisedNetwork vswitch, [])
        floodingHost = some state ∧
      state.1.vswitch.gate = some supervisor ∧
      ∃ (frames : List (Endpoint × Bytes)) (last : Endpoint × Bytes) (binding : Binding),
        frames.Sublist (LabNetwork.inspectedFrames
          ((labNetwork (supervisorGate cpuAnalyzer)).turns (supervisedNetwork vswitch, [])
            floodingHost)) ∧
        100 < frames.length ∧ frames.getLast? = some last ∧
        supervisor.bindings.lookup last.1.toString = some binding ∧
        binding.portId = bytes "h1" := by
  obtain ⟨vswitch, state, supervisor, hstart, hrun, hgate, hleased⟩ := floodingHost_contained
  obtain ⟨watching, hwatching, haccused⟩ :=
    contained_port_accused cpuAnalyzer_judges hstart labOptions_topology rfl hrun
  obtain rfl := Option.some.inj (hgate.symm.trans hwatching)
  obtain ⟨type, source, frames, last, binding, htype, hframes, _, habove, hlast, hbound, hport⟩ :=
    haccused (bytes "h1") hleased
  have hmany : 100 ≤ type.threshold liveAnomalyConfig := by
    rcases htype with rfl | rfl | rfl <;> decide
  exact ⟨vswitch, state, supervisor, hstart, hrun, hgate, frames, last, binding, hframes,
    by omega, hlast, hbound, hport⟩

end
end WireLab
