import WireLab.Logic.Sessions

/-!
# Runs of a session

What every run of a session keeps. The frames of a tick are judged, which leaves the
faults as they are (`Undisturbed`); the configuration an edit starts from is that of
the topology in force, and what is selected is in it (`Settled`).
-/

namespace WireLab

open Base

variable {δ β τ : Type}

/-- The topology and its faults are the same. -/
structure Undisturbed (before after : TopologyController) : Prop where
  topology : after.topology = before.topology
  fault : ∀ key, after.faultAt key = before.faultAt key

namespace Undisturbed

theorem refl (controller : TopologyController) : Undisturbed controller controller :=
  ⟨rfl, fun _ => rfl⟩

theorem trans {a b c : TopologyController} (hab : Undisturbed a b) (hbc : Undisturbed b c) :
    Undisturbed a c :=
  ⟨hbc.topology.trans hab.topology, fun key => (hbc.fault key).trans (hab.fault key)⟩

/-- The faults are listed as they were. -/
theorem activeFaults {before after : TopologyController} (h : Undisturbed before after) :
    after.activeFaults = before.activeFaults :=
  TopologyController.activeFaults_congr h.topology h.fault

/-- Judging a frame disturbs nothing. -/
theorem judged (controller : TopologyController) (target : Bytes) (frameBytes : UInt64)
    (arrival : Int) :
    Undisturbed controller
      (controller.withEngine (controller.faultEngine.evaluate target frameBytes arrival).2) :=
  ⟨rfl, controller.faultAt_evaluated target frameBytes arrival⟩

end Undisturbed

namespace Session

section
variable {controller controller' : TopologyController} {decision : FaultDecision}

theorem evaluatePort_undisturbed {host : Bytes} {frameBytes : UInt64} {arrival : Int}
    (h : controller.evaluatePort host frameBytes arrival = .ok (decision, controller')) :
    Undisturbed controller controller' := by
  obtain ⟨htopology, _, hfault⟩ := TopologyController.faultAt_evaluatePort h
  exact ⟨htopology, hfault⟩

theorem evaluateLink_undisturbed {a b : Bytes} {frameBytes : UInt64} {arrival : Int}
    (h : controller.evaluateLink a b frameBytes arrival = .ok (decision, controller')) :
    Undisturbed controller controller' := by
  unfold TopologyController.evaluateLink at h
  split at h
  · cases h
  · split at h
    · cases h
    · obtain ⟨_, rfl⟩ := Prod.mk.inj (Except.ok.inj h)
      exact .judged controller _ _ _

end

theorem routeFrame_undisturbed (links : List TopologyLink) (switchId : Bytes) (arrival : Int)
    (host : Bytes) (frameBytes : UInt64) (controller : TopologyController) :
    Undisturbed controller
      (routeFrame links switchId arrival host frameBytes controller).2 := by
  unfold routeFrame
  split
  · exact .refl controller
  · next portDecision middle hport =>
      have hfirst := evaluatePort_undisturbed hport
      split
      · exact hfirst
      · split
        · exact hfirst
        · split
          · exact hfirst
          · next linkDecision after hlink =>
              have hboth := hfirst.trans (evaluateLink_undisturbed hlink)
              simp only
              split
              · exact hboth
              · exact hboth

theorem sendFrame_undisturbed (links : List TopologyLink) (switchId : Bytes) (arrival : Int)
    (host : Bytes) (hostIndex : UInt64) (frame : Bytes) (tick : TrafficTick) :
    Undisturbed tick.controller
      (sendFrame links switchId arrival host hostIndex frame tick).controller := by
  have hroute := routeFrame_undisturbed links switchId arrival host (.ofNat frame.length)
    tick.controller
  unfold sendFrame
  simp only
  split
  · next controller heq =>
      have hcontroller : _ = controller := congrArg Prod.snd heq
      exact hcontroller ▸ hroute
  · next deliveries latency controller heq =>
      have hcontroller : _ = controller := congrArg Prod.snd heq
      exact hcontroller ▸ hroute

theorem sendFrames_undisturbed (session : Session δ β τ) (switchId : Bytes) (arrival : Int)
    (frames : List (Bytes × Nat)) (tick : TrafficTick) :
    Undisturbed tick.controller (session.sendFrames switchId arrival frames tick).controller := by
  induction frames generalizing tick with
  | nil => exact .refl _
  | cons head frames ih =>
      obtain ⟨frame, index⟩ := head
      exact (sendFrame_undisturbed _ _ _ _ _ _ tick).trans (ih _)

theorem sendTick_undisturbed (session : Session δ β τ) (arrival : Int) (frames : List Bytes) :
    Undisturbed session.topologyController (session.sendTick arrival frames).controller :=
  session.sendFrames_undisturbed session.switchId arrival frames.zipIdx session.startTick

/-! ## The topology in force -/

/-- The configuration of the topology in force; without one, the empty one. -/
def inForce (session : Session δ β τ) : TopologyConfiguration :=
  (session.topologyController.topology.map Topology.configuration).getD {}

/-- What is edited is in force, and what is selected is in it. -/
structure Settled (session : Session δ β τ) : Prop where
  configuration : session.topologyConfiguration = session.inForce
  selection : Selects session.inForce session.selectionKind session.selectedFirst
    session.selectedSecond

theorem inForce_congr {session session' : Session δ β τ}
    (h : session'.topologyController.topology = session.topologyController.topology) :
    session'.inForce = session.inForce := by
  unfold inForce
  rw [h]

/-- A session whose topology and selection are as they were is settled. -/
theorem Settled.congr {session session' : Session δ β τ} (h : session.Settled)
    (htopology : session'.topologyController.topology = session.topologyController.topology)
    (hconfiguration : session'.topologyConfiguration = session.topologyConfiguration)
    (hkind : session'.selectionKind = session.selectionKind)
    (hfirst : session'.selectedFirst = session.selectedFirst)
    (hsecond : session'.selectedSecond = session.selectedSecond) : session'.Settled where
  configuration := by rw [hconfiguration, h.configuration, inForce_congr htopology]
  selection := by
    rw [inForce_congr htopology, hkind, hfirst, hsecond]
    exact h.selection

/-- A topology that is created is of the configuration it is created from. -/
theorem create_configuration {configuration : TopologyConfiguration} {topology : Topology}
    (h : Topology.create configuration = .ok topology) :
    topology.configuration = configuration := by
  unfold Topology.create at h
  split at h
  · cases h
  · cases h
    rfl

/-- What rebuilding rows keeps, showing an outcome keeps. -/
theorem showOutcome_preserves {P : Session δ β τ → Prop} {session : Session δ β τ}
    {outcome : AnalysisOutcome} (h : P (session.withOutcome outcome))
    (hfaults : ∀ session, P session → P session.rebuildFaultRows)
    (hpolicies : ∀ session, P session → P session.rebuildPolicyRows) :
    P (session.showOutcome outcome) := by
  unfold showOutcome
  split
  · exact hpolicies _ (hfaults _ h)
  · exact h

/-- What a release that finds a lease does. -/
theorem release_found {pipeline pipeline' : AnalysisPipeline}
    {controller controller' : TopologyController} {portId : Bytes}
    (h : pipeline.release controller portId = (true, pipeline', controller')) :
    pipeline.enforcer.isEnforced portId = true ∧
      pipeline'.policies = pipeline.policies ∧
      (pipeline'.enforcer, controller') =
        PolicyEnforcer.releasePort (pipeline.enforcer, controller) portId := by
  unfold AnalysisPipeline.release at h
  split at h
  · cases h
  · obtain ⟨hfound, hpipeline, hcontroller⟩ := by simpa only [Prod.mk.injEq] using h
    subst hpipeline hcontroller
    exact ⟨hfound, rfl, rfl⟩

theorem release_topology {pipeline pipeline' : AnalysisPipeline}
    {controller controller' : TopologyController} {portId : Bytes}
    (h : pipeline.release controller portId = (true, pipeline', controller')) :
    controller'.topology = controller.topology := by
  have hkept := (releasePort_topology (pipeline.enforcer, controller) portId).1
  rw [← (release_found h).2.2] at hkept
  exact hkept

theorem Settled.stopTraffic {session : Session δ β τ} (h : session.Settled) :
    session.stopTraffic.Settled := by
  unfold Session.stopTraffic
  split
  · exact h
  · exact h.congr rfl rfl rfl rfl rfl

theorem Settled.withEngines {session : Session δ β τ} (h : session.Settled)
    {controller : TopologyController} (pipeline : AnalysisPipeline)
    (htopology : controller.topology = session.topologyController.topology) :
    (session.withEngines pipeline controller).Settled :=
  h.congr htopology rfl rfl rfl rfl

theorem Settled.afterLoop {session : Session δ β τ} (h : session.Settled)
    (generator : DeterministicTrafficGenerator) (arrival : Int) :
    (session.afterLoop generator arrival).Settled :=
  h.congr (session.sendTick_undisturbed arrival _).topology rfl rfl rfl rfl

theorem Settled.countTick {session : Session δ β τ} (h : session.Settled) (frames : Nat)
    (tick : TrafficTick) (analyzer : Option (TrafficAnalyzer δ)) :
    (session.countTick frames tick analyzer).Settled :=
  h.congr rfl rfl rfl rfl rfl

theorem Settled.addSample {session : Session δ β τ} (h : session.Settled) (dropped : UInt64)
    (throughputMbps averageLatencyMs : Float) :
    (session.addSample dropped throughputMbps averageLatencyMs).Settled :=
  h.congr rfl rfl rfl rfl rfl

theorem Settled.showPackets {session : Session δ β τ} (h : session.Settled)
    (analysis : AnalysisBatch) : (session.showPackets analysis).Settled :=
  h.congr rfl rfl rfl rfl rfl

theorem Settled.analysed {session : Session δ β τ} (h : session.Settled)
    (generator : DeterministicTrafficGenerator) (arrival : Int)
    (analyzer : Option (TrafficAnalyzer δ)) (analysis : AnalysisBatch) :
    (session.analysed generator arrival analyzer analysis).Settled :=
  (((h.afterLoop generator arrival).countTick _ _ _).addSample _ _ _).showPackets _

theorem Settled.showOutcome {session : Session δ β τ} (h : session.Settled)
    (outcome : AnalysisOutcome) : (session.showOutcome outcome).Settled :=
  have hrows : (session.withOutcome outcome).Settled := h.congr rfl rfl rfl rfl rfl
  showOutcome_preserves hrows (fun _ h => h.congr rfl rfl rfl rfl rfl) fun _ h =>
    h.congr rfl rfl rfl rfl rfl

theorem Settled.showTraffic {session : Session δ β τ} (h : session.Settled)
    (env : SessionEnvironment δ β τ) (throughputMbps averageLatencyMs : Float) :
    (session.showTraffic env throughputMbps averageLatencyMs).Settled :=
  h.congr rfl rfl rfl rfl rfl

/-- **Every call leaves a settled session settled.** -/
theorem Settled.perform (env : SessionEnvironment δ β τ) {session : Session δ β τ}
    (h : session.Settled) (command : SessionCommand) :
    (command.perform env session).2.Settled := by
  have houtcome := perform_outcome env session command
  generalize command.perform env session = result at houtcome
  cases houtcome with
  | replaced path configuration topology message now _ hcreate =>
      have hconfiguration := create_configuration hcreate
      exact ⟨hconfiguration.symm, trivial⟩
  | selected kind id summary hselects =>
      rw [h.configuration] at hselects
      exact ⟨h.configuration, hselects⟩
  | faulted controller message htopology => exact h.congr htopology rfl rfl rfl rfl
  | released message hreleased =>
      exact h.congr (release_topology hreleased) rfl rfl rfl rfl
  | stopped => exact h.stopTraffic
  | halted message => exact h.stopTraffic.congr rfl rfl rfl rfl rfl
  | tickThrew => exact h.afterLoop _ _
  | ticked throughputMbps averageLatencyMs elapsed _ _ hevaluated =>
      have htopology := (evaluate_topology hevaluated).1
      exact (((h.analysed _ _ _ _).withEngines _ htopology).showOutcome _).showTraffic env _ _
  | _ => exact h.congr rfl rfl rfl rfl rfl

/-- The hosts of a settled session are distinct. -/
theorem Settled.hosts_nodup {session : Session δ β τ} (h : session.Settled) :
    session.hosts.Nodup := by
  unfold hosts
  rw [h.configuration, inForce]
  cases session.topologyController.topology with
  | none => exact List.nodup_nil
  | some topology =>
      exact topology.nodeIds_nodup.sublist (List.filter_sublist.map _)

/-- Every reachable session is settled. -/
theorem settled_reachable {env : SessionEnvironment δ β τ} {session : Session δ β τ}
    (h : (sessionCommands env).Reachable session) : session.Settled := by
  have hinductive : (sessionCommands env).Inductive Session.Settled :=
    { init := by
        rintro _ ⟨now, rfl⟩
        exact ⟨rfl, trivial⟩
      step := by
        intro session command session' hsettled hstep
        obtain rfl := Option.some.inj hstep
        exact hsettled.perform env command }
  exact hinductive.invariant session h

/-! ## Traffic -/

/-- What a tick relies on: it has frames, and an analyzer where it has a generator. -/
structure Armed (session : Session δ β τ) : Prop where
  ticks : 0 < session.packetsPerTick.toInt
  analyzer : session.trafficGenerator ≠ none → session.trafficAnalyzer.isSome = true

/-- A session whose traffic is as it was, or stopped, is armed. -/
theorem Armed.congr {session session' : Session δ β τ} (h : session.Armed)
    (hticks : session'.packetsPerTick = session.packetsPerTick)
    (hgenerator : session'.trafficGenerator = session.trafficGenerator)
    (hanalyzer : session'.trafficAnalyzer = session.trafficAnalyzer) : session'.Armed where
  ticks := hticks ▸ h.ticks
  analyzer := by
    rw [hgenerator, hanalyzer]
    exact h.analyzer

theorem Armed.stopTraffic {session : Session δ β τ} (h : session.Armed) :
    session.stopTraffic.Armed := by
  unfold Session.stopTraffic
  split
  · exact h
  · exact h.congr rfl rfl rfl

theorem Armed.afterLoop {session : Session δ β τ} (h : session.Armed)
    {generator : DeterministicTrafficGenerator} (hticks : session.Ticks generator)
    (arrival : Int) : (session.afterLoop generator arrival).Armed where
  ticks := h.ticks
  analyzer _ := h.analyzer (by rw [hticks.generator]; exact Option.some_ne_none _)

/-- The analyzer that comes back from an analysis. -/
theorem analyzeDelivered_isSome {env : SessionEnvironment δ β τ}
    {analyzer analyzer' : Option (TrafficAnalyzer δ)} {delivered : List PacketView}
    {analysis : AnalysisBatch}
    (h : analyzeDelivered env analyzer delivered = some (analysis, analyzer'))
    (hsome : analyzer.isSome = true) : analyzer'.isSome = true := by
  unfold analyzeDelivered at h
  split at h
  · cases h
    exact hsome
  · split at h
    · cases hsome
    · obtain ⟨out, _, hout⟩ := Option.map_eq_some_iff.mp h
      cases hout
      rfl
    · obtain ⟨out, _, hout⟩ := Option.map_eq_some_iff.mp h
      cases hout
      rfl

theorem Armed.countTick {session : Session δ β τ} (h : session.Armed) (frames : Nat)
    (tick : TrafficTick) {analyzer : Option (TrafficAnalyzer δ)}
    (hanalyzer : analyzer.isSome = true) : (session.countTick frames tick analyzer).Armed where
  ticks := h.ticks
  analyzer _ := hanalyzer

theorem Armed.addSample {session : Session δ β τ} (h : session.Armed) (dropped : UInt64)
    (throughputMbps averageLatencyMs : Float) :
    (session.addSample dropped throughputMbps averageLatencyMs).Armed :=
  h.congr rfl rfl rfl

theorem Armed.showPackets {session : Session δ β τ} (h : session.Armed)
    (analysis : AnalysisBatch) : (session.showPackets analysis).Armed :=
  h.congr rfl rfl rfl

theorem Armed.withEngines {session : Session δ β τ} (h : session.Armed)
    (pipeline : AnalysisPipeline) (controller : TopologyController) :
    (session.withEngines pipeline controller).Armed :=
  h.congr rfl rfl rfl

theorem Armed.showOutcome {session : Session δ β τ} (h : session.Armed)
    (outcome : AnalysisOutcome) : (session.showOutcome outcome).Armed :=
  have hrows : (session.withOutcome outcome).Armed := h.congr rfl rfl rfl
  showOutcome_preserves hrows (fun _ h => h.congr rfl rfl rfl) fun _ h => h.congr rfl rfl rfl

theorem Armed.showTraffic {session : Session δ β τ} (h : session.Armed)
    (env : SessionEnvironment δ β τ) (throughputMbps averageLatencyMs : Float) :
    (session.showTraffic env throughputMbps averageLatencyMs).Armed :=
  h.congr rfl rfl rfl

/-- **Every call leaves an armed session armed.** -/
theorem Armed.perform (env : SessionEnvironment δ β τ) {session : Session δ β τ}
    (h : session.Armed) (command : SessionCommand) :
    (command.perform env session).2.Armed := by
  have houtcome := perform_outcome env session command
  generalize command.perform env session = result at houtcome
  cases houtcome with
  | replaced path configuration topology message now _ hcreate =>
      have hstopped : (session.withPath path).stopTraffic.packetsPerTick = session.packetsPerTick := by
        unfold Session.stopTraffic
        split <;> rfl
      exact ⟨hstopped ▸ h.ticks, fun hsome => absurd rfl hsome⟩
  | unstarted parsed hticks hkept =>
      refine ⟨hticks, fun hsome => ?_⟩
      rcases hkept with ⟨hgenerator, hanalyzer⟩ | hanalyzer
      · exact hanalyzer ▸ h.analyzer (hgenerator ▸ hsome)
      · exact hanalyzer
  | started parsed generator analyzer hticks => exact ⟨hticks, fun _ => rfl⟩
  | stopped => exact h.stopTraffic
  | halted message => exact h.stopTraffic.congr rfl rfl rfl
  | tickThrew hticks => exact h.afterLoop hticks _
  | ticked throughputMbps averageLatencyMs elapsed hticks hanalysed =>
      have hgenerator : session.trafficGenerator ≠ none := by
        rw [hticks.generator]
        exact Option.some_ne_none _
      have hanalyzer := analyzeDelivered_isSome hanalysed (h.analyzer hgenerator)
      exact ((((((h.afterLoop hticks _).countTick _ _ hanalyzer).addSample _ _ _).showPackets
        _).withEngines _ _).showOutcome _).showTraffic env _ _
  | _ => exact h.congr rfl rfl rfl

/-- Every reachable session is armed. -/
theorem armed_reachable {env : SessionEnvironment δ β τ} {session : Session δ β τ}
    (h : (sessionCommands env).Reachable session) : session.Armed := by
  have hinductive : (sessionCommands env).Inductive Session.Armed :=
    { init := by
        rintro _ ⟨now, rfl⟩
        exact ⟨(by decide : 0 < (256 : Int32).toInt), fun hsome => absurd rfl hsome⟩
      step := by
        intro session command session' harmed hstep
        obtain rfl := Option.some.inj hstep
        exact harmed.perform env command }
  exact hinductive.invariant session h

/-! ## The report -/

theorem stopTraffic_report (session : Session δ β τ) :
    session.stopTraffic.report = session.report := by
  unfold stopTraffic
  split
  · rfl
  · rfl

theorem showOutcome_report (outcome : AnalysisOutcome) (session : Session δ β τ) :
    (session.showOutcome outcome).report = session.report := by
  unfold showOutcome
  split
  · rfl
  · rfl

/-- The calls that are about something else leave the report alone. -/
theorem perform_report {env : SessionEnvironment δ β τ} {session : Session δ β τ} {command : SessionCommand} (h : command.reports = false) :
    (command.perform env session).2.report = session.report := by
  have houtcome := perform_outcome env session command
  generalize command.perform env session = result at houtcome
  cases houtcome with
  | reportThrew report hthrows => cases hthrows <;> cases h
  | progressed report hreports =>
      rw [h] at hreports
      contradiction
  | reported report message hreports =>
      rw [h] at hreports
      contradiction
  | replaced path configuration topology message now hrequested hcreate =>
      exact stopTraffic_report (session.withPath path)
  | stopped => exact stopTraffic_report session
  | halted message => exact stopTraffic_report session
  | ticked throughputMbps averageLatencyMs elapsed hticks hanalysed hevaluated =>
      exact showOutcome_report _ _
  | _ => rfl

/-- An export changes nothing of it but the path. -/
theorem exportReport_report (session : Session δ β τ) (jsonWritten csvWritten : Bool)
    (path : Bytes) :
    ∃ exportPath, (session.exportReport jsonWritten csvWritten path).2.report =
      { session.report with exportPath } := by
  unfold exportReport
  split
  · exact ⟨_, rfl⟩
  · simp only
    split
    · exact ⟨_, rfl⟩
    · split
      · exact ⟨_, rfl⟩
      · split
        · exact ⟨_, rfl⟩
        · exact ⟨_, rfl⟩

/-- The edits that make the small lab are calls. -/
theorem twoHosts_reachable : (sessionCommands cpuBuild).Reachable twoHosts :=
  have hnew : (sessionCommands cpuBuild).Reachable (Session.create 0) := .init ⟨0, rfl⟩
  have hone : (sessionCommands cpuBuild).Reachable oneHost :=
    .step (.step hnew (a := .addNode (bytes "core") (bytes "switch") 1) rfl)
      (a := .addNode (bytes "client") (bytes "host") 2) rfl
  .step hone (a := .addNode (bytes "server") (bytes "host") 3) rfl

/-- Traffic of bare headers, which count as malformed, under a rule that drops them. -/
def guardedCalls : List SessionCommand :=
  [.addLink (bytes "client") (bytes "core") 0 4,
   .addPolicy (bytes "guard") (bytes "Malformed frame") (bytes "Drop") 0,
   .startTraffic (bytes "mixed-traffic") 4 14 7 (bytes "CPU"),
   .runTrafficStep 5 6]

/-- Two hosts and a switch in that traffic. -/
def guardedLab : Session Unit (List MacAddress) Unit :=
  guardedCalls.foldl (fun session command => (command.perform cpuBuild session).2) twoHosts

/-- What makes the guarded lab are calls. -/
theorem guardedLab_reachable : (sessionCommands cpuBuild).Reachable guardedLab := by
  have hrun : (sessionCommands cpuBuild).exec twoHosts guardedCalls = some guardedLab := rfl
  exact twoHosts_reachable.exec hrun

end Session
end WireLab
