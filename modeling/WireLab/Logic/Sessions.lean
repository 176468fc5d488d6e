import WireLab.Logic.Enforcement
import WireLab.Model.SessionCommands

/-!
# Sessions

What a call of a public command can make of a session, said once: `Outcome` has a
constructor for each kind of change, and `perform_outcome` finds the one of every
call. What holds of every run of a session is a case analysis of it.
-/

namespace WireLab

open Base

variable {δ β τ : Type}

/-- The calls that are about the benchmark report. -/
def SessionCommand.reports : SessionCommand → Bool
  | .runBenchmarkReport .. | .runReportStep .. | .exportReport .. => true
  | _ => false

namespace Session

/-- Nothing but the status message differs; its bit is raised. -/
def OnlyStatus (session session' : Session δ β τ) : Prop :=
  ∃ message, session' = session.setStatus message

/-- A selection names something of a configuration. -/
def Selects (configuration : TopologyConfiguration) :
    SelectionKind → Bytes → Bytes → Prop
  | .none, _, _ => True
  | .node, first, _ => ∃ node ∈ configuration.nodes, node.id = first
  | .link, first, second =>
      ∃ link ∈ configuration.links, link.from = first ∧ link.to = second

/-- The configuration that an edit would commit. -/
def requested (session : Session δ β τ) : SessionCommand → Option TopologyConfiguration
  | .openTopology files path _ =>
      (topologyConfigurationFromYamlFile files (SessionDetail.stripFileUrl path)).toOption
  | .addNode id type _ => some (withNode session.topologyConfiguration id type)
  | .addLink a b latencyMs _ => some (withLink session.topologyConfiguration a b latencyMs)
  | .removeSelected _ =>
      match session.selectionKind with
      | .none => none
      | .node => some (withoutNode session.topologyConfiguration session.selectedFirst)
      | .link =>
          some (withoutLink session.topologyConfiguration session.selectedFirst
            session.selectedSecond)
  | _ => none

/-- A call replaces the topology. -/
def commits (session : Session δ β τ) (command : SessionCommand) : Bool :=
  (session.requested command).any fun configuration => (Topology.create configuration).isOk

/-- The frames of the next tick. -/
def tickFrames (generator : DeterministicTrafficGenerator) (session : Session δ β τ) : List Bytes :=
  (generator.generate session.packetsPerTick.toInt.toNat).1

/-- The session after the loop of a tick. -/
def afterLoop (generator : DeterministicTrafficGenerator) (arrival : Int)
    (session : Session δ β τ) : Session δ β τ :=
  session.afterFrames (generator.generate session.packetsPerTick.toInt.toNat).2
    (session.sendTick arrival (session.tickFrames generator))

/-- The session of a tick whose delivered frames have been analysed. -/
def analysed (generator : DeterministicTrafficGenerator) (arrival : Int)
    (trafficAnalyzer : Option (TrafficAnalyzer δ)) (analysis : AnalysisBatch)
    (session : Session δ β τ) : Session δ β τ :=
  let tick := session.sendTick arrival (session.tickFrames generator)
  (((session.afterLoop generator arrival).countTick (session.tickFrames generator).length tick
    trafficAnalyzer).addSample tick.tickDropped tick.throughputMbps
      tick.averageLatencyMs).showPackets analysis

/-- A tick is taken: traffic runs, on hosts and a switch. -/
structure Ticks (generator : DeterministicTrafficGenerator) (session : Session δ β τ) : Prop where
  generator : session.trafficGenerator = some generator
  running : session.trafficRunning = true
  hosts : session.hosts ≠ []
  switch : session.switchId ≠ []

/-- The configuration of the report that `run_benchmark_report` starts, if it starts one. -/
def acceptedReport (scenario : Bytes) (packets batchSize frameSize seed : Int32)
    (session : Session δ β τ) : Option BenchmarkConfig :=
  if session.report.running then none
  else
    match trafficScenarioFromString scenario with
    | .error _ => none
    | .ok parsed =>
        if packets.toInt ≤ 0 ∨ batchSize.toInt ≤ 0 ∨ seed.toInt < 0 ∨
            frameSize.toInt < ethernetHeaderSize ∨
            frameSize.toInt > maxBenchmarkFrameSize.toNat then none
        else some (BenchmarkReport.configured parsed packets batchSize frameSize seed)

/-- The report whose run a step advances, and that run: the one that is armed, or else
the next. -/
def stepping (env : SessionEnvironment δ β τ) (session : Session δ β τ) :
    Option (BenchmarkReport β τ × BenchmarkRun β τ) :=
  if !session.report.running then none
  else
    match session.report.run with
    | some run => some (session.report, run)
    | none =>
        match session.report.beginNext env with
        | (.armed, armed) => armed.run.map fun run => (armed, run)
        | _ => none

/-- A backend's construction throws, and leaves a report as it got: as the report starts,
as its next run is armed, or behind the last slice of a run. -/
inductive ReportThrows (env : SessionEnvironment δ β τ) (session : Session δ β τ) :
    SessionCommand → BenchmarkReport β τ → Prop
  | starting {scenario generatedAt} {packets batchSize frameSize seed : Int32}
      {config : BenchmarkConfig} {report : BenchmarkReport β τ}
      (haccepted : session.acceptedReport scenario packets batchSize frameSize seed = some config)
      (hthrew : (session.report.started env generatedAt config).beginNext env = (.threw, report)) :
      ReportThrows env session
        (.runBenchmarkReport scenario packets batchSize frameSize seed generatedAt) report
  | arming {latencyNs sliceNs} {report : BenchmarkReport β τ}
      (hthrew : session.report.beginNext env = (.threw, report)) :
      ReportThrows env session (.runReportStep latencyNs sliceNs) report
  | advancing {latencyNs sliceNs} {armed report : BenchmarkReport β τ} {run : BenchmarkRun β τ}
      (hstepping : session.stepping env = some (armed, run))
      (hlast : (armed.advanced latencyNs sliceNs run).run = none)
      (hthrew : (armed.advanced latencyNs sliceNs run).beginNext env = (.threw, report)) :
      ReportThrows env session (.runReportStep latencyNs sliceNs) report

/-- What a call makes of a session. -/
inductive Outcome (env : SessionEnvironment δ β τ) (session : Session δ β τ) :
    SessionCommand → Completion × Session δ β τ → Prop
  | taken : Outcome env session .takeDirty (.returned, session.takeDirty.2)
  /-- Nothing happens. -/
  | idle {command} : Outcome env session command (.returned, session)
  /-- A message is shown. -/
  | told {command} (path message : Bytes) :
      Outcome env session command (.returned, (session.withPath path).setStatus message)
  | replaced {command} (path : Bytes) (configuration : TopologyConfiguration)
      (topology : Topology) (message : Bytes) (now : Int)
      (hrequested : session.requested command = some configuration)
      (hcreate : Topology.create configuration = .ok topology) :
      Outcome env session command (.returned,
        (session.withPath path).replaceTopology configuration topology message now)
  | selected {command} (kind : SelectionKind) {first second : Bytes} (id summary : Bytes)
      (hselects : Selects session.topologyConfiguration kind first second) :
      Outcome env session command (.returned, session.withSelection kind id first second summary)
  /-- An operator's fault is set, cleared, or not found. -/
  | faulted {command} (controller : TopologyController) (message : Bytes)
      (htopology : controller.topology = session.topologyController.topology) :
      Outcome env session command (.returned,
        ((session.withEngines session.analysisPipeline controller).setStatus
          message).rebuildFaultRows)
  | policed {command} (policies : PolicyEngine) (message : Bytes) :
      Outcome env session command (.returned,
        ((session.withPolicies policies).setStatus message).rebuildPolicyRows)
  | released {portId : Bytes} {pipeline : AnalysisPipeline} {controller : TopologyController}
      (message : Bytes)
      (hreleased : session.analysisPipeline.release session.topologyController portId =
        (true, pipeline, controller)) :
      Outcome env session (.releaseEnforcement portId) (.returned,
        (((session.withEngines pipeline controller).setStatus
          message).rebuildFaultRows.rebuildPolicyRows).mark .telemetry)
  /-- The settings are stored, and a constructor throws. -/
  | unstarted {scenario seed backend} {packetsPerTick frameSize : Int32}
      (parsed : TrafficScenario) {generator : Option DeterministicTrafficGenerator}
      {analyzer : Option (TrafficAnalyzer δ)} (hticks : 0 < packetsPerTick.toInt)
      (hkept : (generator = session.trafficGenerator ∧ analyzer = session.trafficAnalyzer) ∨
        analyzer.isSome = true) :
      Outcome env session (.startTraffic scenario packetsPerTick frameSize seed backend) (.threw,
        (session.withTrafficSettings parsed packetsPerTick frameSize seed backend).withGenerator
          generator analyzer)
  | started {scenario seed backend} {packetsPerTick frameSize : Int32}
      (parsed : TrafficScenario) (generator : DeterministicTrafficGenerator)
      (analyzer : TrafficAnalyzer δ) (hticks : 0 < packetsPerTick.toInt) :
      Outcome env session (.startTraffic scenario packetsPerTick frameSize seed backend) (.returned,
        ((session.withTrafficSettings parsed packetsPerTick frameSize seed backend).withGenerator
          (some generator) (some analyzer)).runTraffic)
  | stopped {command} : Outcome env session command (.returned, session.stopTraffic)
  /-- A tick without hosts or without a switch. -/
  | halted {command} (message : Bytes) :
      Outcome env session command (.returned, session.stopTraffic.setStatus message)
  /-- A tick whose analyzer throws. -/
  | tickThrew {arrival now : Int} {generator : DeterministicTrafficGenerator}
      (hticks : session.Ticks generator)
      (hthrew : analyzeDelivered env session.trafficAnalyzer
        (session.sendTick arrival (session.tickFrames generator)).delivered = none) :
      Outcome env session (.runTrafficStep arrival now)
        (.threw, session.afterLoop generator arrival)
  | ticked {arrival now : Int} {generator : DeterministicTrafficGenerator}
      {analysis : AnalysisBatch} {trafficAnalyzer : Option (TrafficAnalyzer δ)}
      {outcome : AnalysisOutcome} {pipeline : AnalysisPipeline} {controller : TopologyController}
      (throughputMbps averageLatencyMs : Float) (elapsed : Nat)
      (hticks : session.Ticks generator)
      (hanalysed : analyzeDelivered env session.trafficAnalyzer
        (session.sendTick arrival (session.tickFrames generator)).delivered =
          some (analysis, trafficAnalyzer))
      (hevaluated : session.analysisPipeline.evaluate
        (session.sendTick arrival (session.tickFrames generator)).controller analysis elapsed now =
          some (outcome, pipeline, controller)) :
      Outcome env session (.runTrafficStep arrival now) (.returned,
        (((session.analysed generator arrival trafficAnalyzer analysis).withEngines pipeline
          controller).showOutcome outcome).showTraffic env throughputMbps averageLatencyMs)
  | reportThrew {command} (report : BenchmarkReport β τ)
      (hthrows : ReportThrows env session command report) :
      Outcome env session command (.threw, session.withReport report)
  | progressed {command} (report : BenchmarkReport β τ) (hreports : command.reports = true) :
      Outcome env session command (.returned, (session.withReport report).mark .report)
  | reported {command} (report : BenchmarkReport β τ) (message : Bytes)
      (hreports : command.reports = true) :
      Outcome env session command (.returned,
        ((session.withReport report).setStatus message).mark .report)

/-! ## The outcome of each command -/

section
variable {env : SessionEnvironment δ β τ} {session : Session δ β τ} {command : SessionCommand}

theorem commitTopology_outcome {configuration : TopologyConfiguration}
    (hrequested : session.requested command = some configuration) (path message : Bytes)
    (now : Int) :
    Outcome env session command
      (.returned, ((session.withPath path).commitTopology configuration message now).2) := by
  unfold commitTopology
  split
  · exact .told path _
  · next topology hcreate =>
      exact .replaced path configuration topology message now hrequested hcreate

theorem openTopology_outcome (files : Files) (path : Bytes) (now : Int) :
    Outcome env session (.openTopology files path now)
      (.returned, session.openTopology files path now) := by
  unfold openTopology
  simp only
  split
  · exact .told session.topologyPath _
  · next configuration hread =>
      have hrequested : session.requested (.openTopology files path now) = some configuration := by
        rw [requested, hread]
        rfl
      exact commitTopology_outcome hrequested _ _ now

theorem saveTopology_outcome (opens stores : Bool) (path : Bytes) :
    Outcome env session (.saveTopology opens stores path)
      (.returned, (session.saveTopology opens stores path).2) := by
  unfold saveTopology
  simp only
  split
  · exact .told session.topologyPath _
  · split
    · exact .told session.topologyPath _
    · split
      · exact .told session.topologyPath _
      · exact .told _ _

theorem removeSelected_outcome (now : Int) :
    Outcome env session (.removeSelected now) (.returned, session.removeSelected now) := by
  unfold removeSelected
  simp only
  split
  · exact .idle
  · next hkind =>
      exact commitTopology_outcome (by simp only [requested, hkind]) session.topologyPath _ now
  · next hkind =>
      exact commitTopology_outcome (by simp only [requested, hkind]) session.topologyPath _ now

theorem selectNode_outcome (id : Bytes) :
    Outcome env session (.selectNode id) (.returned, session.selectNode id) := by
  unfold selectNode
  split
  · exact .idle
  · next found hfound =>
      have hid : found.id = id := by simpa using List.find?_some hfound
      exact .selected .node id _ ⟨found, List.mem_of_find?_eq_some hfound, hid⟩

theorem selectLink_outcome («from» «to» : Bytes) :
    Outcome env session (.selectLink «from» «to») (.returned, session.selectLink «from» «to») := by
  unfold selectLink
  split
  · exact .idle
  · next found hfound =>
      exact .selected .link _ _ ⟨found, List.mem_of_find?_eq_some hfound, rfl, rfl⟩

theorem setSelectedFault_topology {configuration : FaultConfiguration}
    {controller : TopologyController}
    (h : session.setSelectedFault configuration = .ok controller) :
    controller.topology = session.topologyController.topology := by
  unfold setSelectedFault at h
  split at h
  · exact (TopologyController.sets_setLinkFault h).topology
  · exact (TopologyController.sets_setPortFault h).1.topology

theorem applySelectedFault_outcome (latencyMs : Int32) (lossPercent : Float) (blackhole : Bool) :
    Outcome env session (.applySelectedFault latencyMs lossPercent blackhole)
      (.returned, session.applySelectedFault env latencyMs lossPercent blackhole) := by
  unfold applySelectedFault
  split
  · exact .told session.topologyPath _
  · split
    · exact .faulted session.topologyController _ rfl
    · next hset => exact .faulted _ _ (setSelectedFault_topology hset)

theorem clearPortFault_topology (controller : TopologyController) (portId : Bytes) :
    (controller.clearPortFault portId).2.topology = controller.topology := by
  unfold TopologyController.clearPortFault
  split
  · rfl
  · split <;> rfl

theorem clearLinkFault_topology (controller : TopologyController) (a b : Bytes) :
    (controller.clearLinkFault a b).2.topology = controller.topology := by
  unfold TopologyController.clearLinkFault
  split
  · rfl
  · split <;> rfl

theorem clearFault_outcome (first second : Bytes) :
    Outcome env session (.clearFault first second) (.returned, session.clearFault first second) := by
  unfold clearFault
  split
  next cleared controller hcleared =>
    refine .faulted _ _ ?_
    split at hcleared
    · have hkept := clearPortFault_topology session.topologyController first
      rwa [hcleared] at hkept
    · have hkept := clearLinkFault_topology session.topologyController first second
      rwa [hcleared] at hkept

theorem addPolicy_outcome (name anomalyType action : Bytes) (rate : UInt64) :
    Outcome env session (.addPolicy name anomalyType action rate)
      (.returned, session.addPolicy name anomalyType action rate) := by
  unfold addPolicy
  split
  · split
    · exact .told session.topologyPath _
    · exact .policed _ _
  · exact .told session.topologyPath _

theorem removePolicy_outcome (name : Bytes) :
    Outcome env session (.removePolicy name) (.returned, session.removePolicy name) := by
  unfold removePolicy
  split
  · exact .told session.topologyPath _
  · exact .policed _ _

theorem setPolicyEnabled_outcome (name : Bytes) (enabled : Bool) :
    Outcome env session (.setPolicyEnabled name enabled)
      (.returned, session.setPolicyEnabled name enabled) := by
  unfold setPolicyEnabled
  split
  · exact .told session.topologyPath _
  · exact .policed _ _

theorem releaseEnforcement_outcome (portId : Bytes) :
    Outcome env session (.releaseEnforcement portId)
      (.returned, session.releaseEnforcement portId) := by
  unfold releaseEnforcement
  split
  · exact .told session.topologyPath _
  · next hreleased => exact .released _ hreleased

theorem constructTraffic_outcome {scenario backend : Bytes} {packetsPerTick frameSize : Int32}
    {seed : UInt64} (parsed : TrafficScenario) (hticks : 0 < packetsPerTick.toInt) :
    Outcome env session (.startTraffic scenario packetsPerTick frameSize seed backend)
      ((session.withTrafficSettings parsed packetsPerTick frameSize seed
        backend).constructTraffic env) := by
  unfold constructTraffic
  split
  · exact .unstarted parsed hticks (.inl ⟨rfl, rfl⟩)
  · split
    · exact .unstarted parsed hticks (.inr rfl)
    · exact .started parsed _ _ hticks

theorem startTraffic_outcome (scenario : Bytes) (packetsPerTick frameSize : Int32)
    (seed : UInt64) (backend : Bytes) :
    Outcome env session (.startTraffic scenario packetsPerTick frameSize seed backend)
      (session.startTraffic env scenario packetsPerTick frameSize seed backend) := by
  unfold startTraffic
  split
  · exact .told session.topologyPath _
  · split
    · exact .told session.topologyPath _
    · split
      · exact .told session.topologyPath _
      · next hsettings =>
          split
          · exact .told session.topologyPath _
          · exact constructTraffic_outcome _ (by omega)

/-- A tick that is taken throws with its analyzer, or is taken to its end. -/
theorem runTrafficStep_ticks (env : SessionEnvironment δ β τ)
    {generator : DeterministicTrafficGenerator} (hticks : session.Ticks generator) (arrival now : Int) :
    (analyzeDelivered env session.trafficAnalyzer
        (session.sendTick arrival (session.tickFrames generator)).delivered = none ∧
      session.runTrafficStep env arrival now = (.threw, session.afterLoop generator arrival)) ∨
    ∃ analysis trafficAnalyzer outcome pipeline controller throughputMbps averageLatencyMs elapsed,
      analyzeDelivered env session.trafficAnalyzer
        (session.sendTick arrival (session.tickFrames generator)).delivered =
          some (analysis, trafficAnalyzer) ∧
      session.analysisPipeline.evaluate
        (session.sendTick arrival (session.tickFrames generator)).controller analysis elapsed now =
          some (outcome, pipeline, controller) ∧
      session.runTrafficStep env arrival now = (.returned,
        (((session.analysed generator arrival trafficAnalyzer analysis).withEngines pipeline
          controller).showOutcome outcome).showTraffic env throughputMbps averageLatencyMs) := by
  have hlab : ¬(session.hosts.isEmpty = true ∨ session.switchId.isEmpty = true) := by
    simpa using ⟨hticks.hosts, hticks.switch⟩
  unfold runTrafficStep
  simp only [hticks.generator, hticks.running, Bool.not_true, Bool.false_eq_true, if_false,
    if_neg hlab]
  split
  · next hthrew => exact .inl ⟨hthrew, rfl⟩
  · next analysis trafficAnalyzer hanalysed =>
      refine .inr ?_
      unfold rebuildTelemetryRows
      simp only
      split
      · next hnone =>
          -- A pipeline does not throw.
          obtain ⟨out, hout⟩ := AnalysisPipeline.evaluate_returns _ _ _ _ _
          rw [hnone] at hout
          cases hout
      · next outcome pipeline controller hevaluated =>
          exact ⟨_, _, _, _, _, _, _, _, hanalysed, hevaluated, rfl⟩

theorem runTrafficStep_outcome (arrival now : Int) :
    Outcome env session (.runTrafficStep arrival now) (session.runTrafficStep env arrival now) := by
  cases hgenerator : session.trafficGenerator with
  | none =>
      unfold runTrafficStep
      rw [hgenerator]
      exact .idle
  | some generator =>
      by_cases hrunning : session.trafficRunning = true
      · by_cases hlab : session.hosts.isEmpty = true ∨ session.switchId.isEmpty = true
        · unfold runTrafficStep
          simp only [hgenerator, hrunning, Bool.not_true, Bool.false_eq_true, if_false, if_pos hlab]
          exact .halted _
        · rw [not_or] at hlab
          have hticks : session.Ticks generator :=
            { generator := hgenerator
              running := hrunning
              hosts := by simpa using hlab.1
              switch := by simpa using hlab.2 }
          rcases runTrafficStep_ticks env hticks arrival now with
            ⟨hthrew, hrun⟩ | ⟨_, _, _, _, _, _, _, _, hanalysed, hevaluated, hrun⟩
          · rw [hrun]
            exact .tickThrew hticks hthrew
          · rw [hrun]
            exact .ticked _ _ _ hticks hanalysed hevaluated
      · unfold runTrafficStep
        simp only [hgenerator, hrunning, Bool.not_false, if_true]
        exact .idle

/-! ### The report -/

/-- What is armed is a run. -/
theorem beginBackends_armed {labels : List Bytes} {report report' : BenchmarkReport β τ}
    (h : BenchmarkReport.beginBackends env labels report = (.armed, report')) :
    report'.run ≠ none := by
  induction labels generalizing report with
  | nil => cases h
  | cons label rest ih =>
      unfold BenchmarkReport.beginBackends at h
      split at h
      · cases h
      · cases h
        exact Option.some_ne_none _
      · exact ih h

theorem runBenchmarkReport_outcome (scenario : Bytes) (packets batchSize frameSize seed : Int32)
    (generatedAt : Bytes) :
    Outcome env session (.runBenchmarkReport scenario packets batchSize frameSize seed generatedAt)
      (session.runBenchmarkReport env scenario packets batchSize frameSize seed generatedAt) := by
  unfold runBenchmarkReport
  split
  · exact .told session.topologyPath _
  · next hidle =>
      split
      · exact .told session.topologyPath _
      · next parsed hparsed =>
          split
          · exact .told session.topologyPath _
          · next hsettings =>
              have haccepted : session.acceptedReport scenario packets batchSize frameSize seed =
                  some (BenchmarkReport.configured parsed packets batchSize frameSize seed) := by
                unfold acceptedReport
                rw [if_neg hidle, hparsed]
                exact if_neg hsettings
              simp only
              split
              · next hthrew => exact .reportThrew _ (.starting haccepted hthrew)
              · exact .reported _ _ rfl
              · exact .reported _ _ rfl

theorem advanceReport_outcome (latencyNs : Nat → UInt64) (sliceNs : UInt64)
    {run : BenchmarkRun β τ} {report : BenchmarkReport β τ}
    (hstepping : session.stepping env = some (report, run)) :
    Outcome env session (.runReportStep latencyNs sliceNs)
      ((session.withReport report).advanceReport env latencyNs sliceNs run) := by
  unfold advanceReport
  simp only
  split
  · exact .progressed _ rfl
  · next hlast =>
      split
      · next hthrew => exact .reportThrew _ (.advancing hstepping hlast hthrew)
      · exact .reported _ _ rfl
      · exact .progressed _ rfl

theorem runReportStep_outcome (latencyNs : Nat → UInt64) (sliceNs : UInt64) :
    Outcome env session (.runReportStep latencyNs sliceNs)
      (session.runReportStep env latencyNs sliceNs) := by
  unfold runReportStep
  split
  · exact .idle
  · next hrunning =>
      split
      · next run hrun =>
          have hstepping : session.stepping env = some (session.report, run) := by
            simp only [stepping, if_neg hrunning, hrun]
          exact advanceReport_outcome latencyNs sliceNs hstepping
      · next hrun =>
          split
          · next hthrew => exact .reportThrew _ (.arming hthrew)
          · exact .reported _ _ rfl
          · next armed harmed =>
              split
              · next hnone => exact absurd hnone (beginBackends_armed harmed)
              · next run hsome =>
                  have hstepping : session.stepping env = some (armed, run) := by
                    simp only [stepping, if_neg hrunning, hrun, harmed, hsome, Option.map_some]
                  exact advanceReport_outcome latencyNs sliceNs hstepping

theorem exportReport_outcome (jsonWritten csvWritten : Bool) (path : Bytes) :
    Outcome env session (.exportReport jsonWritten csvWritten path)
      (.returned, (session.exportReport jsonWritten csvWritten path).2) := by
  unfold exportReport
  split
  · exact .reported _ _ rfl
  · simp only
    split
    · exact .reported _ _ rfl
    · split
      · exact .reported _ _ rfl
      · split
        · exact .reported _ _ rfl
        · exact .reported _ _ rfl

/-- **What a call does to a session.** -/
theorem perform_outcome (env : SessionEnvironment δ β τ) (session : Session δ β τ)
    (command : SessionCommand) : Outcome env session command (command.perform env session) := by
  cases command with
  | takeDirty => exact .taken
  | openTopology files path now => exact openTopology_outcome files path now
  | saveTopology opens stores path => exact saveTopology_outcome opens stores path
  | addNode id type now => exact commitTopology_outcome rfl session.topologyPath _ now
  | addLink a b latencyMs now => exact commitTopology_outcome rfl session.topologyPath _ now
  | removeSelected now => exact removeSelected_outcome now
  | selectNode id => exact selectNode_outcome id
  | selectLink a b => exact selectLink_outcome a b
  | clearSelection => exact .selected .none [] [] trivial
  | applySelectedFault latencyMs lossPercent blackhole =>
      exact applySelectedFault_outcome latencyMs lossPercent blackhole
  | clearFault first second => exact clearFault_outcome first second
  | addPolicy name anomalyType action rate => exact addPolicy_outcome name anomalyType action rate
  | removePolicy name => exact removePolicy_outcome name
  | setPolicyEnabled name enabled => exact setPolicyEnabled_outcome name enabled
  | releaseEnforcement portId => exact releaseEnforcement_outcome portId
  | startTraffic scenario packetsPerTick frameSize seed backend =>
      exact startTraffic_outcome scenario packetsPerTick frameSize seed backend
  | stopTraffic => exact .stopped
  | runTrafficStep arrival now => exact runTrafficStep_outcome arrival now
  | runBenchmarkReport scenario packets batchSize frameSize seed generatedAt =>
      exact runBenchmarkReport_outcome scenario packets batchSize frameSize seed generatedAt
  | runReportStep latencyNs sliceNs => exact runReportStep_outcome latencyNs sliceNs
  | exportReport jsonWritten csvWritten path =>
      exact exportReport_outcome jsonWritten csvWritten path

end

/-! ## Commits -/

section
variable {session : Session δ β τ} {command : SessionCommand}

theorem commits_iff : session.commits command = true ↔
    ∃ configuration topology, session.requested command = some configuration ∧
      Topology.create configuration = .ok topology := by
  unfold commits
  rw [Option.any_eq_true]
  refine exists_congr fun configuration => ?_
  cases Topology.create configuration with
  | error e => simp [Except.isOk, Except.toBool]
  | ok topology => simp [Except.isOk, Except.toBool]

/-- What is asked for goes to `commit_topology`. -/
theorem perform_requested (env : SessionEnvironment δ β τ) {configuration : TopologyConfiguration}
    (h : session.requested command = some configuration) :
    ∃ path message now, command.perform env session =
      (.returned, ((session.withPath path).commitTopology configuration message now).2) := by
  cases command with
  | openTopology files path now =>
      simp only [requested] at h
      simp only [SessionCommand.perform, openTopology]
      generalize topologyConfigurationFromYamlFile files (SessionDetail.stripFileUrl path) = read
        at h ⊢
      cases read with
      | error e => cases h
      | ok configuration =>
          cases h
          exact ⟨_, _, now, rfl⟩
  | addNode id type now =>
      obtain rfl := Option.some.inj h
      exact ⟨session.topologyPath, _, now, rfl⟩
  | addLink a b latencyMs now =>
      obtain rfl := Option.some.inj h
      exact ⟨session.topologyPath, _, now, rfl⟩
  | removeSelected now =>
      simp only [requested] at h
      simp only [SessionCommand.perform, removeSelected]
      cases hkind : session.selectionKind with
      | none =>
          rw [hkind] at h
          cases h
      | node =>
          rw [hkind] at h
          obtain rfl := Option.some.inj h
          exact ⟨session.topologyPath, _, now, rfl⟩
      | link =>
          rw [hkind] at h
          obtain rfl := Option.some.inj h
          exact ⟨session.topologyPath, _, now, rfl⟩
  | _ => cases h

/-- A configuration that is asked for and accepted replaces the topology. -/
theorem perform_accepted (env : SessionEnvironment δ β τ) {configuration : TopologyConfiguration}
    {topology : Topology} (h : session.requested command = some configuration)
    (hcreate : Topology.create configuration = .ok topology) :
    ∃ path message now, command.perform env session =
      (.returned, (session.withPath path).replaceTopology configuration topology message now) := by
  obtain ⟨path, message, now, hperform⟩ := perform_requested env h
  refine ⟨path, message, now, ?_⟩
  rw [hperform]
  simp only [commitTopology, hcreate]

/-- A configuration that is refused is a message. -/
theorem perform_refused (env : SessionEnvironment δ β τ) {configuration : TopologyConfiguration}
    {error : TopologyValidationError} (h : session.requested command = some configuration)
    (hcreate : Topology.create configuration = .error error) :
    ∃ path, OnlyStatus (session.withPath path) (command.perform env session).2 := by
  obtain ⟨path, message, now, hperform⟩ := perform_requested env h
  refine ⟨path, bytes "Topology validation failed: " ++ error.toString, ?_⟩
  rw [hperform]
  simp only [commitTopology, hcreate]

end

/-! ## A small lab -/

/-- A build without devices. -/
def cpuBuild : SessionEnvironment Unit (List MacAddress) Unit where
  benchmarkFactory := cpuBenchmarkBackendFactory cpuDevices
  trafficFactory := cpuTrafficSourceFactory cpuDevices
  allocates _ := true
  formatFixed _ _ := []
  lround _ := 0

/-- A switch and one host, as an operator adds them. -/
def oneHost : Session Unit (List MacAddress) Unit :=
  (((Session.create 0).addNode (bytes "core") (bytes "switch") 1).addNode (bytes "client")
    (bytes "host") 2)

/-- Two hosts. -/
def twoHosts : Session Unit (List MacAddress) Unit :=
  oneHost.addNode (bytes "server") (bytes "host") 3

end Session
end WireLab
