import WireLab.Base.Numbered
import WireLab.Model.AnalysisPipeline
import WireLab.Model.ControlJson
import WireLab.Model.TopologyYaml

/-!
# The control service

`control_service.cpp`: one JSON request in, one reply and the events it
produced out. What the service refers to is passed to the call: the controller,
and in `Environment` the file system, the counters of the switch and of its
supervisor, and the allocator.

A call that throws returns `none`; the only operation that can is the `reserve`
of a benchmark run.
-/

namespace WireLab

open Base

/-- What a call reads from around it. -/
structure Environment where
  files : Files
  metrics : SwitchMetricsSnapshot := {}
  supervision : SupervisionSnapshot := {}
  allocates : Nat → Bool

structure AnalysisEventDispatch where
  anomalyEvents : List AnomalyDetectedEvent := []
  policyEvents : List PolicyActionEvent := []
  faultEvents : List FaultStateEvent := []
  enforcementActions : List EnforcementAction := []

structure ControlDispatch where
  reply : ControlReply
  metricsEvent : Option SwitchMetricsEvent := none
  faultEvents : List FaultStateEvent := []
  topologyEvent : Option TopologyStateEvent := none
  supervisionEvent : Option SupervisionStateEvent := none
  benchmarkProgressEvent : Option BenchmarkProgressEvent := none
  benchmarkResultEvent : Option BenchmarkResultEvent := none

/-- What one slice of a benchmark produced. -/
structure BenchmarkEventDispatch where
  progressEvent : Option BenchmarkProgressEvent := none
  resultEvent : Option BenchmarkResultEvent := none

/-- The events of an analysed batch, in the order they are broadcast. -/
def AnalysisEventDispatch.events (dispatch : AnalysisEventDispatch) : List ControlEvent :=
  dispatch.anomalyEvents.map .anomalyDetected ++ dispatch.policyEvents.map .policyAction ++
    dispatch.faultEvents.map .faultState

/-- The events of a request, in the order they are broadcast. -/
def ControlDispatch.events (dispatch : ControlDispatch) : List ControlEvent :=
  dispatch.metricsEvent.toList.map .switchMetrics ++ dispatch.faultEvents.map .faultState ++
    dispatch.topologyEvent.toList.map .topologyState ++
    dispatch.supervisionEvent.toList.map .supervisionState ++
    dispatch.benchmarkProgressEvent.toList.map .benchmarkProgress ++
    dispatch.benchmarkResultEvent.toList.map .benchmarkResult

/-- The events of a slice, in the order they are broadcast. -/
def BenchmarkEventDispatch.events (dispatch : BenchmarkEventDispatch) : List ControlEvent :=
  dispatch.progressEvent.toList.map .benchmarkProgress ++
    dispatch.resultEvent.toList.map .benchmarkResult

/-- The service. `bound` says whether it was made with a topology controller,
`supervised` whether it has a supervision source; without a factory a benchmark
runs on `cpu`, what the core library links. -/
structure ControlService (β τ : Type) where
  cpu : CpuDevices β τ
  topologyRevision : UInt64 := 0
  bound : Bool := true
  supervised : Bool := false
  benchmarkBackends : Option (BenchmarkBackendFactory β) := none
  trafficSources : Option (TrafficSourceFactory τ) := none
  benchmarkRun : Option (BenchmarkRun β τ) := none
  benchmarkOperationId : Bytes := []
  benchmarkDeadlineNs : UInt64 := 0
  nextBenchmarkId : UInt64 := 1
  nextEventSequence : UInt64 := 1

/-- What a dispatched request leaves behind. -/
abbrev Dispatched (β τ : Type) := ControlDispatch × ControlService β τ × TopologyController

namespace ControlService

variable {β τ : Type}

def currentTopologyRevision (service : ControlService β τ) (controller : TopologyController) :
    UInt64 :=
  if service.bound then controller.topologyRevision else service.topologyRevision

def accept (service : ControlService β τ) (controller : TopologyController)
    (requestId operationId : Bytes) : ControlReply where
  requestId
  accepted := true
  topologyRevision := service.currentTopologyRevision controller
  operationId

/-- A refusal: a reply and no events. -/
def reject (service : ControlService β τ) (controller : TopologyController)
    (requestId error : Bytes) : ControlDispatch where
  reply :=
    { requestId, topologyRevision := service.currentTopologyRevision controller, error }

/-- What the next event is stamped with. -/
def eventStamp (service : ControlService β τ) (controller : TopologyController) : EventStamp where
  eventSequence := service.nextEventSequence
  topologyRevision := service.currentTopologyRevision controller

/-- The sequence number of the next event is taken. -/
def takeSequence (service : ControlService β τ) : ControlService β τ :=
  { service with nextEventSequence := service.nextEventSequence + 1 }

/-- An operation id: what was done and the number of its event. -/
def operationId (service : ControlService β τ) (operation : String) : Bytes :=
  bytes operation ++ decimal service.nextEventSequence.toNat

/-! ## Queries -/

def getSwitchState (service : ControlService β τ) (controller : TopologyController)
    (metrics : SwitchMetricsSnapshot) (request : ControlRequest) : Dispatched β τ :=
  ({ reply := service.accept controller request.requestId (service.operationId "switch-state-")
     metricsEvent := some { toEventStamp := service.eventStamp controller, metrics } },
    service.takeSequence, controller)

/-- The supervision event for a snapshot, and the service after it. -/
def supervisionEvent (service : ControlService β τ) (controller : TopologyController)
    (snapshot : SupervisionSnapshot) : SupervisionStateEvent × ControlService β τ :=
  ({ toEventStamp := service.eventStamp controller
     analysedFrames := snapshot.analysedFrames
     blockedFrames := snapshot.blockedFrames
     bindings := snapshot.bindings },
    service.takeSequence)

def getSupervisionState (service : ControlService β τ) (controller : TopologyController)
    (snapshot : SupervisionSnapshot) (request : ControlRequest) : Dispatched β τ :=
  if !service.supervised then
    (service.reject controller request.requestId (bytes "supervision state is unavailable"),
      service, controller)
  else
    let (event, after) := service.supervisionEvent controller snapshot
    ({ reply :=
         service.accept controller request.requestId (service.operationId "supervision-state-")
       supervisionEvent := some event },
      after, controller)

/-- A configured fault as an event. -/
def faultEvent (revision : UInt64) (sequence : UInt64) (fault : TopologyFault) :
    FaultStateEvent where
  eventSequence := sequence
  topologyRevision := revision
  firstEndpoint := fault.firstEndpoint
  secondEndpoint := fault.secondEndpoint
  configuration := fault.configuration
  active := true

def getActiveFaults (service : ControlService β τ) (controller : TopologyController)
    (request : ControlRequest) : Dispatched β τ :=
  match controller.activeFaults with
  | .error e => (service.reject controller request.requestId e.toString, service, controller)
  | .ok faults =>
      let (faultEvents, nextEventSequence) :=
        stamp (· + 1) (faultEvent (service.currentTopologyRevision controller))
          service.nextEventSequence faults
      ({ reply := service.accept controller request.requestId (service.operationId "active-faults-")
         faultEvents },
        { service with nextEventSequence }, controller)

/-! ## Topologies -/

/-- The topology a file describes, or the text of its error. -/
def topologyFromFile (files : Files) (path : Bytes) : Except Bytes Topology :=
  match topologyConfigurationFromYamlFile files path with
  | .error e => .error e.toString
  | .ok configuration =>
      match Topology.create configuration with
      | .error e => .error e.toString
      | .ok topology => .ok topology

def loadTopology (service : ControlService β τ) (controller : TopologyController)
    (files : Files) (request : ControlRequest) : Dispatched β τ :=
  if !service.bound then
    (service.reject controller request.requestId (bytes "topology loading is unavailable"),
      service, controller)
  else
    match topologyFromFile files request.topology.path with
    | .error e => (service.reject controller request.requestId e, service, controller)
    | .ok topology =>
        let controller := controller.load topology
        ({ reply :=
             service.accept controller request.requestId (service.operationId "topology-loaded-")
           topologyEvent := some
             { toEventStamp := service.eventStamp controller
               name := topology.name
               nodes := topology.nodes
               links := topology.links } },
          service.takeSequence, controller)

/-! ## Faults -/

/-- The answer to a fault command, given the text of its failure, if it failed,
and the controller after it. -/
def faultChanged (service : ControlService β τ) (request : ControlRequest)
    (firstEndpoint secondEndpoint : Bytes) (active : Bool)
    (outcome : Option Bytes × TopologyController) : Dispatched β τ :=
  match outcome with
  | (some error, controller) =>
      (service.reject controller request.requestId error, service, controller)
  | (none, controller) =>
      ({ reply := service.accept controller request.requestId
           (service.operationId (if active then "fault-set-" else "fault-cleared-"))
         faultEvents :=
           [{ toEventStamp := service.eventStamp controller
              firstEndpoint, secondEndpoint
              configuration := request.fault.configuration
              active }] },
        service.takeSequence, controller)

/-- A set command's failure, and the controller after it. -/
def setOutcome (controller : TopologyController) :
    Except TopologyControllerError TopologyController → Option Bytes × TopologyController
  | .error e => (some e.toString, controller)
  | .ok controller => (none, controller)

/-- A clear command's failure, and the controller after it. -/
def clearOutcome : Bool × TopologyController → Option Bytes × TopologyController
  | (false, controller) => (some (bytes "fault target has no active configuration"), controller)
  | (true, controller) => (none, controller)

/-- The fault commands need a controller. -/
def withController (service : ControlService β τ) (controller : TopologyController)
    (request : ControlRequest) (command : Dispatched β τ) : Dispatched β τ :=
  if !service.bound then
    (service.reject controller request.requestId (bytes "topology fault control is unavailable"),
      service, controller)
  else command

/-! ## Benchmarks -/

def progressEvent (service : ControlService β τ) (controller : TopologyController)
    (run : BenchmarkRun β τ) : BenchmarkProgressEvent where
  toEventStamp := service.eventStamp controller
  operationId := service.benchmarkOperationId
  completedPackets := run.completedPackets
  totalPackets := run.totalPackets

def resultEvent (service : ControlService β τ) (controller : TopologyController)
    (run : BenchmarkRun β τ) (completed : Bool) : BenchmarkResultEvent where
  toEventStamp := service.eventStamp controller
  operationId := service.benchmarkOperationId
  completed
  result := run.result

/-- The run a request asks for. -/
def benchmarkConfig (benchmark : BenchmarkParameters) (scenario : TrafficScenario) :
    BenchmarkConfig where
  traffic := { scenario, seed := benchmark.seed, frameSize := benchmark.frameSize.toUInt64 }
  packetCount := benchmark.packetCount
  batchSize := benchmark.batchSize.toUInt64
  backend := benchmark.backend.toString
  generator := benchmark.generator

/-- `none` is the exception of a run that could not reserve its latencies. -/
def startBenchmark (service : ControlService β τ) (controller : TopologyController)
    (allocates : Nat → Bool) (request : ControlRequest) : Option (Dispatched β τ) :=
  let refuse (error : Bytes) : Dispatched β τ :=
    (service.reject controller request.requestId error, service, controller)
  if service.benchmarkRun.isSome then
    some (refuse (bytes "a benchmark run is already active"))
  else
    match trafficScenarioFromString request.benchmark.scenario with
    | .error e => some (refuse e.toString)
    | .ok scenario =>
        match BenchmarkRun.create allocates (benchmarkConfig request.benchmark scenario)
          (some (service.benchmarkBackends.getD (cpuBenchmarkBackendFactory service.cpu)))
          (some (service.trafficSources.getD (cpuTrafficSourceFactory service.cpu))) with
        | none => none
        | some (.error e) => some (refuse e.toString)
        | some (.ok run) =>
            let service :=
              { service with
                benchmarkRun := some run
                benchmarkOperationId := bytes "benchmark-" ++ decimal service.nextBenchmarkId.toNat
                nextBenchmarkId := service.nextBenchmarkId + 1
                benchmarkDeadlineNs :=
                  request.benchmark.durationSeconds.toUInt64 * 1000000000 }
            some
              ({ reply :=
                   service.accept controller request.requestId service.benchmarkOperationId
                 benchmarkProgressEvent := some (service.progressEvent controller run) },
                service.takeSequence, controller)

def stopRun (service : ControlService β τ) (controller : TopologyController)
    (request : ControlRequest) : Dispatched β τ :=
  match service.benchmarkRun with
  | none =>
      (service.reject controller request.requestId (bytes "no run is active"), service, controller)
  | some run =>
      ({ reply := service.accept controller request.requestId service.benchmarkOperationId
         benchmarkResultEvent := some (service.resultEvent controller run false) },
        { service.takeSequence with benchmarkRun := none }, controller)

def benchmarkActive (service : ControlService β τ) : Bool := service.benchmarkRun.isSome

/-- Run a slice of the active benchmark and report what moved. -/
def advanceBenchmark (service : ControlService β τ) (controller : TopologyController)
    (latencyNs : Nat → UInt64) (sliceNs maxPackets : UInt64) :
    BenchmarkEventDispatch × ControlService β τ :=
  match service.benchmarkRun with
  | none => ({}, service)
  | some run =>
      let (advanced, run) := run.advance latencyNs sliceNs maxPackets
      let service := { service with benchmarkRun := some run }
      if advanced = 0 ∧ !run.finished then ({}, service)
      else
        let progressEvent := service.progressEvent controller run
        let service := service.takeSequence
        let outOfTime :=
          service.benchmarkDeadlineNs ≠ 0 && run.result.elapsedNs ≥ service.benchmarkDeadlineNs
        if run.finished || outOfTime then
          ({ progressEvent := some progressEvent
             resultEvent := some (service.resultEvent controller run true) },
            { service.takeSequence with benchmarkRun := none })
        else ({ progressEvent := some progressEvent }, service)

/-! ## Requests -/

/-- A request that passed the checks every command shares. The ten commands are
all there are, so the source's last refusal, "command is not implemented",
answers none of them. -/
def execute (service : ControlService β τ) (controller : TopologyController) (env : Environment)
    (request : ControlRequest) : Option (Dispatched β τ) :=
  let fault := request.fault
  match request.command with
  | .getSwitchState => some (service.getSwitchState controller env.metrics request)
  | .getSupervisionState => some (service.getSupervisionState controller env.supervision request)
  | .loadTopology => some (service.loadTopology controller env.files request)
  | .startBenchmark => service.startBenchmark controller env.allocates request
  | .stopRun => some (service.stopRun controller request)
  | .getActiveFaults =>
      some (service.withController controller request (service.getActiveFaults controller request))
  | .setPortFault =>
      some (service.withController controller request
        (service.faultChanged request fault.portId [] true
          (setOutcome controller (controller.setPortFault fault.portId fault.configuration))))
  | .clearPortFault =>
      some (service.withController controller request
        (service.faultChanged request fault.portId [] false
          (clearOutcome (controller.clearPortFault fault.portId))))
  | .setLinkFault =>
      some (service.withController controller request
        (service.faultChanged request fault.firstEndpoint fault.secondEndpoint true
          (setOutcome controller (controller.setLinkFault fault.firstEndpoint fault.secondEndpoint
            fault.configuration))))
  | .clearLinkFault =>
      some (service.withController controller request
        (service.faultChanged request fault.firstEndpoint fault.secondEndpoint false
          (clearOutcome (controller.clearLinkFault fault.firstEndpoint fault.secondEndpoint))))

/-- Parse, validate, compare revisions, execute. -/
def dispatch (service : ControlService β τ) (controller : TopologyController) (env : Environment)
    (json : Bytes) : Option (Dispatched β τ) :=
  match controlRequestFromJson json with
  | .error e => some (service.reject controller [] e.toString, service, controller)
  | .ok request =>
      match request.validate with
      | .error e =>
          some (service.reject controller request.requestId e.toString, service, controller)
      | .ok () =>
          if request.topologyRevision ≠ service.currentTopologyRevision controller then
            some (service.reject controller request.requestId (bytes "stale topology revision"),
              service, controller)
          else service.execute controller env request

/-! ## Analysis -/

/-- The ports whose fault enforcement changed, and whether each has one now. -/
def enforcementChanges (controller : TopologyController) (outcome : AnalysisOutcome) :
    List (Bytes × Bool) :=
  let released := outcome.released.map fun action =>
    (action.portId, (controller.portFault action.portId).isSome)
  let applied := outcome.enforced.filter fun action =>
    action.outcome = .applied || action.outcome = .extended
  (released ++ applied.map fun action => (action.portId, true)).filter fun change =>
    !change.1.isEmpty

/-- The event for one such port: what is configured on it now. -/
def enforcementEvent (controller : TopologyController) (revision : UInt64) (sequence : UInt64)
    (change : Bytes × Bool) : FaultStateEvent where
  eventSequence := sequence
  topologyRevision := revision
  firstEndpoint := change.1
  configuration := (controller.portFault change.1).getD {}
  active := change.2

/-- Stamp one pipeline outcome as events. -/
def analysisEvents (service : ControlService β τ) (controller : TopologyController)
    (outcome : AnalysisOutcome) : AnalysisEventDispatch × ControlService β τ :=
  let revision := service.currentTopologyRevision controller
  let (anomalyEvents, sequence) := stamp (· + 1)
    (fun eventSequence anomaly =>
      ({ eventSequence, topologyRevision := revision, anomaly } : AnomalyDetectedEvent))
    service.nextEventSequence outcome.anomalies
  let (policyEvents, sequence) := stamp (· + 1)
    (fun eventSequence decision =>
      ({ eventSequence, topologyRevision := revision, decision } : PolicyActionEvent))
    sequence outcome.decisions
  if !service.bound then
    ({ anomalyEvents, policyEvents }, { service with nextEventSequence := sequence })
  else
    let (faultEvents, sequence) := stamp (· + 1) (enforcementEvent controller revision) sequence
      (enforcementChanges controller outcome)
    ({ anomalyEvents, policyEvents, faultEvents,
       enforcementActions := outcome.released ++ outcome.enforced },
      { service with nextEventSequence := sequence })

end ControlService
end WireLab
