import WireLab.Model.Benchmark
import WireLab.Model.TopologyController
import WireLab.Model.PolicyEngine

/-!
# The control protocol

`control_protocol.hpp`: requests, replies and events, and the checks on a
request that hold whatever the state of the switch. `ControlEvent` is the event
stream's element: one constructor for each kind of event the switch publishes.
-/

namespace WireLab

open Base

def wirelabControlApiVersion : UInt32 := 1

inductive AnalyzerBackend
  | cpu
  | cuda
  deriving DecidableEq, Repr

inductive ControlCommand
  | loadTopology
  | getSwitchState
  | getActiveFaults
  | getSupervisionState
  | startBenchmark
  | stopRun
  | setPortFault
  | clearPortFault
  | setLinkFault
  | clearLinkFault
  deriving DecidableEq, Repr

inductive ControlValidationError
  | unsupportedApiVersion
  | missingRequestId
  | invalidBenchmarkConfiguration
  deriving DecidableEq, Repr

inductive ControlParseError
  | malformedJson
  | invalidField
  | missingRequiredField
  deriving DecidableEq, Repr

def AnalyzerBackend.toString : AnalyzerBackend → Bytes
  | .cpu => bytes "cpu"
  | .cuda => bytes "cuda"

def ControlCommand.toString : ControlCommand → Bytes
  | .loadTopology => bytes "load_topology"
  | .getSwitchState => bytes "get_switch_state"
  | .getActiveFaults => bytes "get_active_faults"
  | .getSupervisionState => bytes "get_supervision_state"
  | .startBenchmark => bytes "start_benchmark"
  | .stopRun => bytes "stop_run"
  | .setPortFault => bytes "set_port_fault"
  | .clearPortFault => bytes "clear_port_fault"
  | .setLinkFault => bytes "set_link_fault"
  | .clearLinkFault => bytes "clear_link_fault"

def ControlValidationError.toString : ControlValidationError → Bytes
  | .unsupportedApiVersion => bytes "unsupported API version"
  | .missingRequestId => bytes "request_id is required"
  | .invalidBenchmarkConfiguration => bytes "invalid benchmark configuration"

def ControlParseError.toString : ControlParseError → Bytes
  | .malformedJson => bytes "malformed JSON"
  | .invalidField => bytes "invalid control request field"
  | .missingRequiredField => bytes "missing required control request field"

/-! ## Requests and replies -/

structure BenchmarkParameters where
  scenario : Bytes := []
  backend : AnalyzerBackend := .cpu
  generator : Bytes := bytes "cpu"
  packetCount : UInt64 := 0
  frameSize : UInt32 := 64
  batchSize : UInt32 := 1
  durationSeconds : UInt32 := 0
  seed : UInt64 := 1
  deriving DecidableEq, Repr

structure TopologyParameters where
  path : Bytes := []
  deriving DecidableEq, Repr

structure FaultParameters where
  portId : Bytes := []
  firstEndpoint : Bytes := []
  secondEndpoint : Bytes := []
  configuration : FaultConfiguration := {}
  deriving DecidableEq, Repr

structure ControlRequest where
  apiVersion : UInt32 := wirelabControlApiVersion
  requestId : Bytes := []
  command : ControlCommand := .getSwitchState
  topologyRevision : UInt64 := 0
  benchmark : BenchmarkParameters := {}
  topology : TopologyParameters := {}
  fault : FaultParameters := {}
  deriving DecidableEq, Repr

structure ControlReply where
  apiVersion : UInt32 := wirelabControlApiVersion
  requestId : Bytes := []
  accepted : Bool := false
  topologyRevision : UInt64 := 0
  operationId : Bytes := []
  error : Bytes := []
  deriving DecidableEq, Repr

/-! ## Events -/

structure SwitchMetricsSnapshot where
  receivedPackets : UInt64 := 0
  receivedBytes : UInt64 := 0
  forwardedPackets : UInt64 := 0
  forwardedBytes : UInt64 := 0
  broadcastPackets : UInt64 := 0
  unknownUnicastPackets : UInt64 := 0
  droppedPackets : UInt64 := 0
  malformedPackets : UInt64 := 0
  learnedMacs : UInt64 := 0
  deriving DecidableEq, Repr

structure PortBinding where
  portId : Bytes
  endpoint : Bytes
  deriving DecidableEq, Repr

/-- Live supervision state, independent of when it is asked for. -/
structure SupervisionSnapshot where
  analysedFrames : UInt64 := 0
  blockedFrames : UInt64 := 0
  bindings : List PortBinding := []
  deriving DecidableEq, Repr

/-- What every event is stamped with. -/
structure EventStamp where
  apiVersion : UInt32 := wirelabControlApiVersion
  eventSequence : UInt64
  topologyRevision : UInt64
  deriving DecidableEq, Repr

structure SwitchMetricsEvent extends EventStamp where
  metrics : SwitchMetricsSnapshot

structure FaultStateEvent extends EventStamp where
  firstEndpoint : Bytes
  secondEndpoint : Bytes := []
  configuration : FaultConfiguration
  active : Bool

structure TopologyStateEvent extends EventStamp where
  name : Bytes
  nodes : List TopologyNode
  links : List TopologyLink

structure AnomalyDetectedEvent extends EventStamp where
  anomaly : AnomalyEvent

structure PolicyActionEvent extends EventStamp where
  decision : PolicyDecision

structure SupervisionStateEvent extends EventStamp where
  analysedFrames : UInt64
  blockedFrames : UInt64
  bindings : List PortBinding

structure BenchmarkProgressEvent extends EventStamp where
  operationId : Bytes
  completedPackets : UInt64
  totalPackets : UInt64

/-- `completed` tells a run that reached its end from one that was stopped. -/
structure BenchmarkResultEvent extends EventStamp where
  operationId : Bytes
  completed : Bool
  result : BenchmarkResult

/-- One event of the stream. -/
inductive ControlEvent
  | switchMetrics (event : SwitchMetricsEvent)
  | faultState (event : FaultStateEvent)
  | topologyState (event : TopologyStateEvent)
  | anomalyDetected (event : AnomalyDetectedEvent)
  | policyAction (event : PolicyActionEvent)
  | supervisionState (event : SupervisionStateEvent)
  | benchmarkProgress (event : BenchmarkProgressEvent)
  | benchmarkResult (event : BenchmarkResultEvent)

def ControlEvent.stamp : ControlEvent → EventStamp
  | .switchMetrics event => event.toEventStamp
  | .faultState event => event.toEventStamp
  | .topologyState event => event.toEventStamp
  | .anomalyDetected event => event.toEventStamp
  | .policyAction event => event.toEventStamp
  | .supervisionState event => event.toEventStamp
  | .benchmarkProgress event => event.toEventStamp
  | .benchmarkResult event => event.toEventStamp

/-- The number a client orders the event by. -/
def ControlEvent.sequence (event : ControlEvent) : UInt64 := event.stamp.eventSequence

/-! ## Validation -/

/-- The bounds on a benchmark request. -/
def isValidBenchmark (benchmark : BenchmarkParameters) : Bool :=
  !benchmark.scenario.isEmpty && benchmark.batchSize > 0 && benchmark.batchSize ≤ 8192 &&
    benchmark.durationSeconds > 0 && benchmark.packetCount > 0 && benchmark.frameSize ≥ 14 &&
    benchmark.frameSize ≤ 9000

def ControlRequest.validate (request : ControlRequest) : Except ControlValidationError Unit :=
  if request.apiVersion ≠ wirelabControlApiVersion then .error .unsupportedApiVersion
  else if request.requestId.isEmpty then .error .missingRequestId
  else if request.command = .startBenchmark ∧ !isValidBenchmark request.benchmark then
    .error .invalidBenchmarkConfiguration
  else .ok ()

end WireLab
