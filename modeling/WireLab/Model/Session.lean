import WireLab.Model.AnalysisPipeline
import WireLab.Model.BenchmarkDevices
import WireLab.Model.SessionReport

/-!
# The session

`session.hpp` and `session.cpp`: the state of a desktop lab, the rows it publishes,
and the bits that say which of them have changed. The helpers that rebuild rows
from the engines are here, because commands of every kind share them.

A call that reads the clock, a file or a device is given what it read.
-/

namespace WireLab

open Base

inductive SessionDirty
  | topology
  | selection
  | status
  | trafficState
  | telemetry
  | faults
  | policies
  | report
  deriving DecidableEq, Repr

/-- `dirty_bit`. -/
def SessionDirty.bit (flag : SessionDirty) : UInt32 := 1 <<< UInt32.ofNat flag.ctorIdx

structure NodeRow where
  id : Bytes
  type : TopologyNodeType := .host
  x : Float := 0.5
  y : Float := 0.5

structure LinkRow where
  «from» : Bytes
  «to» : Bytes
  latencyMs : Int := 0
  deriving DecidableEq, Repr

structure MetricSample where
  sequence : UInt64
  throughputMbps : Float
  latencyMs : Float
  lossPercent : Float

structure MacTableRow where
  mac : Bytes
  port : Bytes
  deriving DecidableEq, Repr

structure PortStateRow where
  id : Bytes
  enforced : Bool
  received : UInt64
  forwarded : UInt64
  dropped : UInt64
  deriving DecidableEq, Repr

structure PacketRow where
  sourceMac : Bytes
  destinationMac : Bytes
  sourceIp : Bytes
  destinationIp : Bytes
  ingress : Bytes
  protocol : UInt8
  destinationPort : UInt16
  bytes : UInt16
  classification : PacketClassification
  validity : PacketValidity
  deriving DecidableEq

structure AnomalyRow where
  type : AnomalyType
  sourceMac : Bytes
  sourceIp : Bytes
  ingressPort : UInt32
  observed : Nat
  threshold : Nat
  deriving DecidableEq

structure FaultRow where
  first : Bytes
  second : Bytes
  latencyMs : Int
  lossPercent : Float
  blackhole : Bool

structure PolicyRow where
  name : Bytes
  anomalyType : AnomalyType
  action : PolicyAction
  enabled : Bool
  rateLimitPacketsPerSecond : UInt64
  hits : UInt64
  deriving DecidableEq

structure PolicyActionRow where
  sequence : UInt64
  rule : Bytes
  anomalyType : AnomalyType
  action : PolicyAction
  port : Bytes
  outcome : EnforcementOutcome
  detail : Bytes
  deriving DecidableEq

structure EnforcedPortRow where
  port : Bytes
  rule : Bytes
  kind : EnforcementKind
  summary : Bytes
  deriving DecidableEq

inductive SelectionKind
  | none
  | node
  | link
  deriving DecidableEq, Repr

@[ext]
structure PortCounters where
  received : UInt64 := 0
  forwarded : UInt64 := 0
  dropped : UInt64 := 0
  deriving DecidableEq, Repr

/-- The analyzer of the traffic: the one the core library links, or a device's. -/
inductive TrafficAnalyzer (δ : Type)
  | cpu (learnedMacs : List MacAddress)
  | accelerated (device : δ)

/-- The constructor's pipeline. -/
def desktopPipeline : AnalysisPipeline where
  detector :=
    { config := SessionDetail.desktopAnomalyConfig
      windowed := SessionDetail.desktopAnomalyConfig_windowed }
  attached := true

structure Session (δ β τ : Type) where
  dirty : UInt32 := 0
  statusMessage : Bytes := []
  topologyController : TopologyController := {}
  topologyConfiguration : TopologyConfiguration := {}
  topologyPath : Bytes := []
  topologyNodes : List NodeRow := []
  topologyLinks : List LinkRow := []
  selectionKind : SelectionKind := .none
  selectedId : Bytes := []
  selectedFirst : Bytes := []
  selectedSecond : Bytes := []
  selectedSummary : Bytes := []
  trafficRunning : Bool := false
  activeBackend : Bytes := bytes "CPU"
  trafficScenario : TrafficScenario := .mixed
  packetsPerTick : Int32 := 256
  frameSize : Int32 := 64
  trafficSeed : UInt64 := 1
  tickSequence : UInt64 := 0
  totalPackets : UInt64 := 0
  totalBytes : UInt64 := 0
  totalDropped : UInt64 := 0
  trafficGenerator : Option DeterministicTrafficGenerator := none
  trafficAnalyzer : Option (TrafficAnalyzer δ) := none
  analysisPipeline : AnalysisPipeline := desktopPipeline
  portCounters : Dict Bytes PortCounters := ∅
  simulationStart : Int := 0
  learnedMacPorts : Dict Bytes Bytes := ∅
  trafficResult : Bytes := []
  metricsHistory : List MetricSample := []
  macTable : List MacTableRow := []
  portStates : List PortStateRow := []
  packetRows : List PacketRow := []
  anomalyRows : List AnomalyRow := []
  activeFaults : List FaultRow := []
  policyRules : List PolicyRow := []
  policyActions : List PolicyActionRow := []
  enforcedPorts : List EnforcedPortRow := []
  report : BenchmarkReport β τ := {}

namespace Session

variable {δ β τ : Type}

/-- The accumulated bits; they are cleared. -/
def takeDirty (session : Session δ β τ) : UInt32 × Session δ β τ :=
  (session.dirty, { session with dirty := 0 })

def mark (flag : SessionDirty) (session : Session δ β τ) : Session δ β τ :=
  { session with dirty := session.dirty ||| flag.bit }

def setStatus (message : Bytes) (session : Session δ β τ) : Session δ β τ :=
  { session with statusMessage := message }.mark .status

def hasTopology (session : Session δ β τ) : Bool := session.topologyController.hasTopology

/-- The ids of the hosts, in declaration order. -/
def hosts (session : Session δ β τ) : List Bytes :=
  (session.topologyConfiguration.nodes.filter fun node => node.type = .host).map TopologyNode.id

/-- The session with its pipeline and its controller replaced. -/
def withEngines (analysisPipeline : AnalysisPipeline) (topologyController : TopologyController)
    (session : Session δ β τ) : Session δ β τ :=
  { session with analysisPipeline, topologyController }

/-! ## Rows -/

/-- The rows of some nodes, where `hostIndex` of the hosts stand before them: the
switch is at the centre, and the hosts ring it. -/
def nodeRows (hostCount : Nat) : Nat → List TopologyNode → List NodeRow
  | _, [] => []
  | hostIndex, node :: nodes =>
      if node.type = .host ∧ hostCount ≠ 0 then
        let pi : Float := 3.14159265358979323846
        let angle := 2.0 * pi * hostIndex.toFloat / hostCount.toFloat - pi / 2.0
        { id := node.id
          type := node.type
          x := 0.5 + 0.38 * angle.cos
          y := 0.5 + 0.38 * angle.sin } :: nodeRows hostCount (hostIndex + 1) nodes
      else { id := node.id, type := node.type } :: nodeRows hostCount hostIndex nodes

def linkRow (link : TopologyLink) : LinkRow where
  «from» := link.from
  «to» := link.to
  latencyMs := link.latency

def rebuildTopologyRows (session : Session δ β τ) : Session δ β τ :=
  let configuration := session.topologyConfiguration
  { session with
    topologyNodes := nodeRows session.hosts.length 0 configuration.nodes
    topologyLinks := configuration.links.map linkRow }

def faultRow (fault : TopologyFault) : FaultRow where
  first := fault.firstEndpoint
  second := fault.secondEndpoint
  latencyMs := fault.configuration.latency.tdiv 1000000
  lossPercent := fault.configuration.lossBasisPoints.toNat.toFloat / 100.0
  blackhole := fault.configuration.blackhole

/-- The rows of the controller's faults. -/
def faultRows (controller : TopologyController) : List FaultRow :=
  match controller.activeFaults with
  | .error _ => []
  | .ok faults => faults.map faultRow

def rebuildFaultRows (session : Session δ β τ) : Session δ β τ :=
  { session with activeFaults := faultRows session.topologyController }.mark .faults

def policyRow (engine : PolicyEngine) (rule : PolicyRule) : PolicyRow where
  name := rule.name
  anomalyType := rule.anomalyType
  action := rule.action
  enabled := rule.enabled
  rateLimitPacketsPerSecond := rule.rateLimitPacketsPerSecond
  hits := engine.hitCount rule.name

def enforcedPortRow (action : EnforcementAction) : EnforcedPortRow where
  port := action.portId
  rule := action.ruleName
  kind := action.kind
  summary := SessionDetail.enforcementSummary action

/-- The rows of the engine's rules. -/
def policyRows (engine : PolicyEngine) : List PolicyRow := engine.rules.map (policyRow engine)

/-- The rows of the live leases. -/
def enforcedPortRows (enforcer : PolicyEnforcer) : List EnforcedPortRow :=
  enforcer.active.map enforcedPortRow

def rebuildPolicyRows (session : Session δ β τ) : Session δ β τ :=
  { session with
    policyRules := policyRows session.analysisPipeline.policies
    enforcedPorts := enforcedPortRows session.analysisPipeline.enforcer }.mark .policies

/-- A new session. -/
def create (now : Int) : Session δ β τ :=
  ({ simulationStart := now } : Session δ β τ).rebuildPolicyRows

end Session
end WireLab
