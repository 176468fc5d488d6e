import WireLab.Model.AnalysisPipeline
import WireLab.Model.ControlProtocol

/-!
# The switch supervisor

`switch_supervisor.cpp`: frames are attributed to topology ports in the order
their senders are first seen, recorded for the next analysis, and judged by the
fault on the sender's port. The analyzer is an interface of the source; its
object is of any type `α`.

The supervisor refers to a pipeline and a controller that others share; here it
holds them. A control server that is attached is polled first by every tick;
`served` is what the requests it serves then do to the controller.
-/

namespace WireLab

open Base

structure Endpoint where
  address : Bytes
  port : UInt16
  deriving DecidableEq

def Endpoint.toString (endpoint : Endpoint) : Bytes :=
  endpoint.address ++ colon :: decimal endpoint.port.toNat

/-- Durations in nanoseconds. -/
structure SwitchSupervisorConfig where
  tickInterval : Int := 200000000
  maxBatchFrames : Nat := 512
  deriving DecidableEq, Repr

/-- A sender's ingress number, and the port it had when the sender was first
seen; empty if it had none. -/
structure Binding where
  ingressPort : UInt32 := 0
  portId : Bytes := []
  deriving DecidableEq

/-- The analyzer of a supervisor. -/
structure PacketAnalyzer (α : Type) where
  analyze : α → List PacketView → AnalysisBatch × α

structure SwitchSupervisor (α : Type) where
  pipeline : AnalysisPipeline
  controller : TopologyController
  config : SwitchSupervisorConfig := {}
  controlled : Bool := false
  analyzer : α
  bindings : Dict Bytes Binding := ∅
  batch : List PacketView := []
  lastTick : Int := 0
  analysedFrames : UInt64 := 0
  blockedFrames : UInt64 := 0
  publishedAnalysedFrames : UInt64 := 0
  publishedBlockedFrames : UInt64 := 0
  publishedBindings : Nat := 0

/-- What a tick produced: the outcome of its analysis, if one was due, and what
the control server is told of it. -/
structure TickOutcome where
  analysis : Option AnalysisOutcome := none
  publishedAnalysis : Option AnalysisOutcome := none
  publishedSupervision : Option SupervisionSnapshot := none

namespace SwitchSupervisor

variable {α : Type}

/-- The constructor attaches the pipeline. -/
def create (pipeline : AnalysisPipeline) (controller : TopologyController)
    (config : SwitchSupervisorConfig) (analyzer : α) : SwitchSupervisor α where
  pipeline := pipeline.attach
  controller := controller
  config := config
  analyzer := analyzer

/-- The binding of a sender; a new one gets the next ingress number and the port
that has that number now. -/
def bind (supervisor : SwitchSupervisor α) (sender : Endpoint) : Binding × SwitchSupervisor α :=
  match supervisor.bindings.lookup sender.toString with
  | some binding => (binding, supervisor)
  | none =>
      let ingressPort := UInt32.ofNat supervisor.bindings.keys.length
      let binding : Binding :=
        { ingressPort, portId := (supervisor.controller.portIdAt ingressPort).getD [] }
      (binding,
        { supervisor with bindings := supervisor.bindings.insert sender.toString binding })

/-- The senders that have a port, by port. -/
def portBindings (supervisor : SwitchSupervisor α) : List PortBinding :=
  (supervisor.bindings.entries.filterMap fun entry =>
    if entry.2.portId.isEmpty then none
    else some { portId := entry.2.portId, endpoint := entry.1 }).insertionSort
      fun left right => left.portId ≤ right.portId

def supervisionSnapshot (supervisor : SwitchSupervisor α) : SupervisionSnapshot where
  analysedFrames := supervisor.analysedFrames
  blockedFrames := supervisor.blockedFrames
  bindings := supervisor.portBindings

/-- Publish the supervision state if it has moved. -/
def publish (supervisor : SwitchSupervisor α) :
    Option SupervisionSnapshot × SwitchSupervisor α :=
  if supervisor.analysedFrames ≠ supervisor.publishedAnalysedFrames ∨
      supervisor.blockedFrames ≠ supervisor.publishedBlockedFrames ∨
      supervisor.bindings.keys.length ≠ supervisor.publishedBindings then
    (some supervisor.supervisionSnapshot,
      { supervisor with
        publishedAnalysedFrames := supervisor.analysedFrames
        publishedBlockedFrames := supervisor.blockedFrames
        publishedBindings := supervisor.bindings.keys.length })
  else (none, supervisor)

def full (supervisor : SwitchSupervisor α) : Bool :=
  supervisor.config.maxBatchFrames ≤ supervisor.batch.length

/-- Whether an analysis is due: the first one, one after an interval, or one for
a full batch. -/
def due (supervisor : SwitchSupervisor α) (now : Int) : Bool :=
  supervisor.lastTick = 0 || supervisor.config.tickInterval ≤ now - supervisor.lastTick ||
    supervisor.full

/-- A clock reading as the detector takes it: 64 bits, unsigned. -/
def timestampNs (now : Int) : Nat := (now % 2 ^ 64).toNat

/-- Analyse the batch and enforce what follows. -/
def analyse (analyzer : PacketAnalyzer α) (supervisor : SwitchSupervisor α) (now : Int) :
    Option (AnalysisOutcome × SwitchSupervisor α) :=
  let (analysis, analyzer) := analyzer.analyze supervisor.analyzer supervisor.batch
  match supervisor.pipeline.evaluate supervisor.controller analysis (timestampNs now) now with
  | none => none
  | some (outcome, pipeline, controller) =>
      some (outcome,
        { supervisor with
          pipeline, controller, analyzer
          lastTick := now
          analysedFrames := supervisor.analysedFrames + analysis.receivedPackets
          batch := [] })

/-- Poll the control server, if one is attached. -/
def serve (served : TopologyController → TopologyController) (supervisor : SwitchSupervisor α) :
    SwitchSupervisor α :=
  if supervisor.controlled then { supervisor with controller := served supervisor.controller }
  else supervisor

/-- Serve the control plane, then analyse if it is due. -/
def tick (analyzer : PacketAnalyzer α) (served : TopologyController → TopologyController)
    (supervisor : SwitchSupervisor α) (now : Int) : Option (TickOutcome × SwitchSupervisor α) :=
  let supervisor := supervisor.serve served
  if !supervisor.due now then some ({}, supervisor)
  else
    match supervisor.analyse analyzer now with
    | none => none
    | some (outcome, supervisor) =>
        if !supervisor.controlled then some ({ analysis := some outcome }, supervisor)
        else
          let (publishedSupervision, supervisor) := supervisor.publish
          some ({ analysis := some outcome, publishedAnalysis := some outcome,
                  publishedSupervision }, supervisor)

/-- Judge a frame by the fault on a port; a port that there is not lets it
pass. -/
def judge (supervisor : SwitchSupervisor α) (portId : Bytes) (frameData : Bytes) (arrival : Int) :
    FaultDecision × SwitchSupervisor α :=
  let passed : FaultDecision := { deliveryCount := 1, deliveryTimes := [arrival] }
  if portId.isEmpty then (passed, supervisor)
  else
    match supervisor.controller.evaluatePort portId (UInt64.ofNat frameData.length) arrival with
    | .error _ => (passed, supervisor)
    | .ok (evaluated, controller) =>
        let blocked := evaluated.dropped || evaluated.deliveryCount = 0
        (evaluated,
          { supervisor with
            controller
            blockedFrames := if blocked then supervisor.blockedFrames + 1
              else supervisor.blockedFrames })

/-- Attribute a frame to its sender and record it, if the batch has room. -/
def record (supervisor : SwitchSupervisor α) (frameData : Bytes) (sender : Endpoint) :
    Binding × SwitchSupervisor α :=
  let (binding, supervisor) := supervisor.bind sender
  if supervisor.batch.length < supervisor.config.maxBatchFrames then
    (binding,
      { supervisor with
        batch := supervisor.batch ++
          [{ bytes := frameData, ingressPort := binding.ingressPort }] })
  else (binding, supervisor)

/-- Record a frame before it is judged, so that containment does not blind the
detector; tick early if that fills the batch. -/
def inspect (analyzer : PacketAnalyzer α) (served : TopologyController → TopologyController)
    (supervisor : SwitchSupervisor α) (frameData : Bytes) (sender : Endpoint) (arrival : Int) :
    Option (FaultDecision × TickOutcome × SwitchSupervisor α) :=
  let (binding, supervisor) := supervisor.record frameData sender
  match
    if supervisor.full then supervisor.tick analyzer served arrival
    else some ({}, supervisor) with
  | none => none
  | some (outcome, supervisor) =>
      let (decision, supervisor) := supervisor.judge binding.portId frameData arrival
      some (decision, outcome, supervisor)

end SwitchSupervisor
end WireLab
