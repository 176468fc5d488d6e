import WireLab.Model.FaultEngine
import WireLab.Model.Topology

/-!
# The topology controller

`topology_controller.cpp`: the loaded topology, its revision, and the fault
engine addressed by port id or by link endpoints.

What the controller stores is read through `faultAt`, a partial map over
`FaultKey`: ports, and unordered pairs of endpoints. Each of the four commands
that change a fault changes one key of that map (`Sets`), because the targets
that encode the keys are distinct (`FaultKey.target_inj`).
-/

namespace WireLab

open Base

inductive TopologyControllerError
  | noTopology
  | unknownPort
  | unknownLink
  | invalidFaultConfiguration
  deriving DecidableEq, Repr

def TopologyControllerError.toString : TopologyControllerError → Bytes
  | .noTopology => bytes "no topology is loaded"
  | .unknownPort => bytes "unknown topology port"
  | .unknownLink => bytes "unknown topology link"
  | .invalidFaultConfiguration => bytes "invalid fault configuration"

/-- A configured fault as clients see it; a port fault has no second
endpoint. -/
structure TopologyFault where
  firstEndpoint : Bytes
  secondEndpoint : Bytes
  configuration : FaultConfiguration
  deriving DecidableEq, Repr

structure TopologyController where
  faultSeed : UInt64 := 1
  topologyRevision : UInt64 := 0
  topology : Option Topology := none
  faultEngine : FaultEngine := { seed := faultSeed }

/-! ## Fault targets -/

/-- The engine target of a port. -/
def portFaultTarget (portId : Bytes) : Bytes := bytes "port:" ++ lengthPrefixed portId

/-- The engine target of a link: its endpoints in order, whichever way round
they are given. -/
def linkFaultTarget (firstEndpoint secondEndpoint : Bytes) : Bytes :=
  if secondEndpoint < firstEndpoint then
    bytes "link:" ++ lengthPrefixed secondEndpoint ++ colon :: lengthPrefixed firstEndpoint
  else bytes "link:" ++ lengthPrefixed firstEndpoint ++ colon :: lengthPrefixed secondEndpoint

theorem portFaultTarget_inj {p q : Bytes} (h : portFaultTarget p = portFaultTarget q) : p = q :=
  (lengthPrefixed_inj (x := []) (y := []) (by simpa using List.append_cancel_left h)).1

theorem linkFaultTarget_comm (a b : Bytes) : linkFaultTarget a b = linkFaultTarget b a := by
  unfold linkFaultTarget
  by_cases hba : b < a
  · rw [if_pos hba, if_neg (List.lt_asymm hba)]
  · by_cases hab : a < b
    · rw [if_neg hba, if_pos hab]
    · rw [List.le_antisymm (List.not_lt.mp hba) (List.not_lt.mp hab)]

/-- A link target spells its endpoints in one order or the other. -/
private theorem linkFaultTarget_cases (a b : Bytes) :
    ∃ x y, s(a, b) = s(x, y) ∧
      linkFaultTarget a b = bytes "link:" ++ lengthPrefixed x ++ colon :: lengthPrefixed y := by
  unfold linkFaultTarget
  split
  · exact ⟨b, a, Sym2.eq_swap, rfl⟩
  · exact ⟨a, b, rfl, rfl⟩

theorem linkFaultTarget_inj {a b c d : Bytes} (h : linkFaultTarget a b = linkFaultTarget c d) :
    s(a, b) = s(c, d) := by
  obtain ⟨x, y, hab, htarget⟩ := linkFaultTarget_cases a b
  obtain ⟨z, w, hcd, htarget'⟩ := linkFaultTarget_cases c d
  rw [htarget, htarget', List.append_assoc, List.append_assoc] at h
  obtain ⟨hfirst, hrest⟩ := lengthPrefixed_inj (List.append_cancel_left h)
  obtain ⟨hsecond, _⟩ := lengthPrefixed_inj (x := []) (y := [])
    (by simpa using (List.cons.inj hrest).2)
  rw [hab, hcd, hfirst, hsecond]

theorem portFaultTarget_ne_linkFaultTarget (p a b : Bytes) :
    portFaultTarget p ≠ linkFaultTarget a b := by
  intro h
  obtain ⟨x, y, _, htarget⟩ := linkFaultTarget_cases a b
  rw [htarget, List.append_assoc] at h
  exact absurd (List.append_inj h rfl).1 (by decide)

/-! ## Fault keys -/

/-- What a fault can be configured on: a port, or an unordered link. -/
inductive FaultKey
  | port (portId : Bytes)
  | link (endpoints : Sym2 Bytes)
  deriving DecidableEq

/-- The key a fault is reported under: without a second endpoint it is a
port's. -/
def FaultKey.ofEndpoints (firstEndpoint secondEndpoint : Bytes) : FaultKey :=
  if secondEndpoint.isEmpty then .port firstEndpoint else .link s(firstEndpoint, secondEndpoint)

/-- The engine target of a key. -/
def FaultKey.target : FaultKey → Bytes
  | .port portId => portFaultTarget portId
  | .link endpoints => Sym2.lift ⟨linkFaultTarget, linkFaultTarget_comm⟩ endpoints

@[simp]
theorem FaultKey.target_link (a b : Bytes) : (FaultKey.link s(a, b)).target = linkFaultTarget a b :=
  rfl

/-- **Distinct keys have distinct targets.** -/
theorem FaultKey.target_inj {k j : FaultKey} (h : k.target = j.target) : k = j := by
  cases k with
  | port p =>
      cases j with
      | port q => rw [portFaultTarget_inj h]
      | link e =>
          induction e with
          | h a b => exact absurd h (portFaultTarget_ne_linkFaultTarget p a b)
  | link d =>
      cases j with
      | port q =>
          induction d with
          | h a b => exact absurd h.symm (portFaultTarget_ne_linkFaultTarget q a b)
      | link e =>
          induction d with
          | h a b =>
              induction e with
              | h c d => rw [linkFaultTarget_inj h]

theorem FaultKey.target_ne_nil (key : FaultKey) : key.target ≠ [] := by
  cases key with
  | port p => exact List.append_ne_nil_of_left_ne_nil (by decide) _
  | link e =>
      induction e with
      | h a b =>
          obtain ⟨x, y, _, htarget⟩ := linkFaultTarget_cases a b
          rw [FaultKey.target_link, htarget, List.append_assoc]
          exact List.append_ne_nil_of_left_ne_nil (by decide) _

/-! ## The controller -/

namespace TopologyController

/-- Replace the topology, forgetting every fault. The revision stops at the
largest 64-bit value. -/
def load (controller : TopologyController) (topology : Topology) : TopologyController :=
  { controller with
    topology := some topology
    faultEngine := { seed := controller.faultSeed }
    topologyRevision :=
      if controller.topologyRevision ≠ UInt64.ofNat (2 ^ 64 - 1) then
        controller.topologyRevision + 1
      else controller.topologyRevision }

/-- The controller with its faults replaced. -/
def withEngine (controller : TopologyController) (faultEngine : FaultEngine) :
    TopologyController :=
  { controller with faultEngine }

def hasTopology (controller : TopologyController) : Bool := controller.topology.isSome

/-- The ports are the host nodes, in declaration order. -/
def portIds (controller : TopologyController) : List Bytes :=
  match controller.topology with
  | none => []
  | some topology =>
      (topology.nodes.filter fun node => node.type = .host).map TopologyNode.id

/-- The port an analyzer's ingress number addresses. -/
def portIdAt (controller : TopologyController) (ingressPort : UInt32) : Option Bytes :=
  controller.portIds[ingressPort.toNat]?

def isPort (topology : Topology) (portId : Bytes) : Bool :=
  topology.nodes.any fun node => node.id = portId && node.type = .host

/-- Whether a link joins these endpoints, either way round. -/
def joins (firstEndpoint secondEndpoint : Bytes) (link : TopologyLink) : Bool :=
  (link.from = firstEndpoint && link.to = secondEndpoint) ||
    (link.from = secondEndpoint && link.to = firstEndpoint)

def isLink (topology : Topology) (firstEndpoint secondEndpoint : Bytes) : Bool :=
  topology.links.any (joins firstEndpoint secondEndpoint)

def portFault (controller : TopologyController) (portId : Bytes) : Option FaultConfiguration :=
  match controller.topology with
  | none => none
  | some topology =>
      if isPort topology portId then controller.faultEngine.faultFor (portFaultTarget portId)
      else none

def setPortFault (controller : TopologyController) (portId : Bytes)
    (configuration : FaultConfiguration) : Except TopologyControllerError TopologyController :=
  match controller.topology with
  | none => .error .noTopology
  | some topology =>
      if !isPort topology portId then .error .unknownPort
      else
        match controller.faultEngine.setFault (portFaultTarget portId) configuration with
        | .error _ => .error .invalidFaultConfiguration
        | .ok faultEngine => .ok (controller.withEngine faultEngine)

def setLinkFault (controller : TopologyController) (firstEndpoint secondEndpoint : Bytes)
    (configuration : FaultConfiguration) : Except TopologyControllerError TopologyController :=
  match controller.topology with
  | none => .error .noTopology
  | some topology =>
      if !isLink topology firstEndpoint secondEndpoint then .error .unknownLink
      else
        match controller.faultEngine.setFault (linkFaultTarget firstEndpoint secondEndpoint)
          configuration with
        | .error _ => .error .invalidFaultConfiguration
        | .ok faultEngine => .ok (controller.withEngine faultEngine)

/-- Remove a port's fault; the flag says whether there was one. -/
def clearPortFault (controller : TopologyController) (portId : Bytes) :
    Bool × TopologyController :=
  match controller.topology with
  | none => (false, controller)
  | some topology =>
      if !isPort topology portId then (false, controller)
      else
        let cleared := controller.faultEngine.clearFault (portFaultTarget portId)
        (cleared.1, controller.withEngine cleared.2)

/-- Remove a link's fault; the flag says whether there was one. -/
def clearLinkFault (controller : TopologyController) (firstEndpoint secondEndpoint : Bytes) :
    Bool × TopologyController :=
  match controller.topology with
  | none => (false, controller)
  | some topology =>
      if !isLink topology firstEndpoint secondEndpoint then (false, controller)
      else
        let cleared := controller.faultEngine.clearFault
          (linkFaultTarget firstEndpoint secondEndpoint)
        (cleared.1, controller.withEngine cleared.2)

/-- The fault configured on a target, as a report about these endpoints. -/
def reportFault (configured : List ActiveFault) (target firstEndpoint secondEndpoint : Bytes) :
    Option TopologyFault :=
  (configured.find? fun fault => fault.target = target).map fun fault =>
    { firstEndpoint, secondEndpoint, configuration := fault.configuration }

/-- The faults of the ports and links of the topology, ordered by endpoints. -/
def activeFaults (controller : TopologyController) :
    Except TopologyControllerError (List TopologyFault) :=
  match controller.topology with
  | none => .error .noTopology
  | some topology =>
      let configured := controller.faultEngine.activeFaults
      let ports := topology.nodes.filterMap fun node =>
        if node.type ≠ .host then none
        else reportFault configured (portFaultTarget node.id) node.id []
      let links := topology.links.filterMap fun link =>
        reportFault configured (linkFaultTarget link.from link.to) link.from link.to
      .ok ((ports ++ links).insertionSort fun left right =>
        left.firstEndpoint < right.firstEndpoint ∨
          left.firstEndpoint = right.firstEndpoint ∧ left.secondEndpoint ≤ right.secondEndpoint)

/-- One frame against a port's fault. -/
def evaluatePort (controller : TopologyController) (portId : Bytes) (frameBytes : UInt64)
    (arrival : Int) : Except TopologyControllerError (FaultDecision × TopologyController) :=
  match controller.topology with
  | none => .error .noTopology
  | some topology =>
      if !isPort topology portId then .error .unknownPort
      else
        let evaluated := controller.faultEngine.evaluate (portFaultTarget portId) frameBytes arrival
        .ok (evaluated.1, controller.withEngine evaluated.2)

/-- The latency of the first link that joins the endpoints; `evaluate_link` asks
only where there is one. -/
def linkLatency (topology : Topology) (firstEndpoint secondEndpoint : Bytes) : Int :=
  ((topology.links.find? (joins firstEndpoint secondEndpoint)).map TopologyLink.latency).getD 0

/-- A decision about a frame that then crosses a link of this many milliseconds.
A delivery stops at the latest time there is; the conversion to nanoseconds, and
the times that are computed with it, wrap at 64 bits. -/
def delayed (decision : FaultDecision) (latency : Int) : FaultDecision :=
  if latency = 0 then decision
  else
    let latency := Int.bmod (latency * 1000000) (2 ^ 64)
    let maximumDeliveryTime := Int.bmod (nanosecondsMax - latency) (2 ^ 64)
    { decision with
      deliveryTimes := decision.deliveryTimes.map fun deliveryTime =>
        if deliveryTime > maximumDeliveryTime then nanosecondsMax
        else Int.bmod (deliveryTime + latency) (2 ^ 64) }

/-- One frame against a link's fault, and across the link. -/
def evaluateLink (controller : TopologyController) (firstEndpoint secondEndpoint : Bytes)
    (frameBytes : UInt64) (arrival : Int) :
    Except TopologyControllerError (FaultDecision × TopologyController) :=
  match controller.topology with
  | none => .error .noTopology
  | some topology =>
      if !isLink topology firstEndpoint secondEndpoint then .error .unknownLink
      else
        let evaluated := controller.faultEngine.evaluate
          (linkFaultTarget firstEndpoint secondEndpoint) frameBytes arrival
        .ok (delayed evaluated.1 (linkLatency topology firstEndpoint secondEndpoint),
          controller.withEngine evaluated.2)

/-! ## The faults as a map over keys -/

/-- Whether a key is a port or a link of a topology. -/
def hasKey (topology : Topology) : FaultKey → Prop
  | .port portId => isPort topology portId = true
  | .link endpoints => ∃ link ∈ topology.links, endpoints = s(link.from, link.to)

/-- The fault configured on a link, either way round. -/
def linkFault (controller : TopologyController) (firstEndpoint secondEndpoint : Bytes) :
    Option FaultConfiguration :=
  match controller.topology with
  | none => none
  | some topology =>
      if isLink topology firstEndpoint secondEndpoint then
        controller.faultEngine.faultFor (linkFaultTarget firstEndpoint secondEndpoint)
      else none

theorem joins_iff {a b : Bytes} {link : TopologyLink} :
    joins a b link = true ↔ s(a, b) = s(link.from, link.to) := by
  simp only [joins, Bool.or_eq_true, Bool.and_eq_true, decide_eq_true_eq, Sym2.eq_iff]
  constructor
  · rintro (⟨h₁, h₂⟩ | ⟨h₁, h₂⟩)
    · exact .inl ⟨h₁.symm, h₂.symm⟩
    · exact .inr ⟨h₂.symm, h₁.symm⟩
  · rintro (⟨h₁, h₂⟩ | ⟨h₁, h₂⟩)
    · exact .inl ⟨h₁.symm, h₂.symm⟩
    · exact .inr ⟨h₂.symm, h₁.symm⟩

theorem isLink_iff {topology : Topology} {a b : Bytes} :
    isLink topology a b = true ↔ hasKey topology (.link s(a, b)) := by
  simp only [isLink, List.any_eq_true, joins_iff, hasKey]

theorem isPort_iff {topology : Topology} {p : Bytes} :
    isPort topology p = true ↔ ∃ node ∈ topology.nodes, node.id = p ∧ node.type = .host := by
  simp only [isPort, List.any_eq_true, Bool.and_eq_true, decide_eq_true_eq]

theorem linkFault_comm (controller : TopologyController) (a b : Bytes) :
    controller.linkFault a b = controller.linkFault b a := by
  unfold linkFault
  split
  · rfl
  · next topology _ =>
      have hswap : isLink topology a b = isLink topology b a := by
        rw [Bool.eq_iff_iff, isLink_iff, isLink_iff, Sym2.eq_swap]
      rw [hswap, linkFaultTarget_comm]

/-- The fault configured on a key. -/
def faultAt (controller : TopologyController) : FaultKey → Option FaultConfiguration
  | .port portId => controller.portFault portId
  | .link endpoints => Sym2.lift ⟨controller.linkFault, controller.linkFault_comm⟩ endpoints

@[simp]
theorem faultAt_port (controller : TopologyController) (p : Bytes) :
    controller.faultAt (.port p) = controller.portFault p :=
  rfl

@[simp]
theorem faultAt_link (controller : TopologyController) (a b : Bytes) :
    controller.faultAt (.link s(a, b)) = controller.linkFault a b :=
  rfl

/-- Without a topology there are no faults. -/
theorem faultAt_noTopology {controller : TopologyController} (h : controller.topology = none)
    (key : FaultKey) : controller.faultAt key = none := by
  cases key with
  | port p => simp only [faultAt_port, portFault, h]
  | link e =>
      induction e with
      | h a b => simp only [faultAt_link, linkFault, h]

/-- The map is the engine's, restricted to the keys of the topology. -/
theorem faultAt_eq (controller : TopologyController) {topology : Topology}
    (h : controller.topology = some topology) (key : FaultKey) :
    (hasKey topology key → controller.faultAt key = controller.faultEngine.faultFor key.target) ∧
      (¬hasKey topology key → controller.faultAt key = none) := by
  cases key with
  | port p =>
      simp only [faultAt_port, portFault, h, hasKey, FaultKey.target]
      exact ⟨fun hp => by rw [if_pos hp], fun hp => by rw [if_neg hp]⟩
  | link e =>
      induction e with
      | h a b =>
          simp only [faultAt_link, linkFault, h, FaultKey.target_link, ← isLink_iff]
          exact ⟨fun hp => by rw [if_pos hp], fun hp => by rw [if_neg hp]⟩

/-- What is configured was accepted. -/
theorem faultAt_acceptable {controller : TopologyController} (key : FaultKey)
    {configuration : FaultConfiguration} (h : controller.faultAt key = some configuration) :
    configuration.Acceptable := by
  cases htopology : controller.topology with
  | none => exact absurd h (by simp [faultAt_noTopology htopology])
  | some topology =>
      obtain ⟨hin, hout⟩ := faultAt_eq controller htopology key
      by_cases hkey : hasKey topology key
      · rw [hin hkey] at h
        exact controller.faultEngine.faultFor_acceptable h
      · rw [hout hkey] at h
        exact absurd h (by simp)

/-- **One command, one key**: `after` is `before` with the fault of `key` set
to `value`, on the same topology. -/
structure Sets (key : FaultKey) (value : Option FaultConfiguration)
    (before after : TopologyController) : Prop where
  topology : after.topology = before.topology
  revision : after.topologyRevision = before.topologyRevision
  fault : ∀ k, after.faultAt k = if k = key then value else before.faultAt k

/-- An engine that changed one target of the topology. -/
private theorem sets_of_engine {controller : TopologyController} {topology : Topology}
    {key : FaultKey} {value : Option FaultConfiguration} {faultEngine : FaultEngine}
    (htopology : controller.topology = some topology) (hkey : hasKey topology key)
    (hengine : ∀ target, faultEngine.faultFor target =
      if target = key.target then value else controller.faultEngine.faultFor target) :
    Sets key value controller (controller.withEngine faultEngine) where
  topology := rfl
  revision := rfl
  fault k := by
    obtain ⟨hin, hout⟩ := faultAt_eq controller htopology k
    obtain ⟨hin', hout'⟩ := faultAt_eq
      (controller.withEngine faultEngine) htopology k
    by_cases hk : hasKey topology k
    · rw [hin hk, hin' hk, withEngine, hengine]
      by_cases heq : k = key
      · rw [if_pos heq, if_pos (by rw [heq])]
      · rw [if_neg heq, if_neg fun h => heq (FaultKey.target_inj h)]
    · rw [hout hk, hout' hk, if_neg]
      rintro rfl
      exact hk hkey

section
variable {controller controller' : TopologyController} {configuration : FaultConfiguration}
  {p a b : Bytes}

/-- What an accepted `set_port_fault` does. -/
theorem sets_setPortFault (h : controller.setPortFault p configuration = .ok controller') :
    Sets (.port p) (some configuration) controller controller' ∧ configuration.Acceptable := by
  unfold setPortFault at h
  split at h
  · exact absurd h (by simp)
  · next topology htopology =>
      split at h
      · exact absurd h (by simp)
      · next hport =>
          split at h
          · exact absurd h (by simp)
          · next faultEngine hset =>
              obtain rfl := Except.ok.inj h
              refine ⟨sets_of_engine htopology (by simpa [hasKey] using hport) fun target => ?_,
                FaultEngine.acceptable_of_setFault hset⟩
              exact FaultEngine.faultFor_setFault hset

/-- What an accepted `set_link_fault` does. -/
theorem sets_setLinkFault (h : controller.setLinkFault a b configuration = .ok controller') :
    Sets (.link s(a, b)) (some configuration) controller controller' := by
  unfold setLinkFault at h
  split at h
  · exact absurd h (by simp)
  · next topology htopology =>
      split at h
      · exact absurd h (by simp)
      · next hlink =>
          split at h
          · exact absurd h (by simp)
          · next faultEngine hset =>
              obtain rfl := Except.ok.inj h
              refine sets_of_engine htopology (isLink_iff.mp (by simpa using hlink)) fun target => ?_
              exact FaultEngine.faultFor_setFault hset

/-- Clearing a target the engine has no fault for changes nothing. -/
private theorem clear_engine_none {target : Bytes}
    (h : controller.faultEngine.faultFor target = none) :
    ((controller.faultEngine.clearFault target).1,
      controller.withEngine (controller.faultEngine.clearFault target).2) =
        (false, controller) := by
  have hflag := FaultEngine.clearFault_fst controller.faultEngine target
  rw [h] at hflag
  rw [hflag, (FaultEngine.clearFault_eq_false hflag).2]
  rfl

/-- Clearing a target of the topology that has a fault sets its key to none. -/
private theorem clear_engine_some {topology : Topology} (key : FaultKey)
    (htopology : controller.topology = some topology) (hkey : hasKey topology key)
    (h : controller.faultEngine.faultFor key.target = some configuration) :
    (controller.faultEngine.clearFault key.target).1 = true ∧
      Sets key none controller
        (controller.withEngine (controller.faultEngine.clearFault key.target).2) := by
  have hflag := FaultEngine.clearFault_fst controller.faultEngine key.target
  rw [h] at hflag
  exact ⟨hflag, sets_of_engine htopology hkey fun target => FaultEngine.faultFor_clearFault hflag⟩

/-- Clearing a port without a fault changes nothing. -/
theorem clearPortFault_of_none (h : controller.portFault p = none) :
    controller.clearPortFault p = (false, controller) := by
  unfold clearPortFault
  cases htopology : controller.topology with
  | none => rfl
  | some topology =>
      by_cases hport : isPort topology p = true
      · simp only [portFault, htopology, hport, if_true] at h
        simp only [hport, Bool.not_true, Bool.false_eq_true, if_false]
        exact clear_engine_none h
      · simp only [hport, Bool.not_false, if_true]

/-- What clearing a port's fault does. -/
theorem sets_clearPortFault_of_some (h : controller.portFault p = some configuration) :
    (controller.clearPortFault p).1 = true ∧
      Sets (.port p) none controller (controller.clearPortFault p).2 := by
  unfold portFault at h
  split at h
  · exact absurd h (by simp)
  · next topology htopology =>
      split at h
      · next hport =>
          simp only [clearPortFault, htopology, hport, Bool.not_true, Bool.false_eq_true, if_false]
          exact clear_engine_some (.port p) htopology hport h
      · exact absurd h (by simp)

/-- Clearing a link without a fault changes nothing. -/
theorem clearLinkFault_of_none (h : controller.linkFault a b = none) :
    controller.clearLinkFault a b = (false, controller) := by
  unfold clearLinkFault
  cases htopology : controller.topology with
  | none => rfl
  | some topology =>
      by_cases hlink : isLink topology a b = true
      · simp only [linkFault, htopology, hlink, if_true] at h
        simp only [hlink, Bool.not_true, Bool.false_eq_true, if_false]
        exact clear_engine_none h
      · simp only [hlink, Bool.not_false, if_true]

/-- What clearing a link's fault does. -/
theorem sets_clearLinkFault_of_some (h : controller.linkFault a b = some configuration) :
    (controller.clearLinkFault a b).1 = true ∧
      Sets (.link s(a, b)) none controller (controller.clearLinkFault a b).2 := by
  unfold linkFault at h
  split at h
  · exact absurd h (by simp)
  · next topology htopology =>
      split at h
      · next hlink =>
          simp only [clearLinkFault, htopology, hlink, Bool.not_true, Bool.false_eq_true, if_false]
          exact clear_engine_some (.link s(a, b)) htopology (isLink_iff.mp hlink) h
      · exact absurd h (by simp)

/-- Clearing a port leaves it without a fault, and nothing else changed. -/
theorem sets_clearPortFault (controller : TopologyController) (p : Bytes) :
    Sets (.port p) none controller (controller.clearPortFault p).2 := by
  cases hfault : controller.portFault p with
  | some configuration => exact (sets_clearPortFault_of_some hfault).2
  | none =>
      rw [clearPortFault_of_none hfault]
      refine ⟨rfl, rfl, fun k => ?_⟩
      split
      · next hk => rw [hk, faultAt_port, hfault]
      · rfl

/-- An acceptable fault can be set on every port. -/
theorem setPortFault_ok {topology : Topology} (htopology : controller.topology = some topology)
    (hport : isPort topology p = true) (hok : configuration.Acceptable) :
    ∃ controller', controller.setPortFault p configuration = .ok controller' := by
  obtain ⟨engine', hengine⟩ := FaultEngine.setFault_ok controller.faultEngine
    (FaultKey.target_ne_nil (.port p)) hok
  refine ⟨controller.withEngine engine', ?_⟩
  simp only [FaultKey.target] at hengine
  simp only [setPortFault, htopology, hport, hengine, Bool.not_true, Bool.false_eq_true, if_false]

/-- Loading empties the map. -/
theorem faultAt_load (topology : Topology) (key : FaultKey) :
    (controller.load topology).faultAt key = none := by
  obtain ⟨hin, hout⟩ := faultAt_eq (controller.load topology) rfl key
  by_cases hkey : hasKey topology key
  · rw [hin hkey]
    exact FaultEngine.faultFor_new controller.faultSeed
  · exact hout hkey

/-- Ingress numbers are resolved on the topology alone. -/
theorem portIdAt_congr (h : controller'.topology = controller.topology) :
    controller'.portIdAt = controller.portIdAt := by
  funext ingressPort
  simp only [portIdAt, portIds, h]

/-- Ports addressed by an ingress number are ports of the topology. -/
theorem isPort_of_portIdAt {ingressPort : UInt32} (h : controller.portIdAt ingressPort = some p) :
    ∃ topology, controller.topology = some topology ∧ isPort topology p = true := by
  have hmem : p ∈ controller.portIds := List.mem_of_getElem? h
  unfold portIds at hmem
  split at hmem
  · exact absurd hmem (by simp)
  · next topology htopology =>
      obtain ⟨node, hnode, rfl⟩ := List.mem_map.mp hmem
      simp only [List.mem_filter, decide_eq_true_eq] at hnode
      exact ⟨topology, htopology, isPort_iff.mpr ⟨node, hnode.1, rfl, hnode.2⟩⟩

/-- A port of a topology is named. -/
theorem ne_nil_of_isPort {topology : Topology} (h : isPort topology p = true) : p ≠ [] := by
  obtain ⟨node, hnode, rfl, _⟩ := isPort_iff.mp h
  exact topology.nodeId_ne_nil (List.mem_map_of_mem hnode)

/-- A port with a fault is a port of the topology. -/
theorem isPort_of_portFault (h : controller.portFault p = some configuration) :
    ∃ topology, controller.topology = some topology ∧ isPort topology p = true := by
  unfold portFault at h
  split at h
  · exact absurd h (by simp)
  · next topology htopology =>
      split at h
      · next hport => exact ⟨topology, htopology, hport⟩
      · exact absurd h (by simp)

/-- A link with a fault is a link of the topology, so its endpoints are named. -/
theorem ne_nil_of_linkFault (h : controller.linkFault a b = some configuration) : b ≠ [] := by
  unfold linkFault at h
  split at h
  · exact absurd h (by simp)
  · next topology _ =>
      split at h
      · next hlink =>
          obtain ⟨link, hmem, hends⟩ := isLink_iff.mp hlink
          rcases Sym2.eq_iff.mp hends with ⟨_, rfl⟩ | ⟨_, rfl⟩
          · exact topology.nodeId_ne_nil (topology.to_mem hmem)
          · exact topology.nodeId_ne_nil (topology.from_mem hmem)
      · exact absurd h (by simp)

/-- Judging a frame changes no configuration. -/
theorem faultAt_evaluated (controller : TopologyController) (target : Bytes) (frameBytes : UInt64)
    (arrival : Int) (key : FaultKey) :
    (controller.withEngine (controller.faultEngine.evaluate target frameBytes arrival).2).faultAt
      key = controller.faultAt key := by
  cases htopology : controller.topology with
  | none =>
      have hafter : (controller.withEngine
          (controller.faultEngine.evaluate target frameBytes arrival).2).topology = none :=
        htopology
      rw [faultAt_noTopology htopology, faultAt_noTopology hafter]
  | some topology =>
      obtain ⟨hin, hout⟩ := faultAt_eq controller htopology key
      obtain ⟨hin', hout'⟩ := faultAt_eq
        (controller.withEngine (controller.faultEngine.evaluate target frameBytes arrival).2)
        htopology key
      by_cases hkey : hasKey topology key
      · rw [hin hkey, hin' hkey, withEngine, FaultEngine.faultFor_evaluate]
      · rw [hout hkey, hout' hkey]

/-- Judging a frame of a port changes no configuration. -/
theorem faultAt_evaluatePort {decision : FaultDecision} {frameBytes : UInt64} {arrival : Int}
    (h : controller.evaluatePort p frameBytes arrival = .ok (decision, controller')) :
    controller'.topology = controller.topology ∧
      controller'.topologyRevision = controller.topologyRevision ∧
      ∀ key, controller'.faultAt key = controller.faultAt key := by
  unfold evaluatePort at h
  split at h
  · exact absurd h (by simp)
  · split at h
    · exact absurd h (by simp)
    · obtain ⟨rfl, rfl⟩ := Prod.mk.inj (Except.ok.inj h)
      exact ⟨rfl, rfl, controller.faultAt_evaluated _ _ _⟩

/-- What judging a frame decides is the engine's decision about the port's
fault. -/
theorem evaluatePort_decision {decision : FaultDecision} {frameBytes : UInt64} {arrival : Int}
    (h : controller.evaluatePort p frameBytes arrival = .ok (decision, controller')) :
    (controller.portFault p = none → decision.dropped = false) ∧
      ∀ configuration, controller.portFault p = some configuration →
        configuration.blackhole = true ∨ configuration.isolated = true →
        decision.dropped = true := by
  unfold evaluatePort at h
  split at h
  · exact absurd h (by simp)
  · next topology htopology =>
      split at h
      · exact absurd h (by simp)
      · next hport =>
          have hfault : controller.portFault p =
              controller.faultEngine.faultFor (portFaultTarget p) := by
            simp only [portFault, htopology]
            exact if_pos (by simpa using hport)
          obtain ⟨rfl, _⟩ := Prod.mk.inj (Except.ok.inj h)
          rw [hfault]
          exact ⟨FaultEngine.evaluate_unset, fun _ => FaultEngine.evaluate_blocked⟩

/-- A port with a fault can be judged. -/
theorem evaluatePort_ok {frameBytes : UInt64} {arrival : Int}
    (h : controller.portFault p = some configuration) :
    ∃ out, controller.evaluatePort p frameBytes arrival = .ok out := by
  obtain ⟨topology, htopology, hport⟩ := isPort_of_portFault h
  simp only [evaluatePort, htopology, hport, Bool.not_true, Bool.false_eq_true, if_false]
  exact ⟨_, rfl⟩

/-- Reporting a target reads the engine. -/
private theorem reportFault_eq (engine : FaultEngine) (target : Bytes) :
    reportFault engine.activeFaults target a b = (engine.faultFor target).map fun configuration =>
      { firstEndpoint := a, secondEndpoint := b, configuration } := by
  unfold reportFault
  cases hfind : engine.activeFaults.find? fun fault => fault.target = target with
  | some fault =>
      have htarget : fault.target = target := by simpa using List.find?_some hfind
      have hfault := FaultEngine.mem_activeFaults.mp (List.mem_of_find?_eq_some hfind)
      rw [← htarget, hfault]
      rfl
  | none =>
      cases hfault : engine.faultFor target with
      | none => rfl
      | some configuration =>
          have hmem : { target, configuration } ∈ engine.activeFaults :=
            FaultEngine.mem_activeFaults.mpr hfault
          exact absurd (List.find?_eq_none.mp hfind _ hmem) (by simp)

/-- **The reported faults are the map**: a fault is reported under a key exactly
when it is configured there. -/
theorem mem_activeFaults {faults : List TopologyFault} (h : controller.activeFaults = .ok faults)
    (key : FaultKey) :
    (∃ fault ∈ faults, FaultKey.ofEndpoints fault.firstEndpoint fault.secondEndpoint = key ∧
      fault.configuration = configuration) ↔ controller.faultAt key = some configuration := by
  unfold activeFaults at h
  split at h
  · exact absurd h (by simp)
  · next topology htopology =>
      obtain rfl := Except.ok.inj h
      simp only [List.mem_insertionSort, List.mem_append, List.mem_filterMap, reportFault_eq]
      constructor
      · rintro ⟨fault, ⟨node, hnode, hreport⟩ | ⟨link, hlink, hreport⟩, rfl, rfl⟩
        · split at hreport
          · exact absurd hreport (by simp)
          · next hhost =>
              obtain ⟨_, hfault, rfl⟩ := Option.map_eq_some_iff.mp hreport
              have hkey : hasKey topology (.port node.id) :=
                isPort_iff.mpr ⟨node, hnode, rfl, by simpa using hhost⟩
              exact ((faultAt_eq controller htopology (.port node.id)).1 hkey).trans hfault
        · obtain ⟨_, hfault, rfl⟩ := Option.map_eq_some_iff.mp hreport
          have hkey : hasKey topology (.link s(link.from, link.to)) := ⟨link, hlink, rfl⟩
          have hnamed := topology.nodeId_ne_nil (topology.to_mem hlink)
          rw [FaultKey.ofEndpoints, if_neg (by simpa using hnamed)]
          exact ((faultAt_eq controller htopology _).1 hkey).trans hfault
      · intro hfault
        obtain ⟨hin, hout⟩ := faultAt_eq controller htopology key
        by_cases hkey : hasKey topology key
        · rw [hin hkey] at hfault
          cases key with
          | port p =>
              obtain ⟨node, hnode, rfl, hhost⟩ := isPort_iff.mp hkey
              refine ⟨{ firstEndpoint := node.id, secondEndpoint := [], configuration },
                .inl ⟨node, hnode, ?_⟩, rfl, rfl⟩
              rw [if_neg (by simpa using hhost)]
              exact Option.map_eq_some_iff.mpr ⟨configuration, hfault, rfl⟩
          | link ends =>
              obtain ⟨link, hlink, rfl⟩ := hkey
              have hnamed := topology.nodeId_ne_nil (topology.to_mem hlink)
              refine ⟨{ firstEndpoint := link.from, secondEndpoint := link.to, configuration },
                .inr ⟨link, hlink, Option.map_eq_some_iff.mpr ⟨configuration, hfault, rfl⟩⟩,
                if_neg (by simpa using hnamed), rfl⟩
        · rw [hout hkey] at hfault
          exact absurd hfault (by simp)

/-- What is reported depends on the topology and the map alone. -/
theorem activeFaults_congr {before after : TopologyController}
    (htopology : after.topology = before.topology)
    (hfault : ∀ key, after.faultAt key = before.faultAt key) :
    after.activeFaults = before.activeFaults := by
  unfold activeFaults
  rw [htopology]
  cases h : before.topology with
  | none => rfl
  | some topology =>
      have hengine : ∀ key, hasKey topology key →
          after.faultEngine.faultFor key.target = before.faultEngine.faultFor key.target := by
        intro key hkey
        rw [← (faultAt_eq after (htopology.trans h) key).1 hkey, hfault,
          (faultAt_eq before h key).1 hkey]
      have hports : ∀ node ∈ topology.nodes,
          (if node.type ≠ .host then none
            else reportFault after.faultEngine.activeFaults (portFaultTarget node.id) node.id []) =
          if node.type ≠ .host then none
            else reportFault before.faultEngine.activeFaults (portFaultTarget node.id) node.id [] := by
        intro node hnode
        split
        · rfl
        · next hhost =>
            have hkey : hasKey topology (.port node.id) :=
              isPort_iff.mpr ⟨node, hnode, rfl, by simpa using hhost⟩
            have hsame := hengine _ hkey
            simp only [FaultKey.target] at hsame
            rw [reportFault_eq, reportFault_eq, hsame]
      have hlinks : ∀ link ∈ topology.links,
          reportFault after.faultEngine.activeFaults (linkFaultTarget link.from link.to) link.from
              link.to =
            reportFault before.faultEngine.activeFaults (linkFaultTarget link.from link.to) link.from
              link.to := by
        intro link hlink
        have hsame := hengine (.link s(link.from, link.to)) ⟨link, hlink, rfl⟩
        rw [FaultKey.target_link] at hsame
        rw [reportFault_eq, reportFault_eq, hsame]
      simp only
      rw [List.filterMap_congr hports, List.filterMap_congr hlinks]

end

end TopologyController
end WireLab
