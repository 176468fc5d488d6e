import WireLab.Model.PolicyEngine
import WireLab.Model.TopologyController

/-!
# The policy enforcer

`policy_enforcer.cpp`: policy decisions become faults on the offending ports,
each under a lease. The first enforcement of a port keeps what was configured
on it; the end of the lease writes that back.

A lease carries the fact that what it keeps was an accepted configuration
(`Lease.restorable`), and the enforcer the fact that a lease is filed under its
own port (`PolicyEnforcer.filed`).
-/

namespace WireLab

open Base

/-- How a policy action is realised on the dataplane. -/
inductive EnforcementKind
  | none
  | rateLimit
  | blackhole
  | isolate
  deriving DecidableEq, Repr

inductive EnforcementOutcome
  | applied
  | extended
  | released
  | skipped
  | unknownPort
  | rejected
  deriving DecidableEq, Repr

structure EnforcementAction where
  portId : Bytes := []
  ruleName : Bytes := []
  anomalyType : AnomalyType := .broadcastStorm
  action : PolicyAction := .alertOnly
  kind : EnforcementKind := .none
  outcome : EnforcementOutcome := .skipped
  rateLimitBitsPerSecond : UInt64 := 0
  observedPackets : Nat := 0
  threshold : Nat := 0
  expiresAt : Int := 0
  deriving DecidableEq, Repr

/-- Lease durations, in nanoseconds. -/
structure PolicyEnforcerConfig where
  rateLimitLease : Int := 10000000000
  dropLease : Int := 5000000000
  quarantineLease : Int := 30000000000
  assumedFrameBytes : UInt64 := 64
  deriving DecidableEq, Repr

/-- An enforced port: what is enforced, and what was configured before (the
empty configuration if nothing was). -/
structure Lease where
  action : EnforcementAction
  restore : FaultConfiguration
  hadRestore : Bool
  restorable : restore.Acceptable
  unset : hadRestore = false → restore = {}

def EnforcementKind.ofAction : PolicyAction → EnforcementKind
  | .drop => .blackhole
  | .quarantine => .isolate
  | .rateLimit => .rateLimit
  | .allow => .none
  | .mirror => .none
  | .alertOnly => .none

def EnforcementKind.severity : EnforcementKind → Nat
  | .none => 0
  | .rateLimit => 1
  | .blackhole => 2
  | .isolate => 3

/-- Lay an enforcement over a configuration. -/
def overlay (base : FaultConfiguration) (kind : EnforcementKind)
    (rateLimitBitsPerSecond : UInt64) : FaultConfiguration :=
  match kind with
  | .rateLimit => { base with bandwidthBitsPerSecond := rateLimitBitsPerSecond }
  | .blackhole => { base with blackhole := true }
  | .isolate => { base with isolated := true }
  | .none => base

/-- Enforcement touches nothing that `set_fault` checks. -/
theorem acceptable_overlay {base : FaultConfiguration} (kind : EnforcementKind) (bits : UInt64)
    (h : base.Acceptable) : (overlay base kind bits).Acceptable := by
  cases kind <;> exact h

/-- Start a lease by keeping what is configured on the port. -/
def Lease.capture (controller : TopologyController) (portId : Bytes)
    (action : EnforcementAction) : Lease :=
  match h : controller.portFault portId with
  | some previous =>
      { action, restore := previous, hadRestore := true,
        restorable := controller.faultAt_acceptable (.port portId) h
        unset := by simp }
  | none =>
      { action, restore := {}, hadRestore := false,
        restorable := FaultConfiguration.acceptable_default
        unset := fun _ => rfl }

/-- What a lease puts back: nothing where nothing was configured. -/
def Lease.kept (lease : Lease) : Option FaultConfiguration :=
  if lease.hadRestore then some lease.restore else none

/-- What a lease enforces on its port. -/
def Lease.enforced (lease : Lease) : FaultConfiguration :=
  overlay lease.restore lease.action.kind lease.action.rateLimitBitsPerSecond

theorem Lease.getD_kept (lease : Lease) : lease.kept.getD {} = lease.restore := by
  unfold Lease.kept
  split
  · rfl
  · next h => exact (lease.unset (by simpa using h)).symm

theorem Lease.kept_capture (controller : TopologyController) (portId : Bytes)
    (action : EnforcementAction) :
    (Lease.capture controller portId action).kept = controller.portFault portId := by
  unfold Lease.capture Lease.kept
  split
  · next h => exact (if_pos rfl).trans h.symm
  · next h => exact (if_neg (by simp)).trans h.symm

theorem noLeases_filed : ∀ portId lease,
    (∅ : Dict Bytes Lease).lookup portId = some lease → lease.action.portId = portId := by
  intro _ _ h
  exact absurd h (by simp)

structure PolicyEnforcer where
  config : PolicyEnforcerConfig := {}
  leases : Dict Bytes Lease := ∅
  filed : ∀ portId lease, leases.lookup portId = some lease → lease.action.portId = portId := by
    exact noLeases_filed

namespace PolicyEnforcer

def leaseFor (config : PolicyEnforcerConfig) : EnforcementKind → Int
  | .rateLimit => config.rateLimitLease
  | .blackhole => config.dropLease
  | .isolate => config.quarantineLease
  | .none => 0

/-- A packet rate as a bandwidth, at the mean size of the observed frames; the
product wraps at 64 bits. -/
def rateLimitBits (config : PolicyEnforcerConfig) (decision : PolicyDecision) : UInt64 :=
  if decision.rateLimitPacketsPerSecond = 0 then 0
  else
    let meanFrameBytes :=
      if decision.anomaly.observedPackets = 0 then config.assumedFrameBytes
      else UInt64.ofNat (decision.anomaly.observedBytes / decision.anomaly.observedPackets)
    let frameBytes := if meanFrameBytes = 0 then config.assumedFrameBytes else meanFrameBytes
    decision.rateLimitPacketsPerSecond * frameBytes * 8

def isEnforced (enforcer : PolicyEnforcer) (portId : Bytes) : Bool :=
  (enforcer.leases.lookup portId).isSome

/-- File a lease under its port. -/
def hold (enforcer : PolicyEnforcer) (portId : Bytes) (lease : Lease)
    (h : lease.action.portId = portId) : PolicyEnforcer :=
  { enforcer with
    leases := enforcer.leases.insert portId lease
    filed := by
      intro p l hlookup
      rw [Dict.lookup_insert] at hlookup
      split at hlookup
      · next hp => rw [← Option.some.inj hlookup, h, hp]
      · exact enforcer.filed p l hlookup }

/-- Forget one lease. -/
def discard (enforcer : PolicyEnforcer) (portId : Bytes) : PolicyEnforcer :=
  { enforcer with
    leases := enforcer.leases.erase portId
    filed := by
      intro p l hlookup
      rw [Dict.lookup_erase] at hlookup
      split at hlookup
      · exact absurd hlookup (by simp)
      · exact enforcer.filed p l hlookup }

theorem lookup_hold {enforcer : PolicyEnforcer} (portId : Bytes) {lease : Lease}
    (h : lease.action.portId = portId) (p : Bytes) :
    (enforcer.hold portId lease h).leases.lookup p =
      if p = portId then some lease else enforcer.leases.lookup p :=
  Dict.lookup_insert _ _ _ _

theorem lookup_discard (enforcer : PolicyEnforcer) (portId p : Bytes) :
    (enforcer.discard portId).leases.lookup p =
      if p = portId then none else enforcer.leases.lookup p :=
  Dict.lookup_erase _ _ _

/-- Forget every lease, leaving the controller alone. -/
def forget (enforcer : PolicyEnforcer) : PolicyEnforcer := { config := enforcer.config }

/-- What is enforced, ordered by port and rule. -/
def active (enforcer : PolicyEnforcer) : List EnforcementAction :=
  (enforcer.leases.entries.map fun entry => entry.2.action).insertionSort fun left right =>
    left.portId < right.portId ∨ left.portId = right.portId ∧ left.ruleName ≤ right.ruleName

/-! ## Applying decisions -/

/-- The answer to a decision before the port is looked at. -/
def proposal (decision : PolicyDecision) (portId : Option Bytes) : EnforcementAction where
  portId := portId.getD []
  ruleName := decision.ruleName
  anomalyType := decision.anomaly.type
  action := decision.action
  kind := .ofAction decision.action
  observedPackets := decision.anomaly.observedPackets
  threshold := decision.anomaly.threshold

/-- The kind and rate to enforce: a weaker action never downgrades a live
lease. -/
def effective (existing : Option Lease) (kind : EnforcementKind) (bits : UInt64) :
    EnforcementKind × UInt64 :=
  match existing with
  | none => (kind, if kind = .rateLimit then bits else 0)
  | some lease =>
      if lease.action.kind.severity ≤ kind.severity then
        (kind, if kind = .rateLimit then bits else lease.action.rateLimitBitsPerSecond)
      else (lease.action.kind, lease.action.rateLimitBitsPerSecond)

/-- When the lease ends: an extension never shortens it. -/
def expiry (config : PolicyEnforcerConfig) (existing : Option Lease) (kind : EnforcementKind)
    (now : Int) : Int :=
  let expiresAt := now + leaseFor config kind
  match existing with
  | none => expiresAt
  | some lease =>
      if expiresAt < lease.action.expiresAt then lease.action.expiresAt else expiresAt

/-- The lease that stands after a port has been enforced: what was kept stays
kept, the action is the answer to the latest decision. -/
def granted (config : PolicyEnforcerConfig) (existing : Option Lease) (lease : Lease)
    (portId : Bytes) (result : EnforcementAction) (chosen : EnforcementKind × UInt64)
    (now : Int) : Lease :=
  { lease with
    action :=
      { result with
        portId
        kind := chosen.1
        rateLimitBitsPerSecond := chosen.2
        expiresAt := expiry config existing chosen.1 now
        outcome := if existing.isSome then .extended else .applied } }

/-- Enforce on a known port: start its lease or extend it. -/
def enforcePort (enforcer : PolicyEnforcer) (controller : TopologyController) (now : Int)
    (portId : Bytes) (result : EnforcementAction) :
    EnforcementAction × PolicyEnforcer × TopologyController :=
  let existing := enforcer.leases.lookup portId
  let chosen := effective existing result.kind result.rateLimitBitsPerSecond
  let lease := existing.getD (Lease.capture controller portId result)
  match controller.setPortFault portId (overlay lease.restore chosen.1 chosen.2) with
  | .error _ => ({ result with outcome := .rejected }, enforcer, controller)
  | .ok controller =>
      let lease := granted enforcer.config existing lease portId result chosen now
      (lease.action, enforcer.hold portId lease rfl, controller)

/-- One decision. -/
def applyDecision (enforcer : PolicyEnforcer) (controller : TopologyController) (now : Int)
    (decision : PolicyDecision) : EnforcementAction × PolicyEnforcer × TopologyController :=
  let port := controller.portIdAt decision.anomaly.ingressPort
  let result := proposal decision port
  if result.kind = .none then ({ result with outcome := .skipped }, enforcer, controller)
  else
    match port with
    | none => ({ result with outcome := .unknownPort }, enforcer, controller)
    | some portId =>
        let bits :=
          if result.kind = .rateLimit then rateLimitBits enforcer.config decision else 0
        let result := { result with rateLimitBitsPerSecond := bits }
        if result.kind = .rateLimit ∧ bits = 0 then
          ({ result with outcome := .rejected }, enforcer, controller)
        else enforcePort enforcer controller now portId result

/-- Every decision, in order. -/
def apply : PolicyEnforcer → List PolicyDecision → TopologyController → Int →
    List EnforcementAction × PolicyEnforcer × TopologyController
  | enforcer, [], controller, _ => ([], enforcer, controller)
  | enforcer, decision :: decisions, controller, now =>
      let (action, enforcer, controller) := applyDecision enforcer controller now decision
      let (actions, enforcer, controller) := apply enforcer decisions controller now
      (action :: actions, enforcer, controller)

/-! ## Ending leases -/

/-- Put back what was configured before the lease. -/
def restorePort (lease : Lease) (controller : TopologyController) : TopologyController :=
  if lease.hadRestore then
    match controller.setPortFault lease.action.portId lease.restore with
    | .ok controller => controller
    | .error _ => controller
  else (controller.clearPortFault lease.action.portId).2

/-- End the lease on a port, if it holds one. -/
def releasePort (state : PolicyEnforcer × TopologyController) (portId : Bytes) :
    PolicyEnforcer × TopologyController :=
  match state.1.leases.lookup portId with
  | none => state
  | some lease => (state.1.discard portId, restorePort lease state.2)

/-- The leases that have run out. -/
def expired (enforcer : PolicyEnforcer) (now : Int) : List Lease :=
  (enforcer.leases.entries.map Sigma.snd).filter fun lease => lease.action.expiresAt ≤ now

/-- End every lease that has run out; the answer is ordered by port. -/
def releaseExpired (enforcer : PolicyEnforcer) (controller : TopologyController) (now : Int) :
    List EnforcementAction × PolicyEnforcer × TopologyController :=
  let expired := enforcer.expired now
  let released := expired.map fun lease => { lease.action with outcome := .released }
  (released.insertionSort fun left right => left.portId ≤ right.portId,
    (expired.map fun lease => lease.action.portId).foldl releasePort (enforcer, controller))

/-- End one lease by hand; the flag says whether there was one. -/
def release (enforcer : PolicyEnforcer) (portId : Bytes) (controller : TopologyController) :
    Bool × PolicyEnforcer × TopologyController :=
  (enforcer.isEnforced portId, releasePort (enforcer, controller) portId)

end PolicyEnforcer
end WireLab
