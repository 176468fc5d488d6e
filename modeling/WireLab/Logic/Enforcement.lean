import WireLab.Model.AnalysisPipeline
import WireLab.Base.SnapshotStore

/-!
# Enforcement as leases over the operator's faults

The enforcer and the controller together are a snapshot store (`faultStore`):
the controller's port faults are the slots, a lease is a booking with the fault
it found. This module says once what a single decision and a single release do
(`applyDecision_refused`, `applyDecision_enforces`, `releasePort_revokes`), and
from that what whole `apply` and `release_expired` calls keep:

* the operator's fault on every port (`Keeps.operator`);
* the topology, its revision and every link's fault;
* `Coherent` — a leased port exists and shows its lease's enforcement.
-/

namespace WireLab

open Base TopologyController PolicyEnforcer

/-- What a lease imposes: a kind, and a rate for rate limits. -/
abbrev Imposed := EnforcementKind × UInt64

/-- `overlay`, as the leased store takes it. -/
def impose (imposed : Imposed) (base : FaultConfiguration) : FaultConfiguration :=
  overlay base imposed.1 imposed.2

/-- What a lease imposes on its port. -/
def Lease.imposed (lease : Lease) : Imposed :=
  (lease.action.kind, lease.action.rateLimitBitsPerSecond)

/-- Enforcer and controller as a snapshot store over port ids. -/
def faultStore (state : PolicyEnforcer × TopologyController) :
    SnapshotStore Bytes FaultConfiguration Imposed where
  value := state.2.portFault
  book portId := (state.1.leases.lookup portId).map fun lease => (lease.imposed, lease.kept)

theorem faultStore_book (state : PolicyEnforcer × TopologyController) (p : Bytes) :
    (faultStore state).book p =
      (state.1.leases.lookup p).map fun lease => (lease.imposed, lease.kept) :=
  rfl

/-- The operator's fault on a port: what is configured, or under a lease what
the lease keeps. -/
def operatorFault (state : PolicyEnforcer × TopologyController) (portId : Bytes) :
    Option FaultConfiguration :=
  (faultStore state).owner.base portId

theorem operatorFault_unleased {state : PolicyEnforcer × TopologyController} {p : Bytes}
    (h : state.1.leases.lookup p = none) : operatorFault state p = state.2.portFault p :=
  SnapshotStore.snapshot_unleased (s := faultStore state)
    (by simp only [faultStore, h, Option.map_none])

theorem operatorFault_leased {state : PolicyEnforcer × TopologyController} {p : Bytes}
    {lease : Lease} (h : state.1.leases.lookup p = some lease) :
    operatorFault state p = lease.kept :=
  SnapshotStore.snapshot_leased (s := faultStore state) (l := lease.imposed)
    (by simp only [faultStore, h, Option.map_some])

/-- Every leased port exists. -/
def Homed (state : PolicyEnforcer × TopologyController) : Prop :=
  ∀ p lease, state.1.leases.lookup p = some lease →
    ∃ topology, state.2.topology = some topology ∧ isPort topology p = true

/-- Every leased port exists, and its fault is what its lease makes of the
operator's. -/
structure Coherent (state : PolicyEnforcer × TopologyController) : Prop where
  homed : Homed state
  shows : (faultStore state).Shows impose {}

theorem Coherent.portFault {state : PolicyEnforcer × TopologyController} (h : Coherent state)
    {p : Bytes} {lease : Lease} (hlease : state.1.leases.lookup p = some lease) :
    state.2.portFault p = some lease.enforced := by
  have hshows := SnapshotStore.shows_iff.mp h.shows p lease.imposed lease.kept
    (by simp only [faultStore, hlease, Option.map_some])
  simp only [faultStore, lease.getD_kept] at hshows
  exact hshows

/-- Without leases there is none without a port. -/
theorem Homed.of_no_leases {state : PolicyEnforcer × TopologyController}
    (h : ∀ p, state.1.leases.lookup p = none) : Homed state :=
  fun p lease hlease => absurd hlease (by simp [h p])

/-- Without leases there is nothing to be coherent about. -/
theorem Coherent.of_no_leases {state : PolicyEnforcer × TopologyController}
    (h : ∀ p, state.1.leases.lookup p = none) : Coherent state where
  homed := .of_no_leases h
  shows := SnapshotStore.shows_iff.mpr fun p l v hbook =>
    absurd hbook (by simp [faultStore, h])

/-! ## One decision -/

/-- A decision the enforcer acts on, and the port it acts on. -/
structure Enforceable (config : PolicyEnforcerConfig) (controller : TopologyController)
    (decision : PolicyDecision) (portId : Bytes) : Prop where
  port : controller.portIdAt decision.anomaly.ingressPort = some portId
  kind : EnforcementKind.ofAction decision.action ≠ .none
  rate : EnforcementKind.ofAction decision.action = .rateLimit →
    rateLimitBits config decision ≠ 0

/-- The enforcer acted on a port: `lease` is filed and shows on the port. -/
structure Enforces (portId : Bytes) (lease : Lease)
    (before after : PolicyEnforcer × TopologyController) : Prop where
  leases : ∀ p, after.1.leases.lookup p =
    if p = portId then some lease else before.1.leases.lookup p
  sets : Sets (.port portId) (some lease.enforced) before.2 after.2
  kept : lease.kept = operatorFault before portId
  home : ∃ topology, before.2.topology = some topology ∧ isPort topology portId = true
  config : after.1.config = before.1.config
  stronger : ∀ old, before.1.leases.lookup portId = some old →
    old.action.kind.severity ≤ lease.action.kind.severity

section
variable {enforcer : PolicyEnforcer} {controller : TopologyController} {now : Int}
  {decision : PolicyDecision} {p : Bytes}

/-- A decision that is not enforceable changes nothing, and says so. -/
theorem applyDecision_refused (now : Int)
    (h : ∀ p, ¬Enforceable enforcer.config controller decision p) :
    ∃ action, applyDecision enforcer controller now decision = (action, enforcer, controller) ∧
      action.outcome ≠ .applied ∧ action.outcome ≠ .extended := by
  unfold applyDecision
  by_cases hkind : EnforcementKind.ofAction decision.action = .none
  · simp only [proposal, hkind, if_true]
    exact ⟨_, rfl, by simp, by simp⟩
  · simp only [proposal, hkind, if_false]
    cases hport : controller.portIdAt decision.anomaly.ingressPort with
    | none => exact ⟨_, rfl, by simp, by simp⟩
    | some p =>
        have hrate : EnforcementKind.ofAction decision.action = .rateLimit ∧
            rateLimitBits enforcer.config decision = 0 := by
          by_contra hrate
          exact h p ⟨hport, hkind, fun hlimit hzero => hrate ⟨hlimit, hzero⟩⟩
        simp only [hrate, and_self, if_true]
        exact ⟨_, rfl, by simp, by simp⟩

/-- What is enforced is as strong as what is asked for and as the live lease. -/
private theorem severity_effective (existing : Option Lease) (kind : EnforcementKind)
    (bits : UInt64) :
    kind.severity ≤ (effective existing kind bits).1.severity ∧
      ∀ lease, existing = some lease →
        lease.action.kind.severity ≤ (effective existing kind bits).1.severity := by
  unfold effective
  split
  · exact ⟨le_refl _, fun _ h => absurd h (by simp)⟩
  · next lease =>
      split
      · next h => exact ⟨le_refl _, fun _ hsame => Option.some.inj hsame ▸ h⟩
      · next h => exact ⟨(not_le.mp h).le, fun _ hsame => Option.some.inj hsame ▸ le_refl _⟩

/-- Enforcing on a port of the topology succeeds. -/
private theorem enforcePort_enforces {result : EnforcementAction} {topology : Topology}
    (htopology : controller.topology = some topology) (hport : isPort topology p = true) :
    ∃ lease after, enforcePort enforcer controller now p result = (lease.action, after) ∧
      Enforces p lease (enforcer, controller) after ∧
      lease.imposed = effective (enforcer.leases.lookup p) result.kind
        result.rateLimitBitsPerSecond ∧
      result.kind.severity ≤ lease.action.kind.severity ∧
      now + leaseFor enforcer.config lease.action.kind ≤ lease.action.expiresAt ∧
      (lease.action.outcome = .applied ∨ lease.action.outcome = .extended) := by
  simp only [enforcePort]
  generalize hexisting : enforcer.leases.lookup p = existing
  generalize hchosen : effective existing result.kind result.rateLimitBitsPerSecond = chosen
  generalize hbase : existing.getD (Lease.capture controller p result) = base
  -- The kept fault is the operator's, whether the lease is old or new.
  have hkept : base.kept = operatorFault (enforcer, controller) p := by
    cases existing with
    | none =>
        rw [operatorFault_unleased hexisting, ← hbase, Option.getD_none, Lease.kept_capture]
    | some lease => rw [operatorFault_leased hexisting, ← hbase, Option.getD_some]
  obtain ⟨controller', hset⟩ := setPortFault_ok htopology hport
    (acceptable_overlay chosen.1 chosen.2 base.restorable)
  simp only [hset]
  refine ⟨granted enforcer.config existing base p result chosen now, _, rfl,
    ⟨fun q => ?_, (sets_setPortFault hset).1, hkept, ⟨topology, htopology, hport⟩, rfl,
      fun old hold => ?_⟩, rfl, ?_, ?_, ?_⟩
  · exact lookup_hold p rfl q
  · simp only [granted, ← hchosen]
    exact (severity_effective existing _ _).2 old (hexisting.symm.trans hold)
  · simp only [granted, ← hchosen]
    exact (severity_effective existing _ _).1
  · simp only [granted, expiry]
    split
    · exact le_refl _
    · split
      · next h => exact h.le
      · exact le_refl _
  · cases existing with
    | none => exact .inl rfl
    | some lease => exact .inr rfl

/-- **An enforceable decision is enforced**: what it asks for is weighed against
the live lease, and granted at least as strongly as it asks and for at least the
lease it grants. -/
theorem applyDecision_imposes (now : Int)
    (h : Enforceable enforcer.config controller decision p) :
    ∃ lease after, applyDecision enforcer controller now decision = (lease.action, after) ∧
      Enforces p lease (enforcer, controller) after ∧
      lease.imposed = effective (enforcer.leases.lookup p)
        (EnforcementKind.ofAction decision.action)
        (if EnforcementKind.ofAction decision.action = .rateLimit then
          rateLimitBits enforcer.config decision else 0) ∧
      (EnforcementKind.ofAction decision.action).severity ≤ lease.action.kind.severity ∧
      now + leaseFor enforcer.config lease.action.kind ≤ lease.action.expiresAt ∧
      (lease.action.outcome = .applied ∨ lease.action.outcome = .extended) := by
  obtain ⟨topology, htopology, hport⟩ := isPort_of_portIdAt h.port
  unfold applyDecision
  simp only [proposal, h.kind, h.port, if_false]
  rw [if_neg]
  · exact enforcePort_enforces htopology hport
  · rintro ⟨hlimit, hzero⟩
    rw [if_pos hlimit] at hzero
    exact h.rate hlimit hzero

theorem applyDecision_enforces (now : Int)
    (h : Enforceable enforcer.config controller decision p) :
    ∃ lease after, applyDecision enforcer controller now decision = (lease.action, after) ∧
      Enforces p lease (enforcer, controller) after ∧
      (EnforcementKind.ofAction decision.action).severity ≤ lease.action.kind.severity ∧
      now + leaseFor enforcer.config lease.action.kind ≤ lease.action.expiresAt ∧
      (lease.action.outcome = .applied ∨ lease.action.outcome = .extended) := by
  obtain ⟨lease, after, happly, henforces, _, hgranted⟩ := applyDecision_imposes now h
  exact ⟨lease, after, happly, henforces, hgranted⟩

/-- What one decision can do. -/
theorem applyDecision_cases (enforcer : PolicyEnforcer) (controller : TopologyController)
    (now : Int) (decision : PolicyDecision) :
    (∃ action, applyDecision enforcer controller now decision = (action, enforcer, controller) ∧
      action.outcome ≠ .applied ∧ action.outcome ≠ .extended) ∨
    ∃ p lease after, applyDecision enforcer controller now decision = (lease.action, after) ∧
      Enforceable enforcer.config controller decision p ∧
      Enforces p lease (enforcer, controller) after ∧
      (lease.action.outcome = .applied ∨ lease.action.outcome = .extended) := by
  by_cases h : ∃ p, Enforceable enforcer.config controller decision p
  · obtain ⟨p, hp⟩ := h
    obtain ⟨lease, after, happly, henforces, _, _, houtcome⟩ := applyDecision_enforces now hp
    exact .inr ⟨p, lease, after, happly, hp, henforces, houtcome⟩
  · exact .inl (applyDecision_refused now fun p hp => h ⟨p, hp⟩)

end

/-- **Enforcing refines granting**: the store takes a snapshot and lays the
lease's enforcement over it. -/
theorem Enforces.grant {p : Bytes} {lease : Lease}
    {before after : PolicyEnforcer × TopologyController} (h : Enforces p lease before after) :
    faultStore after = (faultStore before).grant impose {} p lease.imposed := by
  have hkept : (faultStore before).snapshot p = lease.kept := h.kept.symm
  ext q : 2
  · simp only [SnapshotStore.grant, hkept, lease.getD_kept, Function.update_apply]
    exact h.sets.fault (.port q) |>.trans (by simp only [FaultKey.port.injEq]; rfl)
  · simp only [SnapshotStore.grant, hkept, Function.update_apply, faultStore_book, h.leases q]
    split
    · rfl
    · rfl

/-! ## One release -/

section
variable {state : PolicyEnforcer × TopologyController} {p : Bytes} {lease : Lease}

/-- Releasing a port without a lease does nothing. -/
theorem releasePort_unleased (h : state.1.leases.lookup p = none) :
    releasePort state p = state := by
  simp only [releasePort, h]

theorem releasePort_leased (h : state.1.leases.lookup p = some lease) :
    releasePort state p = (state.1.discard p, restorePort lease state.2) := by
  simp only [releasePort, h]

/-- Restoring a port that exists puts back what the lease kept. -/
theorem sets_restorePort (lease : Lease) {controller : TopologyController} {topology : Topology}
    (htopology : controller.topology = some topology)
    (hport : isPort topology lease.action.portId = true) :
    Sets (.port lease.action.portId) lease.kept controller (restorePort lease controller) := by
  unfold restorePort Lease.kept
  split
  · obtain ⟨controller', hset⟩ := setPortFault_ok htopology hport lease.restorable
    rw [hset]
    exact (sets_setPortFault hset).1
  · exact sets_clearPortFault controller lease.action.portId

/-- **Releasing refines revoking**: the operator's fault is back. -/
theorem releasePort_revokes (hhomed : Homed state) (h : state.1.leases.lookup p = some lease) :
    Sets (.port p) (operatorFault state p) state.2 (releasePort state p).2 ∧
      faultStore (releasePort state p) = (faultStore state).revoke p := by
  obtain ⟨topology, htopology, hport⟩ := hhomed p lease h
  have hfiled := state.1.filed p lease h
  have hsets := sets_restorePort lease htopology (by rw [hfiled]; exact hport)
  rw [releasePort_leased h, operatorFault_leased h]
  rw [hfiled] at hsets
  refine ⟨hsets, ?_⟩
  have hsnapshot : (faultStore state).snapshot p = lease.kept := operatorFault_leased h
  ext q : 2
  · simp only [SnapshotStore.revoke, hsnapshot, Function.update_apply]
    exact hsets.fault (.port q) |>.trans (by simp only [FaultKey.port.injEq]; rfl)
  · simp only [SnapshotStore.revoke, Function.update_apply, faultStore_book, lookup_discard]
    split
    · rfl
    · rfl

end

/-! ## Whole calls -/

/-- What enforcement never touches: the operator's fault on any port, the
topology and its revision, and every link's fault. -/
structure Keeps (before after : PolicyEnforcer × TopologyController) : Prop where
  operator : ∀ p, operatorFault after p = operatorFault before p
  topology : after.2.topology = before.2.topology
  revision : after.2.topologyRevision = before.2.topologyRevision
  links : ∀ ends, after.2.faultAt (.link ends) = before.2.faultAt (.link ends)

theorem Keeps.refl (state : PolicyEnforcer × TopologyController) : Keeps state state :=
  ⟨fun _ => rfl, rfl, rfl, fun _ => rfl⟩

theorem Keeps.trans {a b c : PolicyEnforcer × TopologyController} (hab : Keeps a b)
    (hbc : Keeps b c) : Keeps a c where
  operator p := (hbc.operator p).trans (hab.operator p)
  topology := hbc.topology.trans hab.topology
  revision := hbc.revision.trans hab.revision
  links ends := (hbc.links ends).trans (hab.links ends)

/-- A port that is unleased before and after an enforcement call keeps its
fault. -/
theorem Keeps.portFault {before after : PolicyEnforcer × TopologyController}
    (h : Keeps before after) {p : Bytes} (hbefore : before.1.leases.lookup p = none)
    (hafter : after.1.leases.lookup p = none) :
    after.2.portFault p = before.2.portFault p := by
  rw [← operatorFault_unleased hafter, ← operatorFault_unleased hbefore, h.operator]

theorem Enforces.keeps {p : Bytes} {lease : Lease}
    {before after : PolicyEnforcer × TopologyController} (h : Enforces p lease before after) :
    Keeps before after where
  operator q := by
    simp only [operatorFault, h.grant, SnapshotStore.owner_grant]
    rfl
  topology := h.sets.topology
  revision := h.sets.revision
  links ends := by rw [h.sets.fault, if_neg (by simp)]

theorem Enforces.homed {p : Bytes} {lease : Lease}
    {before after : PolicyEnforcer × TopologyController} (h : Enforces p lease before after)
    (hhomed : Homed before) : Homed after := by
  intro q l hlease
  rw [h.sets.topology]
  rw [h.leases q] at hlease
  split at hlease
  · next hq => exact hq ▸ h.home
  · exact hhomed q l hlease

theorem Enforces.coherent {p : Bytes} {lease : Lease}
    {before after : PolicyEnforcer × TopologyController} (h : Enforces p lease before after)
    (hcoherent : Coherent before) : Coherent after where
  homed := h.homed hcoherent.homed
  shows := by
    rw [h.grant]
    exact hcoherent.shows.grant p lease.imposed

/-- The lease that was filed is filed under its port. -/
theorem Enforces.portId {p : Bytes} {lease : Lease}
    {before after : PolicyEnforcer × TopologyController} (h : Enforces p lease before after) :
    lease.action.portId = p :=
  after.1.filed p lease (by rw [h.leases, if_pos rfl])

theorem releasePort_homed {state : PolicyEnforcer × TopologyController} (hhomed : Homed state)
    (p : Bytes) : Homed (releasePort state p) := by
  cases hlease : state.1.leases.lookup p with
  | none => rwa [releasePort_unleased hlease]
  | some lease =>
      intro q l hq
      rw [(releasePort_revokes hhomed hlease).1.topology]
      simp only [releasePort_leased hlease, lookup_discard] at hq
      split at hq
      · exact absurd hq (by simp)
      · exact hhomed q l hq

theorem releasePort_keeps {state : PolicyEnforcer × TopologyController} (hhomed : Homed state)
    (p : Bytes) : Keeps state (releasePort state p) := by
  cases hlease : state.1.leases.lookup p with
  | none =>
      rw [releasePort_unleased hlease]
      exact .refl state
  | some lease =>
      obtain ⟨hsets, hstore⟩ := releasePort_revokes hhomed hlease
      refine ⟨fun q => ?_, hsets.topology, hsets.revision, fun ends => ?_⟩
      · simp only [operatorFault, hstore, SnapshotStore.owner_revoke]
        rfl
      · rw [hsets.fault, if_neg (by simp)]

theorem releasePort_coherent {state : PolicyEnforcer × TopologyController}
    (hcoherent : Coherent state) (p : Bytes) : Coherent (releasePort state p) where
  homed := releasePort_homed hcoherent.homed p
  shows := by
    cases hlease : state.1.leases.lookup p with
    | none =>
        rw [releasePort_unleased hlease]
        exact hcoherent.shows
    | some lease =>
        rw [(releasePort_revokes hcoherent.homed hlease).2]
        exact hcoherent.shows.revoke p

/-- A run of decisions, answer by answer: each is refused or enforced. -/
inductive Applies : List EnforcementAction → PolicyEnforcer × TopologyController →
    PolicyEnforcer × TopologyController → Prop
  | nil {state} : Applies [] state state
  | refused {action actions before after}
      (hrefused : action.outcome ≠ .applied ∧ action.outcome ≠ .extended)
      (hrest : Applies actions before after) : Applies (action :: actions) before after
  | enforced {p lease actions before middle after}
      (henforces : Enforces p lease before middle)
      (houtcome : lease.action.outcome = .applied ∨ lease.action.outcome = .extended)
      (hrest : Applies actions middle after) : Applies (lease.action :: actions) before after

/-- What `apply` does. -/
theorem apply_applies (decisions : List PolicyDecision) (enforcer : PolicyEnforcer)
    (controller : TopologyController) (now : Int) :
    Applies (enforcer.apply decisions controller now).1 (enforcer, controller)
      (enforcer.apply decisions controller now).2 := by
  induction decisions generalizing enforcer controller with
  | nil => exact .nil
  | cons decision decisions ih =>
      unfold apply
      rcases applyDecision_cases enforcer controller now decision with
        ⟨action, happly, hrefused⟩ | ⟨p, lease, after, happly, _, henforces, houtcome⟩
      · rw [happly]
        exact .refused hrefused (ih enforcer controller)
      · rw [happly]
        exact .enforced henforces houtcome (ih after.1 after.2)

/-- What every enforced decision preserves, a run of decisions preserves. -/
theorem Applies.preserves {P : PolicyEnforcer × TopologyController → Prop}
    (hstep : ∀ {p lease before after}, Enforces p lease before after → P before → P after)
    {actions : List EnforcementAction} {before after : PolicyEnforcer × TopologyController}
    (h : Applies actions before after) : P before → P after := by
  induction h with
  | nil => exact id
  | refused _ _ ih => exact ih
  | enforced henforces _ _ ih => exact fun hbefore => ih (hstep henforces hbefore)

/-- What every single release preserves, `release_expired` preserves. -/
theorem releaseExpired_preserves {P : PolicyEnforcer × TopologyController → Prop}
    (hstep : ∀ state p, P state → P (releasePort state p)) {enforcer : PolicyEnforcer}
    {controller : TopologyController} {now : Int} (h : P (enforcer, controller)) :
    P (enforcer.releaseExpired controller now).2 := by
  have hfold : ∀ (ports : List Bytes) state, P state → P (ports.foldl releasePort state) := by
    intro ports
    induction ports with
    | nil => exact fun state hstate => hstate
    | cons p ports ih => exact fun state hstate => ih _ (hstep state p hstate)
  exact hfold _ _ h

section
variable {decisions : List PolicyDecision} {enforcer : PolicyEnforcer}
  {controller : TopologyController} {now : Int}

/-- **`apply` keeps the operator's faults**, whatever the decisions. -/
theorem apply_keeps (hhomed : Homed (enforcer, controller)) :
    Homed (enforcer.apply decisions controller now).2 ∧
      Keeps (enforcer, controller) (enforcer.apply decisions controller now).2 :=
  (apply_applies decisions enforcer controller now).preserves
    (P := fun state => Homed state ∧ Keeps (enforcer, controller) state)
    (fun henforces h => ⟨henforces.homed h.1, h.2.trans henforces.keeps⟩)
    ⟨hhomed, .refl _⟩

theorem apply_coherent (hcoherent : Coherent (enforcer, controller)) :
    Coherent (enforcer.apply decisions controller now).2 :=
  (apply_applies decisions enforcer controller now).preserves
    (fun henforces h => henforces.coherent h) hcoherent

/-- **`release_expired` keeps the operator's faults.** -/
theorem releaseExpired_keeps (hhomed : Homed (enforcer, controller)) :
    Homed (enforcer.releaseExpired controller now).2 ∧
      Keeps (enforcer, controller) (enforcer.releaseExpired controller now).2 :=
  releaseExpired_preserves
    (P := fun state => Homed state ∧ Keeps (enforcer, controller) state)
    (fun _ p h => ⟨releasePort_homed h.1 p, h.2.trans (releasePort_keeps h.1 p)⟩)
    ⟨hhomed, .refl _⟩

theorem releaseExpired_coherent (hcoherent : Coherent (enforcer, controller)) :
    Coherent (enforcer.releaseExpired controller now).2 :=
  releaseExpired_preserves (P := Coherent) (fun _ p h => releasePort_coherent h p) hcoherent

end

/-! ## What a call touches -/

/-- Restoring a lease touches its port at most. -/
private theorem restorePort_touches (lease : Lease) (controller : TopologyController) :
    restorePort lease controller = controller ∨
      ∃ value, Sets (.port lease.action.portId) value controller
        (restorePort lease controller) := by
  unfold restorePort
  split
  · split
    · next hset => exact .inr ⟨_, (sets_setPortFault hset).1⟩
    · exact .inl rfl
  · exact .inr ⟨_, sets_clearPortFault controller lease.action.portId⟩

/-- Releasing a port touches it at most, whatever its lease. -/
private theorem releasePort_touches (state : PolicyEnforcer × TopologyController) (p : Bytes) :
    (releasePort state p).2 = state.2 ∨
      ∃ value, Sets (.port p) value state.2 (releasePort state p).2 := by
  cases hlease : state.1.leases.lookup p with
  | none => exact .inl (congrArg Prod.snd (releasePort_unleased hlease))
  | some lease =>
      rw [releasePort_leased hlease, ← state.1.filed p lease hlease]
      exact restorePort_touches lease state.2

/-- Releasing a port changes no other fault. -/
theorem faultAt_releasePort (state : PolicyEnforcer × TopologyController) {p : Bytes}
    {key : FaultKey} (hkey : key ≠ .port p) :
    (releasePort state p).2.faultAt key = state.2.faultAt key := by
  rcases releasePort_touches state p with hsame | ⟨value, hsets⟩
  · rw [hsame]
  · rw [hsets.fault, if_neg hkey]

/-- Releasing a port stays on the topology. -/
theorem releasePort_topology (state : PolicyEnforcer × TopologyController) (p : Bytes) :
    (releasePort state p).2.topology = state.2.topology ∧
      (releasePort state p).2.topologyRevision = state.2.topologyRevision := by
  rcases releasePort_touches state p with hsame | ⟨value, hsets⟩
  · rw [hsame]
    exact ⟨rfl, rfl⟩
  · exact ⟨hsets.topology, hsets.revision⟩

/-- `release_expired` changes only the ports it answers. -/
theorem faultAt_releaseExpired (enforcer : PolicyEnforcer) (controller : TopologyController)
    (now : Int) (key : FaultKey)
    (hkey : ∀ action ∈ (enforcer.releaseExpired controller now).1, key ≠ .port action.portId) :
    (enforcer.releaseExpired controller now).2.2.faultAt key = controller.faultAt key := by
  have hfold : ∀ (ports : List Bytes) (state : PolicyEnforcer × TopologyController),
      (∀ p ∈ ports, key ≠ .port p) →
      (ports.foldl releasePort state).2.faultAt key = state.2.faultAt key := by
    intro ports
    induction ports with
    | nil => exact fun _ _ => rfl
    | cons p ports ih =>
        intro state hports
        rw [List.foldl_cons, ih _ fun q hq => hports q (by simp [hq])]
        exact faultAt_releasePort state (hports p (by simp))
  refine hfold _ (enforcer, controller) fun p hp => ?_
  obtain ⟨lease, hlease, rfl⟩ := List.mem_map.mp hp
  refine hkey { lease.action with outcome := .released } ?_
  simp only [releaseExpired, List.mem_insertionSort]
  exact List.mem_map_of_mem (f := fun l : Lease => { l.action with outcome := .released }) hlease

/-- A run of decisions changes only the ports it answers as enforced. -/
theorem Applies.faultAt {actions : List EnforcementAction}
    {before after : PolicyEnforcer × TopologyController} (h : Applies actions before after)
    {key : FaultKey}
    (hkey : ∀ action ∈ actions, action.outcome = .applied ∨ action.outcome = .extended →
      key ≠ .port action.portId) : after.2.faultAt key = before.2.faultAt key := by
  induction h with
  | nil => rfl
  | refused _ _ ih => exact ih fun action haction => hkey action (by simp [haction])
  | @enforced p lease actions before middle after henforces houtcome _ ih =>
      rw [ih fun action haction => hkey action (by simp [haction]), henforces.sets.fault, if_neg]
      exact henforces.portId ▸ hkey lease.action (by simp) houtcome

/-- A port with a fault keeps one through a run of decisions. -/
theorem Applies.isSome {actions : List EnforcementAction}
    {before after : PolicyEnforcer × TopologyController} (h : Applies actions before after)
    {p : Bytes} : (before.2.portFault p).isSome = true → (after.2.portFault p).isSome = true := by
  refine h.preserves (P := fun state => (state.2.portFault p).isSome = true) ?_
  intro q lease before after henforces hbefore
  have hfault := henforces.sets.fault (.port p)
  rw [faultAt_port] at hfault
  rw [hfault]
  split
  · rfl
  · exact hbefore

/-- Every port answered as enforced has a fault afterwards. -/
theorem Applies.isSome_of_mem {actions : List EnforcementAction}
    {before after : PolicyEnforcer × TopologyController} (h : Applies actions before after)
    {action : EnforcementAction} (haction : action ∈ actions)
    (houtcome : action.outcome = .applied ∨ action.outcome = .extended) :
    (after.2.portFault action.portId).isSome = true := by
  induction h with
  | nil => exact absurd haction (by simp)
  | refused hrefused _ ih =>
      rcases List.mem_cons.mp haction with rfl | hrest
      · exact absurd houtcome (by simp [hrefused])
      · exact ih hrest
  | @enforced p lease actions before middle after henforces _ hrest ih =>
      rcases List.mem_cons.mp haction with rfl | hmem
      · refine hrest.isSome ?_
        have hfault := henforces.sets.fault (.port p)
        rw [if_pos rfl, faultAt_port] at hfault
        rw [henforces.portId, hfault]
        rfl
      · exact ih hmem

/-- A run of decisions stays on the topology. -/
theorem Applies.topology {actions : List EnforcementAction}
    {before after : PolicyEnforcer × TopologyController} (h : Applies actions before after) :
    after.2.topology = before.2.topology ∧
      after.2.topologyRevision = before.2.topologyRevision :=
  h.preserves
    (P := fun state => state.2.topology = before.2.topology ∧
      state.2.topologyRevision = before.2.topologyRevision)
    (fun henforces hbefore => ⟨henforces.sets.topology.trans hbefore.1,
      henforces.sets.revision.trans hbefore.2⟩) ⟨rfl, rfl⟩

/-- `release_expired` stays on the topology. -/
theorem releaseExpired_topology (enforcer : PolicyEnforcer) (controller : TopologyController)
    (now : Int) :
    (enforcer.releaseExpired controller now).2.2.topology = controller.topology ∧
      (enforcer.releaseExpired controller now).2.2.topologyRevision =
        controller.topologyRevision :=
  releaseExpired_preserves
    (P := fun state => state.2.topology = controller.topology ∧
      state.2.topologyRevision = controller.topologyRevision)
    (fun state p h => ⟨(releasePort_topology state p).1.trans h.1,
      (releasePort_topology state p).2.trans h.2⟩) ⟨rfl, rfl⟩

/-! ## Who is enforced -/

/-- What a decision asks for depends on the topology alone. -/
theorem Enforceable.congr {config : PolicyEnforcerConfig} {controller controller' : TopologyController}
    {decision : PolicyDecision} {p : Bytes} (h : controller'.topology = controller.topology) :
    Enforceable config controller' decision p ↔ Enforceable config controller decision p := by
  have hport := portIdAt_congr h
  constructor
  · exact fun henforceable => { henforceable with port := hport ▸ henforceable.port }
  · exact fun henforceable => { henforceable with port := hport ▸ henforceable.port }

/-- What a decision asks for depends on its anomaly, action and rate alone. -/
theorem Enforceable.of_same {config : PolicyEnforcerConfig} {controller : TopologyController}
    {decision decision' : PolicyDecision} {p : Bytes} (h : Enforceable config controller decision p)
    (hanomaly : decision'.anomaly = decision.anomaly) (haction : decision'.action = decision.action)
    (hrate : decision'.rateLimitPacketsPerSecond = decision.rateLimitPacketsPerSecond) :
    Enforceable config controller decision' p where
  port := hanomaly ▸ h.port
  kind := haction ▸ h.kind
  rate := by
    have hbits : rateLimitBits config decision' = rateLimitBits config decision := by
      simp only [rateLimitBits, hanomaly, hrate]
    rw [haction, hbits]
    exact h.rate

section
variable {enforcer : PolicyEnforcer} {controller : TopologyController} {now : Int} {p : Bytes}

/-- Deciding leaves the configuration alone. -/
theorem apply_config (decisions : List PolicyDecision) :
    (enforcer.apply decisions controller now).2.1.config = enforcer.config :=
  (apply_applies decisions enforcer controller now).preserves
    (P := fun state => state.1.config = enforcer.config)
    (fun henforces h => henforces.config.trans h) rfl

/-- One decision enforces its port, if it has one, and leaves the others. -/
private theorem isEnforced_applyDecision (decision : PolicyDecision) :
    (applyDecision enforcer controller now decision).2.1.isEnforced p = true ↔
      enforcer.isEnforced p = true ∨ Enforceable enforcer.config controller decision p := by
  by_cases h : ∃ q, Enforceable enforcer.config controller decision q
  · obtain ⟨q, hq⟩ := h
    obtain ⟨lease, after, happly, henforces, _⟩ := applyDecision_enforces now hq
    rw [happly, isEnforced, isEnforced, henforces.leases p]
    split
    · next hp => simp only [Option.isSome_some, hp, hq, or_true]
    · next hp =>
        have hother : ¬Enforceable enforcer.config controller decision p :=
          fun hp' => hp (Option.some.inj (hp'.port.symm.trans hq.port))
        simp only [hother, or_false]
  · obtain ⟨action, happly, _⟩ :=
      applyDecision_refused now fun q hq => h ⟨q, hq⟩
    have hnone : ¬Enforceable enforcer.config controller decision p := fun hp => h ⟨p, hp⟩
    simp only [happly, hnone, or_false]

/-- **Decisions only add enforcement**: a port is enforced after a run of them
if it was before or one of them could be enforced on it. -/
theorem isEnforced_apply (enforcer : PolicyEnforcer) (controller : TopologyController)
    (decisions : List PolicyDecision) (now : Int) (p : Bytes) :
    (enforcer.apply decisions controller now).2.1.isEnforced p = true ↔
      enforcer.isEnforced p = true ∨
        ∃ decision ∈ decisions, Enforceable enforcer.config controller decision p := by
  induction decisions generalizing enforcer controller with
  | nil => simp [apply]
  | cons decision decisions ih =>
      have htopology : (applyDecision enforcer controller now decision).2.2.topology =
          controller.topology :=
        (apply_applies [decision] enforcer controller now).topology.1
      have hconfig : (applyDecision enforcer controller now decision).2.1.config =
          enforcer.config := apply_config [decision]
      simp only [apply, ih, isEnforced_applyDecision, hconfig, Enforceable.congr htopology,
        List.exists_mem_cons_iff, or_assoc]

/-- A release leaves every other lease. -/
theorem lookup_releasePort (state : PolicyEnforcer × TopologyController) (q p : Bytes) :
    (releasePort state q).1.leases.lookup p =
      if p = q then none else state.1.leases.lookup p := by
  cases hlease : state.1.leases.lookup q with
  | none =>
      rw [releasePort_unleased hlease]
      split
      · next hp => rw [hp, hlease]
      · rfl
  | some lease => rw [releasePort_leased hlease, lookup_discard]

private theorem mem_expired_ports :
    p ∈ (enforcer.expired now).map (fun lease => lease.action.portId) ↔
      ∃ lease, enforcer.leases.lookup p = some lease ∧ lease.action.expiresAt ≤ now := by
  simp only [expired, List.mem_map, List.mem_filter, decide_eq_true_eq]
  constructor
  · rintro ⟨_, ⟨⟨⟨q, lease⟩, hentry, rfl⟩, hend⟩, rfl⟩
    have hlookup := (Dict.mem_entries_iff _ q lease).mp hentry
    exact ⟨lease, by rwa [enforcer.filed q lease hlookup], hend⟩
  · rintro ⟨lease, hlookup, hend⟩
    exact ⟨lease, ⟨⟨⟨p, lease⟩, (Dict.mem_entries_iff _ p lease).mpr hlookup, rfl⟩, hend⟩,
      enforcer.filed p lease hlookup⟩

/-- `release_expired` answers the ports whose leases have run out. -/
theorem mem_released :
    p ∈ (enforcer.releaseExpired controller now).1.map EnforcementAction.portId ↔
      ∃ lease, enforcer.leases.lookup p = some lease ∧ lease.action.expiresAt ≤ now := by
  rw [← mem_expired_ports]
  simp only [releaseExpired, List.mem_map, List.mem_insertionSort, exists_exists_and_eq_and]

/-- **`release_expired` keeps exactly the leases that have not run out.** -/
theorem lookup_releaseExpired {lease : Lease} :
    (enforcer.releaseExpired controller now).2.1.leases.lookup p = some lease ↔
      enforcer.leases.lookup p = some lease ∧ now < lease.action.expiresAt := by
  have hfold : ∀ (ports : List Bytes) (state : PolicyEnforcer × TopologyController),
      (ports.foldl releasePort state).1.leases.lookup p =
        if p ∈ ports then none else state.1.leases.lookup p := by
    intro ports
    induction ports with
    | nil => exact fun _ => rfl
    | cons q ports ih =>
        intro state
        rw [List.foldl_cons, ih, lookup_releasePort]
        by_cases hp : p = q <;> simp [hp]
  simp only [releaseExpired, hfold, mem_expired_ports]
  constructor
  · intro h
    split at h
    · exact absurd h (by simp)
    · next hlive => exact ⟨h, not_le.mp fun hend => hlive ⟨lease, h, hend⟩⟩
  · rintro ⟨hlookup, hlive⟩
    rw [if_neg]
    · exact hlookup
    · rintro ⟨lease', hlookup', hend⟩
      obtain rfl := Option.some.inj (hlookup.symm.trans hlookup')
      exact absurd hend (not_le.mpr hlive)

theorem releaseExpired_config :
    (enforcer.releaseExpired controller now).2.1.config = enforcer.config := by
  refine releaseExpired_preserves (P := fun state => state.1.config = enforcer.config)
    (fun state q h => ?_) rfl
  unfold releasePort
  split
  · exact h
  · exact h

end

/-- An analysed batch stays on the topology, whether or not it may enforce. -/
theorem evaluate_topology {pipeline pipeline' : AnalysisPipeline}
    {controller controller' : TopologyController} {batch : AnalysisBatch} {timestampNs : Nat}
    {now : Int} {outcome : AnalysisOutcome}
    (h : pipeline.evaluate controller batch timestampNs now =
      some (outcome, pipeline', controller')) :
    controller'.topology = controller.topology ∧
      controller'.topologyRevision = controller.topologyRevision := by
  obtain ⟨_, ⟨_, _, _, _, rfl⟩ | ⟨_, enforcer, middle, hreleases, happlies⟩⟩ :=
    AnalysisPipeline.evaluate_spec h
  · exact ⟨rfl, rfl⟩
  · have hmiddle := releaseExpired_topology pipeline.enforcer controller now
    rw [hreleases] at hmiddle
    have hafter := (apply_applies outcome.decisions enforcer middle now).topology
    rw [happlies] at hafter
    exact ⟨hafter.1.trans hmiddle.1, hafter.2.trans hmiddle.2⟩

/-! ## Leases while they live -/

/-- `new` is `old` or a later grant of the same lease: as strong, and ending no
earlier. -/
structure Lease.Outlasts (new old : Lease) : Prop where
  severity : old.action.kind.severity ≤ new.action.kind.severity
  expiresAt : old.action.expiresAt ≤ new.action.expiresAt

theorem Lease.Outlasts.refl (lease : Lease) : lease.Outlasts lease :=
  ⟨le_refl _, le_refl _⟩

theorem Lease.Outlasts.trans {a b c : Lease} (hcb : c.Outlasts b) (hba : b.Outlasts a) :
    c.Outlasts a where
  severity := hba.severity.trans hcb.severity
  expiresAt := hba.expiresAt.trans hcb.expiresAt

/-- An extension ends no earlier than the lease it extends. -/
theorem le_expiry (config : PolicyEnforcerConfig) (lease : Lease) (kind : EnforcementKind)
    (now : Int) : lease.action.expiresAt ≤ expiry config (some lease) kind now := by
  simp only [expiry]
  split
  · exact le_refl _
  · omega

section
variable {enforcer : PolicyEnforcer} {controller : TopologyController} {now : Int} {p : Bytes}
  {old : Lease}

/-- Enforcing on a port leaves every live lease as strong and as long. -/
private theorem enforcePort_outlasts (portId : Bytes) (result : EnforcementAction)
    (hold : enforcer.leases.lookup p = some old) :
    ∃ new, (enforcePort enforcer controller now portId result).2.1.leases.lookup p = some new ∧
      new.Outlasts old := by
  simp only [enforcePort]
  split
  · exact ⟨old, hold, .refl old⟩
  · by_cases hp : p = portId
    · subst hp
      refine ⟨_, (lookup_hold p rfl p).trans (if_pos rfl), ?_, ?_⟩
      · simp only [granted]
        exact (severity_effective _ _ _).2 old hold
      · simp only [granted, hold]
        exact le_expiry enforcer.config old _ now
    · exact ⟨old, (lookup_hold portId rfl p).trans ((if_neg hp).trans hold), .refl old⟩

/-- A decision is refused, or answered by enforcing on a port. -/
private theorem applyDecision_shape (enforcer : PolicyEnforcer) (controller : TopologyController)
    (now : Int) (decision : PolicyDecision) :
    (applyDecision enforcer controller now decision).2 = (enforcer, controller) ∨
    ∃ portId result, applyDecision enforcer controller now decision =
      enforcePort enforcer controller now portId result := by
  simp only [applyDecision]
  by_cases hkind : (proposal decision (controller.portIdAt decision.anomaly.ingressPort)).kind = .none
  · exact .inl (by rw [if_pos hkind])
  · rw [if_neg hkind]
    cases controller.portIdAt decision.anomaly.ingressPort with
    | none => exact .inl rfl
    | some portId =>
        dsimp only
        by_cases hrate : (proposal decision (some portId)).kind = .rateLimit ∧
            rateLimitBits enforcer.config decision = 0
        · exact .inl (by simp only [hrate, and_self, if_true])
        · refine .inr ⟨portId, _, if_neg ?_⟩
          rintro ⟨hlimit, hzero⟩
          exact hrate ⟨hlimit, by rwa [if_pos hlimit] at hzero⟩

/-- A decision leaves every live lease as strong and as long. -/
theorem applyDecision_outlasts (controller : TopologyController) (now : Int) (decision : PolicyDecision)
    (hold : enforcer.leases.lookup p = some old) :
    ∃ new, (applyDecision enforcer controller now decision).2.1.leases.lookup p = some new ∧
      new.Outlasts old := by
  rcases applyDecision_shape enforcer controller now decision with hrefused | ⟨q, result, hq⟩
  · rw [hrefused]
    exact ⟨old, hold, .refl old⟩
  · rw [hq]
    exact enforcePort_outlasts q result hold

/-- **Decisions only strengthen and lengthen leases.** -/
theorem apply_outlasts (controller : TopologyController) (now : Int)
    (decisions : List PolicyDecision) (hold : enforcer.leases.lookup p = some old) :
    ∃ new, (enforcer.apply decisions controller now).2.1.leases.lookup p = some new ∧
      new.Outlasts old := by
  induction decisions generalizing enforcer controller old with
  | nil => exact ⟨old, hold, .refl old⟩
  | cons decision decisions ih =>
      obtain ⟨middle, hmiddle, hfirst⟩ :=
        applyDecision_outlasts controller now decision hold
      obtain ⟨new, hnew, hrest⟩ := ih _ hmiddle
      exact ⟨new, hnew, hrest.trans hfirst⟩

/-- What a single decision files is enforced for at least the duration of its
kind, from now on. -/
theorem applyDecision_granted (decision : PolicyDecision) {new : Lease}
    (hnew : (applyDecision enforcer controller now decision).2.1.leases.lookup p = some new) :
    enforcer.leases.lookup p = some new ∨
      new.action.kind ≠ .none ∧
        now + leaseFor enforcer.config new.action.kind ≤ new.action.expiresAt := by
  by_cases h : ∃ q, Enforceable enforcer.config controller decision q
  · obtain ⟨q, hq⟩ := h
    obtain ⟨lease, after, happly, henforces, hstrong, hlong, _⟩ := applyDecision_enforces now hq
    rw [happly, henforces.leases p] at hnew
    split at hnew
    · obtain rfl := Option.some.inj hnew
      refine .inr ⟨fun hnone => ?_, hlong⟩
      -- Something was asked for, and it is enforced at least as strongly.
      have hkind := hq.kind
      rw [hnone] at hstrong
      cases hasked : EnforcementKind.ofAction decision.action <;>
        simp_all [EnforcementKind.severity]
    · exact .inl hnew
  · obtain ⟨action, happly, _⟩ := applyDecision_refused now fun q hq => h ⟨q, hq⟩
    rw [happly] at hnew
    exact .inl hnew

/-- What `apply` leaves is an old lease, or runs at least for the duration of
its kind. -/
theorem apply_granted (decisions : List PolicyDecision) {new : Lease}
    (hnew : (enforcer.apply decisions controller now).2.1.leases.lookup p = some new) :
    enforcer.leases.lookup p = some new ∨
      new.action.kind ≠ .none ∧
        now + leaseFor enforcer.config new.action.kind ≤ new.action.expiresAt := by
  induction decisions generalizing enforcer controller with
  | nil => exact .inl hnew
  | cons decision decisions ih =>
      have hconfig : (applyDecision enforcer controller now decision).2.1.config =
          enforcer.config := apply_config [decision]
      rcases ih hnew with hmiddle | hgranted
      · exact applyDecision_granted decision hmiddle
      · exact .inr (hconfig ▸ hgranted)

end

/-! ## Calls -/

/-- The calls on the enforcer. -/
inductive EnforcementCall
  | apply (decisions : List PolicyDecision) (now : Int)
  | releaseExpired (now : Int)
  | release (portId : Bytes)

/-- Run a call against a controller. -/
def EnforcementCall.run (state : PolicyEnforcer × TopologyController) :
    EnforcementCall → PolicyEnforcer × TopologyController
  | .apply decisions now => (state.1.apply decisions state.2 now).2
  | .releaseExpired now => (state.1.releaseExpired state.2 now).2
  | .release portId => (state.1.release portId state.2).2

/-- A call keeps what operators configured. -/
theorem EnforcementCall.keeps {state : PolicyEnforcer × TopologyController} (h : Homed state)
    (call : EnforcementCall) : Homed (call.run state) ∧ Keeps state (call.run state) := by
  cases call with
  | apply decisions now => exact apply_keeps h
  | releaseExpired now => exact releaseExpired_keeps h
  | release portId => exact ⟨releasePort_homed h portId, releasePort_keeps h portId⟩

/-- A call keeps enforcement coherent. -/
theorem EnforcementCall.coherent {state : PolicyEnforcer × TopologyController}
    (h : Coherent state) (call : EnforcementCall) : Coherent (call.run state) := by
  cases call with
  | apply decisions now => exact apply_coherent h
  | releaseExpired now => exact releaseExpired_coherent h
  | release portId => exact releasePort_coherent h portId

/-! ## Operator commands between enforcement calls -/

section
variable {enforcer : PolicyEnforcer} {controller controller' : TopologyController}
  {key : FaultKey} {value : Option FaultConfiguration}

/-- A command leaves the ports that there are. -/
theorem Homed.sets (h : Homed (enforcer, controller))
    (hsets : Sets key value controller controller') : Homed (enforcer, controller') := by
  intro p lease hlease
  obtain ⟨topology, htopology, hport⟩ := h p lease hlease
  exact ⟨topology, hsets.topology.trans htopology, hport⟩

/-- A command that leaves leased ports alone keeps enforcement coherent. -/
theorem Coherent.sets (h : Coherent (enforcer, controller))
    (hsets : Sets key value controller controller')
    (hfree : ∀ p, key = .port p → enforcer.leases.lookup p = none) :
    Coherent (enforcer, controller') where
  homed := h.homed.sets hsets
  shows := by
    refine SnapshotStore.shows_iff.mpr fun p imposed kept hbook => ?_
    have hshows := SnapshotStore.shows_iff.mp h.shows p imposed kept hbook
    have hother : FaultKey.port p ≠ key := by
      intro hkey
      rw [faultStore_book, hfree p hkey.symm] at hbook
      exact absurd hbook (by simp)
    exact ((hsets.fault (.port p)).trans (if_neg hother)).trans hshows

/-- A command on a port's fault is a command on the operator's fault, unless
the port is leased. -/
theorem operatorFault_sets (hsets : Sets key value controller controller') (p : Bytes) :
    operatorFault (enforcer, controller') p =
      if FaultKey.port p = key ∧ enforcer.leases.lookup p = none then value
      else operatorFault (enforcer, controller) p := by
  cases hlease : enforcer.leases.lookup p with
  | some lease =>
      rw [if_neg (by simp), operatorFault_leased hlease, operatorFault_leased hlease]
  | none =>
      rw [operatorFault_unleased hlease, operatorFault_unleased hlease]
      simp only [and_true]
      exact hsets.fault (.port p)

end

end WireLab
