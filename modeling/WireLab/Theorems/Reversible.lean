import WireLab.Logic.Lab

/-!
# Enforcement is reversible

The enforcer and the controller as a system: enforcement calls in any order and
at any clock reading, interleaved with operator commands and topology loads
that leave leased ports alone. While a port is leased its fault is the one it
had when the lease began with the lease's enforcement laid over it; when the
lease ends, its fault is the one it had when the lease began.
-/

namespace WireLab

open Base TopologyController PolicyEnforcer

/-- What an operator does to a controller. -/
inductive OperatorCommand
  | setPortFault (portId : Bytes) (configuration : FaultConfiguration)
  | clearPortFault (portId : Bytes)
  | setLinkFault (firstEndpoint secondEndpoint : Bytes) (configuration : FaultConfiguration)
  | clearLinkFault (firstEndpoint secondEndpoint : Bytes)
  | load (topology : Topology)

/-- Run a command; a refused one changes nothing. -/
def OperatorCommand.run (controller : TopologyController) : OperatorCommand → TopologyController
  | .setPortFault portId configuration =>
      match controller.setPortFault portId configuration with
      | .ok controller' => controller'
      | .error _ => controller
  | .clearPortFault portId => (controller.clearPortFault portId).2
  | .setLinkFault firstEndpoint secondEndpoint configuration =>
      match controller.setLinkFault firstEndpoint secondEndpoint configuration with
      | .ok controller' => controller'
      | .error _ => controller
  | .clearLinkFault firstEndpoint secondEndpoint =>
      (controller.clearLinkFault firstEndpoint secondEndpoint).2
  | .load topology => controller.load topology

/-- Whether a command touches a port: a load touches every port. -/
def OperatorCommand.sparesLeases (enforcer : PolicyEnforcer) : OperatorCommand → Bool
  | .setPortFault portId _ => !enforcer.isEnforced portId
  | .clearPortFault portId => !enforcer.isEnforced portId
  | .setLinkFault _ _ _ => true
  | .clearLinkFault _ _ => true
  | .load _ => enforcer.leases.entries.isEmpty

/-- Enforcement from a controller in any state, with commands that spare leased
ports in between. -/
def enforcement : TSys (PolicyEnforcer × TopologyController) (EnforcementCall ⊕ OperatorCommand) where
  init state := state.1.leases = ∅
  step state
    | .inl call => some (call.run state)
    | .inr command =>
        if command.sparesLeases state.1 then some (state.1, command.run state.2) else none

private theorem lookup_eq_none {enforcer : PolicyEnforcer} {p : Bytes}
    (h : (!enforcer.isEnforced p) = true) : enforcer.leases.lookup p = none := by
  simpa [isEnforced] using h

/-- A command that spares leases keeps enforcement coherent and the operator's
fault on every leased port. -/
theorem OperatorCommand.spares {enforcer : PolicyEnforcer} {controller : TopologyController}
    {command : OperatorCommand} (h : Coherent (enforcer, controller))
    (hspares : command.sparesLeases enforcer = true) :
    Coherent (enforcer, command.run controller) ∧
      ∀ p, enforcer.isEnforced p = true →
        operatorFault (enforcer, command.run controller) p =
          operatorFault (enforcer, controller) p := by
  -- One command sets one key, which is no leased port's.
  have hsets : ∀ {key value controller'}, Sets key value controller controller' →
      (∀ p, key = .port p → enforcer.leases.lookup p = none) →
      Coherent (enforcer, controller') ∧ ∀ p, enforcer.isEnforced p = true →
        operatorFault (enforcer, controller') p = operatorFault (enforcer, controller) p := by
    intro key value controller' hsets hfree
    refine ⟨h.sets hsets hfree, fun p hp => ?_⟩
    rw [operatorFault_sets hsets, if_neg]
    rintro ⟨_, hnone⟩
    simp [isEnforced, hnone] at hp
  cases command with
  | setPortFault portId configuration =>
      simp only [run]
      split
      · next hset =>
          refine hsets (sets_setPortFault hset).1 fun p hp => ?_
          exact FaultKey.port.inj hp ▸ lookup_eq_none hspares
      · exact ⟨h, fun _ _ => rfl⟩
  | clearPortFault portId =>
      refine hsets (sets_clearPortFault controller portId) fun p hp => ?_
      exact FaultKey.port.inj hp ▸ lookup_eq_none hspares
  | setLinkFault firstEndpoint secondEndpoint configuration =>
      simp only [run]
      split
      · next hset => exact hsets (sets_setLinkFault hset) fun p hp => absurd hp (by simp)
      · exact ⟨h, fun _ _ => rfl⟩
  | clearLinkFault firstEndpoint secondEndpoint =>
      cases hfault : controller.linkFault firstEndpoint secondEndpoint with
      | none =>
          have hsame : run controller (.clearLinkFault firstEndpoint secondEndpoint) = controller :=
            congrArg Prod.snd (clearLinkFault_of_none hfault)
          rw [hsame]
          exact ⟨h, fun _ _ => rfl⟩
      | some configuration =>
          exact hsets (sets_clearLinkFault_of_some hfault).2 fun p hp => absurd hp (by simp)
  | load topology =>
      have hempty : ∀ p, enforcer.leases.lookup p = none := by
        intro p
        cases hlease : enforcer.leases.lookup p with
        | none => rfl
        | some lease =>
            have hmem := (Dict.mem_entries_iff _ _ _).mpr hlease
            rw [List.isEmpty_iff.mp hspares] at hmem
            exact absurd hmem (by simp)
      exact ⟨.of_no_leases hempty, fun p hp => absurd hp (by simp [isEnforced, hempty])⟩

/-- Leases stay coherent. -/
theorem enforcement_coherent : enforcement.Invariant Coherent := by
  refine TSys.Inductive.invariant ⟨fun state hinit => ?_, fun state op after h hstep => ?_⟩
  · refine .of_no_leases fun p => ?_
    rw [show state.1.leases = ∅ from hinit, Dict.lookup_empty]
  · cases op with
    | inl call =>
        obtain rfl := Option.some.inj hstep
        exact call.coherent h
    | inr command =>
        simp only [enforcement] at hstep
        split at hstep
        · next hspares =>
            obtain rfl := Option.some.inj hstep
            exact (OperatorCommand.spares h hspares).1
        · exact absurd hstep (by simp)

/-- The step at which a port's lease begins. -/
def Begins (p : Bytes) (before : PolicyEnforcer × TopologyController)
    (_ : EnforcementCall ⊕ OperatorCommand) (after : PolicyEnforcer × TopologyController) : Prop :=
  before.1.isEnforced p = false ∧ after.1.isEnforced p = true

/-- A step during which a port stays leased. -/
def Lasts (p : Bytes) (_ : PolicyEnforcer × TopologyController)
    (_ : EnforcementCall ⊕ OperatorCommand) (after : PolicyEnforcer × TopologyController) : Prop :=
  after.1.isEnforced p = true

private theorem isEnforced_eq_false {enforcer : PolicyEnforcer} {p : Bytes}
    (h : enforcer.isEnforced p = false) : enforcer.leases.lookup p = none :=
  lookup_eq_none (by simp [h])

/-- A step keeps the operator's fault on a port that was leased, or that it
leases. -/
private theorem operatorFault_step {p : Bytes} {state after : PolicyEnforcer × TopologyController}
    {op : EnforcementCall ⊕ OperatorCommand} (h : Coherent state)
    (hstep : enforcement.step state op = some after)
    (hleased : state.1.isEnforced p = true ∨ after.1.isEnforced p = true) :
    operatorFault after p = operatorFault state p := by
  cases op with
  | inl call =>
      obtain rfl := Option.some.inj hstep
      exact (call.keeps h.homed).2.operator p
  | inr command =>
      simp only [enforcement] at hstep
      split at hstep
      · next hspares =>
          obtain rfl := Option.some.inj hstep
          exact (OperatorCommand.spares h hspares).2 p (hleased.elim id id)
      · exact absurd hstep (by simp)

/-- Throughout a lease the operator's fault is the one the port had when the
lease began. -/
private theorem operatorFault_since {p : Bytes} {start now : PolicyEnforcer × TopologyController}
    (h : enforcement.Since (Begins p) (Lasts p) start now) :
    now.1.isEnforced p = true ∧ operatorFault now p = start.2.portFault p := by
  induction h with
  | start hreach hstep hbegins =>
      refine ⟨hbegins.2, ?_⟩
      rw [operatorFault_step (enforcement_coherent _ hreach) hstep (.inr hbegins.2)]
      exact operatorFault_unleased (isEnforced_eq_false hbegins.1)
  | keep hsince hstep hlasts ih =>
      refine ⟨hlasts, ?_⟩
      rw [operatorFault_step (enforcement_coherent _ hsince.reachable) hstep (.inl ih.1), ih.2]

/-- Every live lease began somewhere in the run. -/
private theorem exists_since {p : Bytes} {state : PolicyEnforcer × TopologyController}
    (hreach : enforcement.Reachable state) (hleased : state.1.isEnforced p = true) :
    ∃ start, enforcement.Since (Begins p) (Lasts p) start state := by
  induction hreach with
  | init hinit =>
      rw [isEnforced, show _ = ∅ from hinit, Dict.lookup_empty] at hleased
      exact absurd hleased (by simp)
  | @step before op after hbefore hstep ih =>
      cases hwas : before.1.isEnforced p with
      | false => exact ⟨before, .start hbefore hstep ⟨hwas, hleased⟩⟩
      | true =>
          obtain ⟨start, hsince⟩ := ih hwas
          exact ⟨start, .keep hsince hstep hleased⟩

/-- **Enforcement is reversible.** In every reachable state a leased port shows
the fault it had when its lease began with the lease's enforcement laid over
it; the step that ends a lease leaves exactly the fault from before it; and an
enforcement call leaves the ports without a lease, and all links, as they were. -/
theorem enforcement_reversible :
    (∀ state p lease, enforcement.Reachable state → state.1.leases.lookup p = some lease →
      ∃ start, enforcement.Since (Begins p) (Lasts p) start state) ∧
    (∀ p start now, enforcement.Since (Begins p) (Lasts p) start now →
      (∃ lease, now.1.leases.lookup p = some lease ∧
        now.2.portFault p = some (overlay ((start.2.portFault p).getD {}) lease.action.kind
          lease.action.rateLimitBitsPerSecond)) ∧
      ∀ op after, enforcement.step now op = some after → after.1.isEnforced p = false →
        after.2.portFault p = start.2.portFault p) ∧
    (∀ state (call : EnforcementCall) after, enforcement.Reachable state →
      enforcement.step state (.inl call) = some after →
      (∀ p, state.1.isEnforced p = false → after.1.isEnforced p = false →
        after.2.portFault p = state.2.portFault p) ∧
      ∀ a b, after.2.linkFault a b = state.2.linkFault a b) := by
  refine ⟨fun state p lease hreach hlease => ?_, fun p start now hsince => ⟨?_, ?_⟩,
    fun state call after hreach hstep => ?_⟩
  · exact exists_since hreach (by simp [isEnforced, hlease])
  · obtain ⟨hleased, hfault⟩ := operatorFault_since hsince
    obtain ⟨lease, hlease⟩ := Option.isSome_iff_exists.mp hleased
    refine ⟨lease, hlease, ?_⟩
    rw [(enforcement_coherent _ hsince.reachable).portFault hlease, Lease.enforced,
      ← lease.getD_kept, ← operatorFault_leased hlease, hfault]
  · intro op after hstep hended
    obtain ⟨hleased, hfault⟩ := operatorFault_since hsince
    rw [← operatorFault_unleased (isEnforced_eq_false hended),
      operatorFault_step (enforcement_coherent _ hsince.reachable) hstep (.inl hleased), hfault]
  · obtain rfl := Option.some.inj hstep
    have hkeeps := (call.keeps (enforcement_coherent state hreach).homed).2
    refine ⟨fun p hbefore hafter => ?_, fun a b => hkeeps.links s(a, b)⟩
    exact hkeeps.portFault (isEnforced_eq_false hbefore) (isEnforced_eq_false hafter)

/-- A lab whose operator has slowed `h1` down, before any enforcement. -/
def slowedLab : PolicyEnforcer × TopologyController :=
  ({}, OperatorCommand.run (({} : TopologyController).load labTopology)
    (.setPortFault (bytes "h1") { latency := 5000000 }))

/-- Dropping `h1` and releasing it again: the latency is kept, hidden and back. -/
theorem enforcement_reversible_slowedLab :
    ((EnforcementCall.apply [dropFirstPort] 0).run slowedLab).2.portFault (bytes "h1") =
        some { latency := 5000000, blackhole := true } ∧
      ((EnforcementCall.release (bytes "h1")).run
          ((EnforcementCall.apply [dropFirstPort] 0).run slowedLab)).2.portFault (bytes "h1") =
        some { latency := 5000000 } := by
  have hinit : enforcement.Reachable slowedLab := .init rfl
  have hsince : enforcement.Since (Begins (bytes "h1")) (Lasts (bytes "h1")) slowedLab
      ((EnforcementCall.apply [dropFirstPort] 0).run slowedLab) :=
    .start (show _ from hinit) (show enforcement.step slowedLab (.inl (.apply [dropFirstPort] 0)) = _
      from rfl) ⟨by decide, by decide⟩
  obtain ⟨⟨lease, hlease, hfault⟩, hend⟩ :=
    enforcement_reversible.2.1 (bytes "h1") slowedLab _ hsince
  have hstart : slowedLab.2.portFault (bytes "h1") = some { latency := 5000000 } := by decide
  refine ⟨?_, (hend (.inl (.release (bytes "h1"))) _ rfl (by decide)).trans hstart⟩
  have hkind : lease.action.kind = .blackhole := by
    have := congrArg (Option.map fun l : Lease => l.action.kind) hlease
    exact (Option.some.inj (this.symm.trans (by decide)))
  rw [hfault, hstart, hkind]
  rfl

end WireLab
