import WireLab.Logic.Enforcement
import WireLab.Logic.FaultRuns

/-!
# What enforcement does to a port's cell

The engine keeps a port's configuration beside its random stream and its pacing
clock. An enforced decision installs the port's fault anew, clock and stream
included, whether it starts a lease or extends one; everything else that is done
to other ports leaves the cell as it is.
-/

namespace WireLab

open Base TopologyController PolicyEnforcer

/-- What the controller's engine keeps for a port. -/
def TopologyController.portCell (controller : TopologyController) (portId : Bytes) :
    Option FaultState :=
  (controller.faultEngine.cell (portFaultTarget portId)).2

/-- Whether an answer says that a port was enforced. -/
def EnforcementAction.enforced (portId : Bytes) (action : EnforcementAction) : Bool :=
  action.portId = portId && (action.outcome = .applied || action.outcome = .extended)

section
variable {controller controller' : TopologyController} {p q : Bytes}
  {configuration : FaultConfiguration}

/-- A port's fault is the configuration in its cell. -/
theorem portFault_eq_portCell {topology : Topology} (htopology : controller.topology = some topology)
    (hport : isPort topology p = true) :
    controller.portFault p = (controller.portCell p).map FaultState.configuration := by
  simp only [portFault, htopology, hport, if_true]
  rfl

private theorem target_eq_iff : portFaultTarget p = portFaultTarget q ↔ p = q :=
  ⟨portFaultTarget_inj, fun h => h ▸ rfl⟩

/-- Installing a port's fault starts its cell anew and touches no other. -/
theorem portCell_setPortFault (h : controller.setPortFault q configuration = .ok controller') :
    controller'.portCell p =
      if p = q then
        some { configuration,
               randomState := FaultEngine.targetSeed controller.faultEngine.seed
                 (portFaultTarget q) }
      else controller.portCell p := by
  unfold setPortFault at h
  split at h
  · exact absurd h (by simp)
  · split at h
    · exact absurd h (by simp)
    · split at h
      · exact absurd h (by simp)
      · next engine' hset =>
          obtain rfl := Except.ok.inj h
          have hcell := (FaultEngine.cell_setFault (portFaultTarget p) hset).2
          rw [portCell, withEngine, hcell]
          simp only [target_eq_iff]
          split
          · rfl
          · rfl

/-- Clearing another port leaves the cell. -/
theorem portCell_clearPortFault (hne : p ≠ q) :
    (controller.clearPortFault q).2.portCell p = controller.portCell p := by
  unfold clearPortFault
  split
  · rfl
  · split
    · rfl
    · simp only [portCell, withEngine, FaultEngine.cell_clearFault,
        if_neg fun h => hne (portFaultTarget_inj h)]

/-- Ending another port's lease leaves the cell. -/
theorem portCell_releasePort {state : PolicyEnforcer × TopologyController} (hne : p ≠ q) :
    (releasePort state q).2.portCell p = state.2.portCell p := by
  cases hlease : state.1.leases.lookup q with
  | none => rw [releasePort_unleased hlease]
  | some lease =>
      have hfiled := state.1.filed q lease hlease
      rw [releasePort_leased hlease]
      simp only [restorePort]
      split
      · split
        · next hset => rw [portCell_setPortFault hset, if_neg (hfiled ▸ hne)]
        · rfl
      · exact portCell_clearPortFault (hfiled ▸ hne)

/-- Ending leases leaves the cell of a port that is leased afterwards. -/
theorem portCell_foldl_releasePort {lease : Lease} (ports : List Bytes)
    (state : PolicyEnforcer × TopologyController)
    (h : (ports.foldl releasePort state).1.leases.lookup p = some lease) :
    state.1.leases.lookup p = some lease ∧
      (ports.foldl releasePort state).2.portCell p = state.2.portCell p := by
  induction ports generalizing state with
  | nil => exact ⟨h, rfl⟩
  | cons q ports ih =>
      obtain ⟨hlookup, hcell⟩ := ih _ h
      rw [lookup_releasePort] at hlookup
      split at hlookup
      · exact absurd hlookup (by simp)
      · next hne => exact ⟨hlookup, hcell.trans (portCell_releasePort hne)⟩

/-- Judging a frame of another port leaves the cell; judging one of its own
advances it. -/
theorem portCell_evaluatePort {decision : FaultDecision} {frameBytes : UInt64} {arrival : Int}
    (h : controller.evaluatePort q frameBytes arrival = .ok (decision, controller')) :
    (p ≠ q → controller'.portCell p = controller.portCell p) ∧
      ∀ state, controller.portCell q = some state →
        decision = (state.judge frameBytes arrival).1 ∧
          controller'.portCell q = some (state.advance (state.judge frameBytes arrival).2.1
            (state.judge frameBytes arrival).2.2) := by
  unfold evaluatePort at h
  split at h
  · exact absurd h (by simp)
  · split at h
    · exact absurd h (by simp)
    · obtain ⟨rfl, rfl⟩ := Prod.mk.inj (Except.ok.inj h)
      refine ⟨fun hne => ?_, fun state hstate => ?_⟩
      · have hcells := (controller.faultEngine.cell_evaluate (portFaultTarget q)
          (portFaultTarget p) frameBytes arrival).2
        rw [if_neg fun heq => hne (portFaultTarget_inj heq)] at hcells
        exact congrArg Prod.snd hcells
      · have hcell : controller.faultEngine.cell (portFaultTarget q) =
            (controller.faultEngine.seed, some state) := Prod.ext rfl hstate
        obtain ⟨hdecision, hafter⟩ :=
          FaultEngine.evaluate_configured hcell frameBytes arrival
        exact ⟨hdecision, congrArg Prod.snd hafter⟩

end

/-- Enforcing on a port installs the fault of the lease that is filed. -/
private theorem enforcePort_installs (enforcer : PolicyEnforcer)
    (controller : TopologyController) (now : Int) (q : Bytes) (result : EnforcementAction) :
    (∃ action, enforcePort enforcer controller now q result = (action, enforcer, controller) ∧
      ∀ p, action.enforced p = false) ∨
    ∃ lease after, enforcePort enforcer controller now q result = (lease.action, after) ∧
      (∀ p, lease.action.enforced p = decide (q = p)) ∧
      (∀ p, after.1.leases.lookup p = if p = q then some lease else enforcer.leases.lookup p) ∧
      controller.setPortFault q lease.enforced = .ok after.2 := by
  simp only [enforcePort]
  generalize enforcer.leases.lookup q = existing
  split
  · exact .inl ⟨_, rfl, by simp [EnforcementAction.enforced]⟩
  · next controller' hset =>
      refine .inr ⟨_, _, rfl, fun p => ?_, fun p => lookup_hold q rfl p, hset⟩
      cases existing with
      | none => simp [EnforcementAction.enforced, granted]
      | some lease => simp [EnforcementAction.enforced, granted]

/-- **An enforced decision installs the lease's fault anew**; a refused one
changes nothing. -/
theorem applyDecision_installs (enforcer : PolicyEnforcer) (controller : TopologyController)
    (now : Int) (decision : PolicyDecision) :
    (∃ action, applyDecision enforcer controller now decision = (action, enforcer, controller) ∧
      ∀ p, action.enforced p = false) ∨
    ∃ q lease after, applyDecision enforcer controller now decision = (lease.action, after) ∧
      (∀ p, lease.action.enforced p = decide (q = p)) ∧
      (∀ p, after.1.leases.lookup p = if p = q then some lease else enforcer.leases.lookup p) ∧
      controller.setPortFault q lease.enforced = .ok after.2 := by
  generalize happly : applyDecision enforcer controller now decision = answer
  unfold applyDecision at happly
  dsimp only at happly
  split at happly
  · exact .inl ⟨_, happly.symm, by simp [EnforcementAction.enforced]⟩
  · split at happly
    · exact .inl ⟨_, happly.symm, by simp [EnforcementAction.enforced]⟩
    · next q _ =>
        generalize (if (proposal decision _).kind = .rateLimit then
          rateLimitBits enforcer.config decision else 0) = bits at happly
        split at happly
        · exact .inl ⟨_, happly.symm, by simp [EnforcementAction.enforced]⟩
        · rw [← happly]
          rcases enforcePort_installs enforcer controller now q _ with hrefused | hinstalls
          · exact .inl hrefused
          · exact .inr ⟨q, hinstalls⟩

/-- **What decisions do to a port's cell**: where one of them was enforced on the
port the cell has been installed anew, its clock at the epoch, for the lease that
now stands; else lease and cell are as before. -/
theorem apply_portCell (p : Bytes) (decisions : List PolicyDecision) (enforcer : PolicyEnforcer)
    (controller : TopologyController) (now : Int) :
    let applied := enforcer.apply decisions controller now
    if applied.1.any (EnforcementAction.enforced p) then
      ∃ lease random, applied.2.1.leases.lookup p = some lease ∧
        applied.2.2.portCell p =
          some { configuration := lease.enforced, randomState := random, nextTransmitTime := 0 }
    else
      applied.2.1.leases.lookup p = enforcer.leases.lookup p ∧
        applied.2.2.portCell p = controller.portCell p := by
  induction decisions generalizing enforcer controller with
  | nil => exact ⟨rfl, rfl⟩
  | cons decision decisions ih =>
      rcases applyDecision_installs enforcer controller now decision with
        ⟨action, happly, hnot⟩ | ⟨q, lease, after, happly, henforced, hleases, hset⟩
      · have hrest := ih enforcer controller
        simp only [apply, happly, List.any_cons, hnot p, Bool.false_or]
        exact hrest
      · have hrest := ih after.1 after.2
        simp only [apply, happly, List.any_cons, henforced p]
        by_cases hq : q = p
        · -- The port is enforced here, and perhaps again later.
          subst hq
          rw [decide_eq_true rfl, Bool.true_or, if_pos rfl]
          dsimp only at hrest
          split at hrest
          · exact hrest
          · obtain ⟨hlookup, hcell⟩ := hrest
            rw [hleases, if_pos rfl] at hlookup
            rw [portCell_setPortFault hset, if_pos rfl] at hcell
            exact ⟨lease, _, hlookup, hcell⟩
        · rw [decide_eq_false hq, Bool.false_or]
          rw [hleases, if_neg (Ne.symm hq), portCell_setPortFault hset,
            if_neg (Ne.symm hq)] at hrest
          exact hrest

end WireLab
