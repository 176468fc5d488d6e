import WireLab.Logic.SupervisorGate

/-!
# Containment

Where no operator has set a fault and no policy limits a rate, every port fault is a
lease's that drops. A supervisor then blocks a frame exactly when the port of its sender
holds a lease (`Governed.inspect_blocks`), and whatever it is asked keeps that
(`supervisorGate_governed`).
-/

namespace WireLab

open Base TopologyController PolicyEnforcer

/-- An action that does anything to a port stops its traffic, unless it limits a rate. -/
theorem severity_of_action {action : PolicyAction} (hlimit : action ≠ .rateLimit)
    (hkind : EnforcementKind.ofAction action ≠ .none) :
    2 ≤ (EnforcementKind.ofAction action).severity := by
  cases action with
  | drop => exact Nat.le_refl 2
  | quarantine => exact Nat.le_succ 2
  | rateLimit => exact absurd rfl hlimit
  | allow => exact absurd rfl hkind
  | mirror => exact absurd rfl hkind
  | alertOnly => exact absurd rfl hkind

section
variable {enforcer : PolicyEnforcer} {controller : TopologyController} {now : Int} {p : Bytes}
  {new : Lease}

/-- What a decision leaves was there before, or the decision was enforced. -/
theorem applyDecision_leases (decision : PolicyDecision)
    (hnew : (applyDecision enforcer controller now decision).2.1.leases.lookup p = some new) :
    enforcer.leases.lookup p = some new ∨
      Enforceable enforcer.config controller decision p ∧
        (EnforcementKind.ofAction decision.action).severity ≤ new.action.kind.severity := by
  by_cases h : ∃ q, Enforceable enforcer.config controller decision q
  · obtain ⟨q, hq⟩ := h
    obtain ⟨lease, after, happly, henforces, hsevere, _⟩ := applyDecision_enforces now hq
    rw [happly, henforces.leases p] at hnew
    split at hnew
    · next hport =>
        obtain rfl := Option.some.inj hnew
        exact .inr ⟨hport ▸ hq, hsevere⟩
    · exact .inl hnew
  · obtain ⟨action, happly, _⟩ := applyDecision_refused now fun q hq => h ⟨q, hq⟩
    rw [happly] at hnew
    exact .inl hnew

/-- **Where a lease comes from**: it was there before, or one of the decisions was enforced
on its port. -/
theorem apply_leases (decisions : List PolicyDecision)
    (hnew : (enforcer.apply decisions controller now).2.1.leases.lookup p = some new) :
    enforcer.leases.lookup p = some new ∨
      ∃ decision ∈ decisions, Enforceable enforcer.config controller decision p ∧
        (EnforcementKind.ofAction decision.action).severity ≤ new.action.kind.severity := by
  induction decisions generalizing enforcer controller with
  | nil => exact .inl hnew
  | cons decision decisions ih =>
      have htopology : (applyDecision enforcer controller now decision).2.2.topology =
          controller.topology :=
        (apply_applies [decision] enforcer controller now).topology.1
      have hconfig : (applyDecision enforcer controller now decision).2.1.config =
          enforcer.config := apply_config [decision]
      rcases ih hnew with hmiddle | ⟨later, hlater, henforceable, hsevere⟩
      · rcases applyDecision_leases decision hmiddle with hold | hfirst
        · exact .inl hold
        · exact .inr ⟨decision, List.mem_cons_self, hfirst⟩
      · refine .inr ⟨later, List.mem_cons_of_mem _ hlater, ?_, hsevere⟩
        rw [← Enforceable.congr htopology, ← hconfig]
        exact henforceable

end

/-- A port without a fault passes a frame at once. -/
theorem evaluatePort_unset {controller controller' : TopologyController} {p : Bytes}
    {decision : FaultDecision} {frameBytes : UInt64} {arrival : Int}
    (h : controller.evaluatePort p frameBytes arrival = .ok (decision, controller'))
    (hunset : controller.portFault p = none) :
    decision = { deliveryCount := 1, deliveryTimes := [arrival] } := by
  unfold evaluatePort at h
  split at h
  · cases h
  · next topology htopology =>
      split at h
      · cases h
      · next hport =>
          have hfault : controller.portFault p =
              controller.faultEngine.faultFor (portFaultTarget p) := by
            simp only [portFault, htopology]
            exact if_pos (by simpa using hport)
          obtain ⟨rfl, _⟩ := Prod.mk.inj (Except.ok.inj h)
          unfold FaultEngine.evaluate
          split
          · rfl
          · next state hstate =>
              rw [hfault, FaultEngine.faultFor, hstate] at hunset
              cases hunset

/-! ## Supervisors that no operator reaches -/

/-- What a supervisor without operators and rate limits keeps. -/
structure Governed {α : Type} (supervisor : SwitchSupervisor α) : Prop where
  attached : supervisor.pipeline.attached = true
  uncontrolled : supervisor.controlled = false
  coherent : Coherent supervisor.dataplane
  unoperated : ∀ p, operatorFault supervisor.dataplane p = none
  unlimited : ∀ rule ∈ supervisor.pipeline.policies.rules, rule.action ≠ .rateLimit
  strong : ∀ p lease, supervisor.pipeline.enforcer.leases.lookup p = some lease →
    2 ≤ lease.action.kind.severity
  bound : ∀ name binding, supervisor.bindings.lookup name = some binding →
    binding.portId = (supervisor.controller.portIdAt binding.ingressPort).getD []

section
variable {α : Type} {analyzer : PacketAnalyzer α} {supervisor after : SwitchSupervisor α}
  {portId frameData : Bytes} {sender : Endpoint} {arrival now : Int}

/-- A port with a lease has its fault, and it drops. -/
theorem Governed.leased (h : Governed supervisor)
    (hlease : supervisor.pipeline.enforcer.isEnforced portId = true) :
    ∃ fault, supervisor.controller.portFault portId = some fault ∧
      (fault.blackhole = true ∨ fault.isolated = true) := by
  obtain ⟨lease, hlookup⟩ := Option.isSome_iff_exists.mp hlease
  have hfault : supervisor.dataplane.2.portFault portId = some lease.enforced :=
    h.coherent.portFault hlookup
  exact ⟨lease.enforced, hfault, Lease.blocks (h.strong portId lease hlookup)⟩

/-- A port without a lease has no fault. -/
theorem Governed.unleased (h : Governed supervisor)
    (hlease : supervisor.pipeline.enforcer.isEnforced portId = false) :
    supervisor.controller.portFault portId = none := by
  have hlookup : supervisor.dataplane.1.leases.lookup portId = none :=
    Option.isSome_eq_false_iff.mp hlease |> Option.isNone_iff_eq_none.mp
  exact (operatorFault_unleased hlookup).symm.trans (h.unoperated portId)

/-- **Judging a frame** blocks it exactly when its port holds a lease. -/
theorem Governed.judge_blocks (h : Governed supervisor) (portId frameData : Bytes) (arrival : Int) :
    ((supervisor.judge portId frameData arrival).1.dropped ||
        (supervisor.judge portId frameData arrival).1.deliveryCount = 0) =
      supervisor.pipeline.enforcer.isEnforced portId := by
  cases hlease : supervisor.pipeline.enforcer.isEnforced portId with
  | true =>
      obtain ⟨fault, hfault, hblocks⟩ := h.leased hlease
      obtain ⟨_, _, hport⟩ := isPort_of_portFault hfault
      have hjudged : ∃ out, supervisor.controller.evaluatePort portId
          (UInt64.ofNat frameData.length) arrival = .ok out := evaluatePort_ok hfault
      obtain ⟨⟨decision, controller⟩, hout⟩ := hjudged
      have hnamed : portId.isEmpty = false := by
        simpa using ne_nil_of_isPort hport
      have hdropped := (evaluatePort_decision hout).2 fault hfault hblocks
      simp only [SwitchSupervisor.judge, hnamed, Bool.false_eq_true, if_false, hout, hdropped,
        Bool.true_or]
  | false =>
      have hunset := h.unleased hlease
      unfold SwitchSupervisor.judge
      dsimp only
      split
      · rfl
      · split
        · rfl
        · next decision controller hout =>
            obtain rfl := evaluatePort_unset hout hunset
            rfl

/-- Behind a frame its sender is bound. -/
theorem SwitchSupervisor.lookup_bind (supervisor : SwitchSupervisor α) (sender : Endpoint) :
    (supervisor.bind sender).2.bindings.lookup sender.toString = some (supervisor.bind sender).1 := by
  unfold SwitchSupervisor.bind
  split
  · next binding hbinding => exact hbinding
  · exact (Dict.lookup_insert _ _ _ _).trans (if_pos rfl)

/-- A sender that is bound stays bound. -/
theorem SwitchSupervisor.lookup_bind_of_some {binding : Binding} {name : Bytes}
    (h : supervisor.bindings.lookup name = some binding) (sender : Endpoint) :
    (supervisor.bind sender).2.bindings.lookup name = some binding := by
  unfold SwitchSupervisor.bind
  split
  · exact h
  · next hnew =>
      refine (Dict.lookup_insert _ _ _ _).trans ((if_neg ?_).trans h)
      rintro rfl
      rw [h] at hnew
      cases hnew

theorem SwitchSupervisor.record_bindings (supervisor : SwitchSupervisor α) (frameData : Bytes)
    (sender : Endpoint) :
    (supervisor.record frameData sender).2.bindings = (supervisor.bind sender).2.bindings := by
  unfold SwitchSupervisor.record
  dsimp only
  split
  · rfl
  · rfl

/-- A new sender gets the port of its number. -/
theorem Governed.record (h : Governed supervisor) (frameData : Bytes) (sender : Endpoint) :
    Governed (supervisor.record frameData sender).2 := by
  obtain ⟨_, hpipeline, hcontroller, hcontrolled⟩ := record_same supervisor frameData sender
  have hdataplane : (supervisor.record frameData sender).2.dataplane = supervisor.dataplane := by
    rw [SwitchSupervisor.dataplane, hpipeline, hcontroller, ← SwitchSupervisor.dataplane]
  refine ⟨?_, ?_, ?_, ?_, ?_, ?_, ?_⟩
  · rw [hpipeline]
    exact h.attached
  · rw [hcontrolled]
    exact h.uncontrolled
  · rw [hdataplane]
    exact h.coherent
  · rw [hdataplane]
    exact h.unoperated
  · rw [hpipeline]
    exact h.unlimited
  · rw [hpipeline]
    exact h.strong
  · intro name binding hlookup
    rw [supervisor.record_bindings] at hlookup
    rw [hcontroller]
    unfold SwitchSupervisor.bind at hlookup
    split at hlookup
    · exact h.bound name binding hlookup
    · rw [Dict.lookup_insert] at hlookup
      split at hlookup
      · obtain rfl := Option.some.inj hlookup
        rfl
      · exact h.bound name binding hlookup

/-- Judging a frame leaves what is configured, and the leases. -/
theorem Governed.judge (h : Governed supervisor) (portId frameData : Bytes) (arrival : Int) :
    Governed (supervisor.judge portId frameData arrival).2 := by
  unfold SwitchSupervisor.judge
  dsimp only
  split
  · exact h
  · split
    · exact h
    · next evaluated controller hout =>
        obtain ⟨htopology, _, hfaults⟩ := faultAt_evaluatePort hout
        have hfault (p : Bytes) : controller.portFault p = supervisor.controller.portFault p :=
          hfaults (.port p)
        have hstore : faultStore (supervisor.pipeline.enforcer, controller) =
            faultStore supervisor.dataplane := by
          ext p : 2
          · exact hfault p
          · rfl
        refine ⟨h.attached, h.uncontrolled, ⟨?_, ?_⟩, ?_, h.unlimited, h.strong, ?_⟩
        · intro p lease hlease
          obtain ⟨topology, hloaded, hport⟩ := h.coherent.homed p lease hlease
          exact ⟨topology, htopology.trans hloaded, hport⟩
        · show (faultStore (supervisor.pipeline.enforcer, controller)).Shows impose {}
          rw [hstore]
          exact h.coherent.shows
        · intro p
          show operatorFault (supervisor.pipeline.enforcer, controller) p = none
          rw [operatorFault, hstore]
          exact h.unoperated p
        · intro name binding hlookup
          show binding.portId = (controller.portIdAt binding.ingressPort).getD []
          rw [portIdAt_congr htopology]
          exact h.bound name binding hlookup

theorem judge_pipeline (supervisor : SwitchSupervisor α) (portId frameData : Bytes)
    (arrival : Int) :
    (supervisor.judge portId frameData arrival).2.pipeline = supervisor.pipeline ∧
      (supervisor.judge portId frameData arrival).2.bindings = supervisor.bindings := by
  unfold SwitchSupervisor.judge
  dsimp only
  split
  · exact ⟨rfl, rfl⟩
  · split
    · exact ⟨rfl, rfl⟩
    · exact ⟨rfl, rfl⟩

/-- **An analysis** enforces nothing but what drops, and gives back what was there. -/
theorem Governed.analyse (h : Governed supervisor)
    (hanalyses : SwitchSupervisor.AnalysesBatch analyzer now supervisor after) : Governed after := by
  obtain ⟨outcome, hevaluate⟩ := hanalyses.evaluated
  obtain ⟨hanalysed, hwhole⟩ := AnalysisPipeline.evaluate_spec hevaluate
  have htopology := (evaluate_topology hevaluate).1
  rcases hwhole with ⟨hdetached, _⟩ | ⟨_, enforcer, middle, hreleases, happlies⟩
  · rw [h.attached] at hdetached
    cases hdetached
  have hrules : after.pipeline.policies.rules = supervisor.pipeline.policies.rules := by
    have hsame := supervisor.pipeline.policies.evaluate_rules outcome.anomalies
    rwa [hanalysed.decided] at hsame
  -- first the leases that have run out, then the decisions
  have hreleased : Coherent (supervisor.pipeline.enforcer.releaseExpired supervisor.controller now).2 :=
    releaseExpired_coherent h.coherent
  have hreleasedKeeps : Keeps supervisor.dataplane
      (supervisor.pipeline.enforcer.releaseExpired supervisor.controller now).2 :=
    (releaseExpired_keeps h.coherent.homed).2
  rw [hreleases] at hreleased hreleasedKeeps
  have happlied : Coherent (enforcer.apply outcome.decisions middle now).2 :=
    apply_coherent hreleased
  have happliedKeeps : Keeps (enforcer, middle) (enforcer.apply outcome.decisions middle now).2 :=
    (apply_keeps hreleased.homed).2
  rw [happlies] at happlied happliedKeeps
  refine ⟨hanalysed.attached.trans h.attached, hanalyses.controlled.trans h.uncontrolled, happlied,
    ?_, ?_, ?_, ?_⟩
  · intro p
    exact (happliedKeeps.operator p).trans ((hreleasedKeeps.operator p).trans (h.unoperated p))
  · rw [hrules]
    exact h.unlimited
  · intro p lease hlease
    have hafter : (enforcer.apply outcome.decisions middle now).2.1.leases.lookup p = some lease := by
      rw [happlies]
      exact hlease
    rcases apply_leases outcome.decisions hafter with hold | ⟨decision, hdecision, hport, hsevere⟩
    · have hkept : (supervisor.pipeline.enforcer.releaseExpired supervisor.controller
          now).2.1.leases.lookup p = some lease := by
        rw [hreleases]
        exact hold
      exact h.strong p lease (lookup_releaseExpired.mp hkept).1
    · refine le_trans (severity_of_action ?_ hport.kind) hsevere
      have hmem : decision ∈ (supervisor.pipeline.policies.evaluate outcome.anomalies).1 := by
        rw [hanalysed.decided]
        exact hdecision
      obtain ⟨_, rule, hrule, haction, _⟩ :=
        (supervisor.pipeline.policies.mem_evaluate outcome.anomalies _ _ _).mp
          ⟨decision, hmem, rfl, rfl, rfl⟩
      exact haction ▸ h.unlimited rule (List.mem_of_find?_eq_some hrule)
  · intro name binding hlookup
    rw [hanalyses.bindings] at hlookup
    rw [portIdAt_congr htopology]
    exact h.bound name binding hlookup

/-- **What a supervisor is asked** leaves it governed. -/
theorem supervisorGate_governed (analyzer : PacketAnalyzer α) :
    (supervisorGate analyzer).Keeps fun _ supervisor => Governed supervisor := by
  refine supervisorGate_keeps ?_ ?_ ?_ ?_
  · exact fun _ _ h => h.uncontrolled
  · exact fun _ _ frameData sender h _ => h.record frameData sender
  · exact fun _ _ _ _ h hanalyses => h.analyse hanalyses
  · exact fun _ _ portId frameData arrival h => h.judge portId frameData arrival

/-- Whether the port of a sender holds a lease. -/
def SwitchSupervisor.contains (supervisor : SwitchSupervisor α) (sender : Endpoint) : Bool :=
  (supervisor.bindings.lookup sender.toString).any fun binding =>
    supervisor.pipeline.enforcer.isEnforced binding.portId

/-- **A frame is blocked exactly when its sender is contained**, as the supervisor then
has it: the frame itself may be the one that fills the batch. -/
theorem Governed.inspect_blocks (h : Governed supervisor) {decision : FaultDecision}
    {outcome : TickOutcome}
    (hinspect : supervisor.inspect analyzer id frameData sender arrival =
      some (decision, outcome, after)) :
    (decision.dropped || decision.deliveryCount = 0) = after.contains sender := by
  obtain ⟨ready, hready, hjudge⟩ := SwitchSupervisor.inspect_spec hinspect
  have hrecorded := h.record frameData sender
  have hkept : Governed ready ∧
      ready.bindings = (supervisor.record frameData sender).2.bindings := by
    rcases hready with rfl | hticked
    · exact ⟨hrecorded, rfl⟩
    · rcases SwitchSupervisor.tick_spec hrecorded.uncontrolled hticked with rfl | hanalyses
      · exact ⟨hrecorded, rfl⟩
      · exact ⟨hrecorded.analyse hanalyses, hanalyses.bindings⟩
  obtain ⟨hgoverned, hbindings⟩ := hkept
  have hblocks := hgoverned.judge_blocks (supervisor.bind sender).1.portId frameData arrival
  obtain ⟨hpipeline, hsame⟩ :=
    judge_pipeline ready (supervisor.bind sender).1.portId frameData arrival
  rw [hjudge] at hblocks hpipeline hsame
  rw [SwitchSupervisor.contains, hsame, hbindings, supervisor.record_bindings,
    supervisor.lookup_bind sender, Option.any_some, hpipeline]
  exact hblocks

end
end WireLab
