import WireLab.Logic.Lab

/-!
# What enforcement does to the operator's faults

A history variable keeps, for every port, the fault the last accepted command
left there. While no command touches a leased port the lab honours it: whenever
a port has no lease, its fault is that one. A command that is accepted on a
leased port is lost when the lease ends, because the lease writes back the fault
it found when it began.
-/

namespace WireLab

open Base TopologyController PolicyEnforcer

/-- The faults of the ports after an accepted command: a load leaves none. -/
def ControlRequest.leaves (view : Bytes → Option FaultConfiguration) (request : ControlRequest) :
    Bytes → Option FaultConfiguration :=
  match request.command with
  | .loadTopology => fun _ => none
  | .setPortFault => Function.update view request.fault.portId (some request.fault.configuration)
  | .clearPortFault => Function.update view request.fault.portId none
  | .setLinkFault | .clearLinkFault | .getSwitchState | .getActiveFaults | .getSupervisionState
  | .startBenchmark | .stopRun => view

section
variable {β τ : Type}

/-- The history variable: what the last accepted command left on each port. -/
def commanded (view : Bytes → Option FaultConfiguration) (l : Lab β τ) (call : LabCall)
    (_ : Lab β τ) : Bytes → Option FaultConfiguration :=
  match call with
  | .enforce _ => view
  | .dispatch env json =>
      match l.service.dispatch l.dataplane.2 env json, controlRequestFromJson json with
      | some d, .ok request => if d.1.reply.accepted then request.leaves view else view
      | _, _ => view

/-- Ports without a lease have the fault the last accepted command left. -/
def Honours (state : Lab β τ × (Bytes → Option FaultConfiguration)) : Prop :=
  ∀ p, state.1.dataplane.1.leases.lookup p = none →
    state.1.dataplane.2.portFault p = state.2 p

/-- A call that leaves the leases alone: a command on a leased port asks for
nothing but what the lease keeps, and no topology is loaded while a lease is
live. -/
def SparesLeases (l : Lab β τ) (call : LabCall) : Prop :=
  ∀ env json request, call = .dispatch env json →
    l.service.admits l.dataplane.2 json = some request →
    (∀ p value lease, request.faultTarget = some (.port p, value) →
      (∀ configuration, value = some configuration → configuration.Acceptable) →
      l.dataplane.1.leases.lookup p = some lease → value = lease.kept) ∧
    (∀ topology, request.command = .loadTopology →
      ControlService.topologyFromFile env.files request.topology.path = .ok topology →
      ∀ p, l.dataplane.1.leases.lookup p = none)

/-- What the invariant says: leased ports exist, and the operator's fault on
every port is the one the last accepted command left. -/
def Remembers (state : Lab β τ × (Bytes → Option FaultConfiguration)) : Prop :=
  Homed state.1.dataplane ∧ ∀ p, operatorFault state.1.dataplane p = state.2 p

theorem Remembers.honours {state : Lab β τ × (Bytes → Option FaultConfiguration)}
    (h : Remembers state) : Honours state := by
  intro p hfree
  rw [← operatorFault_unleased hfree, h.2 p]

/-- A request on one key leaves that key's value. -/
private theorem leaves_of_target {request : ControlRequest} {key : FaultKey}
    {value : Option FaultConfiguration} (h : request.faultTarget = some (key, value))
    (view : Bytes → Option FaultConfiguration) (p : Bytes) :
    request.leaves view p = if FaultKey.port p = key then value else view p := by
  cases hcommand : request.command with
  | setPortFault =>
      simp only [ControlRequest.faultTarget, hcommand, Option.some.injEq, Prod.mk.injEq] at h
      obtain ⟨rfl, rfl⟩ := h
      simp only [ControlRequest.leaves, hcommand, Function.update_apply, FaultKey.port.injEq]
  | clearPortFault =>
      simp only [ControlRequest.faultTarget, hcommand, Option.some.injEq, Prod.mk.injEq] at h
      obtain ⟨rfl, rfl⟩ := h
      simp only [ControlRequest.leaves, hcommand, Function.update_apply, FaultKey.port.injEq]
  | setLinkFault =>
      simp only [ControlRequest.faultTarget, hcommand, Option.some.injEq, Prod.mk.injEq] at h
      obtain ⟨rfl, rfl⟩ := h
      simp only [ControlRequest.leaves, hcommand, reduceCtorEq, if_false]
  | clearLinkFault =>
      simp only [ControlRequest.faultTarget, hcommand, Option.some.injEq, Prod.mk.injEq] at h
      obtain ⟨rfl, rfl⟩ := h
      simp only [ControlRequest.leaves, hcommand, reduceCtorEq, if_false]
  | loadTopology => simp [ControlRequest.faultTarget, hcommand] at h
  | getSwitchState => simp [ControlRequest.faultTarget, hcommand] at h
  | getActiveFaults => simp [ControlRequest.faultTarget, hcommand] at h
  | getSupervisionState => simp [ControlRequest.faultTarget, hcommand] at h
  | startBenchmark => simp [ControlRequest.faultTarget, hcommand] at h
  | stopRun => simp [ControlRequest.faultTarget, hcommand] at h

/-- A request that neither loads nor has a target leaves every port as it
was. -/
private theorem leaves_of_no_target {request : ControlRequest}
    (hcommand : request.command ≠ .loadTopology) (h : request.faultTarget = none)
    (view : Bytes → Option FaultConfiguration) : request.leaves view = view := by
  unfold ControlRequest.leaves
  unfold ControlRequest.faultTarget at h
  split <;> simp_all

variable {state after : Lab β τ × (Bytes → Option FaultConfiguration)}

/-- The view after a refused text is the view before it. -/
private theorem commanded_refused {l l' : Lab β τ} {env : Environment} {json : Bytes}
    {view : Bytes → Option FaultConfiguration} {d : Dispatched β τ}
    (hdispatch : l.service.dispatch l.dataplane.2 env json = some d)
    (hrejected : d.1.reply.accepted = false) :
    commanded view l (.dispatch env json) l' = view := by
  simp only [commanded, hdispatch]
  cases controlRequestFromJson json with
  | error e => rfl
  | ok request => simp only [hrejected, Bool.false_eq_true, if_false]

/-- The view after an accepted request is what the request leaves. -/
private theorem commanded_accepted {l l' : Lab β τ} {env : Environment} {json : Bytes}
    {view : Bytes → Option FaultConfiguration} {d : Dispatched β τ} {request : ControlRequest}
    (hdispatch : l.service.dispatch l.dataplane.2 env json = some d)
    (haccepted : d.1.reply.accepted = true)
    (hparse : controlRequestFromJson json = .ok request) :
    commanded view l (.dispatch env json) l' = request.leaves view := by
  simp only [commanded, hdispatch, hparse, haccepted, if_true]

/-- A call that spares the leases keeps the operator's faults the commanded
ones. -/
private theorem remembers_step {call : LabCall} (h : Remembers state)
    (hspares : SparesLeases state.1 call)
    (hstep : ((lab β τ).withGhost (fun _ => none) commanded).step state call = some after) :
    Remembers after := by
  obtain ⟨hlab, hview⟩ := TSys.withGhost_step.mp hstep
  obtain ⟨hhomed, hoperator⟩ := h
  cases call with
  | enforce call =>
      have hafter : after.1.dataplane = call.run state.1.dataplane := by
        rw [← Option.some.inj hlab]
      obtain ⟨hhomed', hkeeps⟩ := call.keeps hhomed
      rw [Remembers, hafter]
      refine ⟨hhomed', fun p => ?_⟩
      rw [hkeeps.operator p, hoperator p, hview]
      rfl
  | dispatch env json =>
      obtain ⟨⟨out, service', controller'⟩, hdispatch, hl⟩ := Option.map_eq_some_iff.mp hlab
      have hafter : after.1.dataplane = (state.1.dataplane.1, controller') := by rw [← hl]
      rw [Remembers, hafter, hview]
      rcases dispatch_cases hdispatch with hrefuses | ⟨request, hadmits, haccepts⟩
      · obtain ⟨hrejected, _, hsame, _⟩ := hrefuses.unchanged
        obtain rfl : controller' = state.1.dataplane.2 := (Prod.mk.inj hsame).2
        rw [commanded_refused hdispatch hrejected]
        exact ⟨hhomed, hoperator⟩
      · rw [commanded_accepted hdispatch haccepts.accepted
          (ControlService.admits_eq_some.mp hadmits).1]
        obtain ⟨htarget, hload⟩ := hspares env json request rfl hadmits
        have heffect : Effect state.1.service state.1.dataplane.2 env request (newsOf out.events)
            controller' := haccepts.effect
        generalize newsOf out.events = news at heffect
        cases heffect with
        | observed hcommand hnone =>
            rw [leaves_of_no_target hcommand hnone]
            exact ⟨hhomed, hoperator⟩
        | listed hcommand =>
            rw [leaves_of_no_target (by simp [hcommand])
              (by simp [ControlRequest.faultTarget, hcommand])]
            exact ⟨hhomed, hoperator⟩
        | @loaded topology hcommand _ hfile =>
            have hfree := hload _ hcommand hfile
            refine ⟨.of_no_leases hfree, fun p => ?_⟩
            have hunleased : operatorFault
                (state.1.dataplane.1, state.1.dataplane.2.load topology) p = _ :=
              operatorFault_unleased (hfree p)
            rw [hunleased, ControlRequest.leaves, hcommand]
            exact faultAt_load topology (.port p)
        | @changed key value _ hrequest _ hsets =>
            refine ⟨hhomed.sets hsets, fun p => ?_⟩
            rw [operatorFault_sets hsets, leaves_of_target hrequest]
            by_cases hkey : FaultKey.port p = key
            · subst hkey
              rw [if_pos rfl]
              cases hlease : state.1.dataplane.1.leases.lookup p with
              | none => rw [if_pos ⟨rfl, rfl⟩]
              | some lease =>
                  -- Under a lease the operator's fault is what the lease keeps.
                  have hleased : operatorFault state.1.dataplane p = lease.kept :=
                    operatorFault_leased hlease
                  rw [if_neg (by simp), hleased]
                  have hset : controller'.portFault p = value := by
                    simpa using hsets.fault (.port p)
                  exact (htarget p value lease hrequest
                    (fun configuration hvalue => faultAt_acceptable (.port p)
                      (hset.trans hvalue)) hlease).symm
            · rw [if_neg hkey, if_neg fun h => hkey h.1]
              exact hoperator p

/-- **Enforcement keeps the operator's faults as long as commands spare the
leases.** In every run whose calls leave the leases alone, every port without a
lease has the fault that the last accepted command left there (or none). -/
theorem operator_faults_kept (start : Lab β τ) (calls : List LabCall)
    (hstart : (lab β τ).init start)
    (hspares : ((lab β τ).withGhost (fun _ => none) commanded).Steps
      (fun state call _ => SparesLeases state.1 call) (start, fun _ => none) calls) :
    ((lab β τ).withGhost (fun _ => none) commanded).States Honours
      (start, fun _ => none) calls := by
  refine TSys.States.of_inductive (I := Remembers) (fun _ => Remembers.honours)
    (fun state call after h hok hstep => remembers_step h hok hstep) calls _ ⟨?_, fun p => ?_⟩
    hspares
  · exact .of_no_leases fun p => by rw [hstart.1, Dict.lookup_empty]
  · rw [operatorFault_unleased (by rw [hstart.1, Dict.lookup_empty])]
    exact hstart.2 p

end

/-- The operator slows `h1` down, a drop is laid over it, and the lease ends:
the latency is there again. -/
theorem operator_faults_kept_beforeLease :
    ((lab Unit Unit).withGhost (fun _ => none) commanded).States Honours
      (loadedLab, fun _ => none)
      [.dispatch labEnv (slowPort 1 "h1" 5), .enforce (.apply [dropFirstPort] 0),
        .enforce (.release (bytes "h1"))] := by
  refine operator_faults_kept loadedLab _ loadedLab_init ?_
  refine fun s hs => ⟨fun env json request hcall hadmits => ?_, fun s' hs' => ⟨?_, fun s'' hs'' =>
    ⟨?_, trivial⟩⟩⟩
  · -- The one command finds no lease.
    refine ⟨fun p value lease _ _ hlease => ?_, fun topology _ _ p => Dict.lookup_empty p⟩
    exact absurd hlease (by simp [loadedLab])
  · exact fun env json request hcall => absurd hcall (by simp)
  · exact fun env json request hcall => absurd hcall (by simp)

/-- **An operator's fault is lost.** The operator slows `h1` down while a drop is
in force; when the lease runs out the latency is gone. -/
theorem operator_fault_lost :
    ¬∀ calls, ((lab Unit Unit).withGhost (fun _ => none) commanded).States Honours
      (loadedLab, fun _ => none) calls := by
  intro h
  have hrun : (((lab Unit Unit).withGhost (fun _ => none) commanded).exec
      (loadedLab, fun _ => none)
      [.enforce (.apply [dropFirstPort] 0), .dispatch labEnv (slowPort 1 "h1" 5),
        .enforce (.releaseExpired 5000000000)]).map (fun state =>
          (state.1.dataplane.1.isEnforced (bytes "h1"),
            state.1.dataplane.2.portFault (bytes "h1"), state.2 (bytes "h1"))) =
      some (false, none, some { latency := 5000000 }) := by
    decide +kernel
  obtain ⟨final, hexec, hfinal⟩ := Option.map_eq_some_iff.mp hrun
  simp only [Prod.mk.injEq, isEnforced, Option.isSome_eq_false_iff, Option.isNone_iff_eq_none]
    at hfinal
  obtain ⟨hfree, hfault, hview⟩ := hfinal
  have hhonours := (h _).last hexec (bytes "h1") hfree
  rw [hfault, hview] at hhonours
  exact absurd hhonours (by simp)

end WireLab
