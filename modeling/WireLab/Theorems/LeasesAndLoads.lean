import WireLab.Logic.Lab

/-!
# Leases and topology loads

`load_topology` replaces the controller's topology and its faults; the leases
stay, because the service does not know the enforcer. Without operator faults
the two agree in every state of a run exactly when no topology was loaded while
a lease was live.
-/

namespace WireLab

open Base TopologyController PolicyEnforcer

/-- The enforcement of a lease is in a fault: a blackhole for a drop, isolation
for a quarantine, the rate for a rate limit. -/
def EnforcementAction.shownBy (action : EnforcementAction) (fault : FaultConfiguration) : Prop :=
  match action.kind with
  | .blackhole => fault.blackhole = true
  | .isolate => fault.isolated = true
  | .rateLimit => fault.bandwidthBitsPerSecond = action.rateLimitBitsPerSecond
  | .none => True

theorem Lease.shownBy_enforced (lease : Lease) : lease.action.shownBy lease.enforced := by
  unfold EnforcementAction.shownBy Lease.enforced overlay
  split <;> simp_all

section
variable {β τ : Type}

/-- The history variable: the ports whose live lease is older than the last
accepted load. -/
def outlived (stale : Bytes → Bool) (l : Lab β τ) (call : LabCall) (l' : Lab β τ) :
    Bytes → Bool :=
  match call with
  | .enforce _ => fun p => stale p && l'.dataplane.1.isEnforced p
  | .dispatch env json =>
      match l.service.dispatch l.dataplane.2 env json with
      | some d =>
          if Exchange.isLoad { json, reply := d.1.reply } then l.dataplane.1.isEnforced else stale
      | none => stale

/-- A port that is reported as enforced has a fault that carries the
enforcement. -/
def Carries (state : Lab β τ × (Bytes → Bool)) : Prop :=
  ∀ p lease, state.1.dataplane.1.leases.lookup p = some lease →
    ∃ fault, state.1.dataplane.2.portFault p = some fault ∧ lease.action.shownBy fault

/-- A lease older than the topology neither installs nor restores a fault. -/
def StaleIdle (state : Lab β τ × (Bytes → Bool)) (call : LabCall)
    (after : Lab β τ × (Bytes → Bool)) : Prop :=
  ∀ enforcement, call = .enforce enforcement → ∀ p, state.2 p = true →
    after.1.dataplane.2.portFault p = state.1.dataplane.2.portFault p

/-- A call that is no command on a fault. -/
def NoFaultCommand (call : LabCall) : Prop :=
  ∀ env json request, call = .dispatch env json →
    controlRequestFromJson json = .ok request → request.faultTarget = none

/-- A call that does not load a topology while a lease is live. -/
def LoadsUnleased (l : Lab β τ) (call : LabCall) : Prop :=
  ∀ env json request topology, call = .dispatch env json → l.service.bound = true →
    l.service.admits l.dataplane.2 json = some request → request.command = .loadTopology →
    ControlService.topologyFromFile env.files request.topology.path = .ok topology →
    ∀ p, l.dataplane.1.leases.lookup p = none

/-- The invariant: enforcement is coherent, and no lease is older than the
topology. -/
structure Settled (state : Lab β τ × (Bytes → Bool)) : Prop where
  coherent : Coherent state.1.dataplane
  fresh : ∀ p, state.2 p = false

theorem Settled.carries {state : Lab β τ × (Bytes → Bool)} (h : Settled state) :
    Carries state :=
  fun _ lease hlease => ⟨lease.enforced, h.coherent.portFault hlease, lease.shownBy_enforced⟩

variable {state after : Lab β τ × (Bytes → Bool)} {call : LabCall}

private theorem settled_step (h : Settled state) (hcommand : NoFaultCommand call)
    (hload : LoadsUnleased state.1 call)
    (hstep : ((lab β τ).withGhost (fun _ => false) outlived).step state call = some after) :
    Settled after := by
  obtain ⟨hlab, hstale⟩ := TSys.withGhost_step.mp hstep
  cases call with
  | enforce call =>
      refine ⟨?_, fun p => ?_⟩
      · rw [← Option.some.inj hlab]
        exact call.coherent h.coherent
      · simp only [hstale, outlived, h.fresh p, Bool.false_and]
  | dispatch env json =>
      obtain ⟨⟨out, service', controller'⟩, hdispatch, hl⟩ := Option.map_eq_some_iff.mp hlab
      have hafter : after.1.dataplane = (state.1.dataplane.1, controller') := by rw [← hl]
      simp only [outlived, hdispatch] at hstale
      rcases dispatch_cases hdispatch with hrefuses | ⟨request, hadmits, haccepts⟩
      · obtain ⟨hrejected, _, hsame, _⟩ := hrefuses.unchanged
        obtain rfl : controller' = state.1.dataplane.2 := (Prod.mk.inj hsame).2
        rw [isLoad_of_rejected hrejected, if_neg (by simp)] at hstale
        exact ⟨hafter ▸ h.coherent, fun p => hstale ▸ h.fresh p⟩
      · have hparse := (ControlService.admits_eq_some.mp hadmits).1
        rw [isLoad_of_accepted haccepts.accepted hparse] at hstale
        have heffect : Effect state.1.service state.1.dataplane.2 env request (newsOf out.events)
            controller' := haccepts.effect
        generalize newsOf out.events = news at heffect
        cases heffect with
        | observed hother =>
            rw [if_neg (by simpa using hother)] at hstale
            exact ⟨hafter ▸ h.coherent, fun p => hstale ▸ h.fresh p⟩
        | listed hlisted =>
            rw [if_neg (by simp [hlisted])] at hstale
            exact ⟨hafter ▸ h.coherent, fun p => hstale ▸ h.fresh p⟩
        | loaded hloads hbound hfile =>
            have hfree := hload env json request _ rfl hbound hadmits hloads hfile
            rw [if_pos (by simpa using hloads)] at hstale
            refine ⟨hafter ▸ .of_no_leases hfree, fun p => ?_⟩
            rw [hstale, isEnforced, hfree p, Option.isSome_none]
        | changed htarget =>
            rw [hcommand env json request rfl hparse] at htarget
            exact absurd htarget (by simp)

/-- A load under a live lease leaves the lease without its fault. -/
private theorem loadsUnleased_of_carries (hafter : Carries after)
    (hstep : ((lab β τ).withGhost (fun _ => false) outlived).step state call = some after) :
    LoadsUnleased state.1 call := by
  intro env json request topology hcall hbound hadmits hloads hfile p
  subst hcall
  obtain ⟨hlab, _⟩ := TSys.withGhost_step.mp hstep
  obtain ⟨out, service', hdispatch⟩ := dispatch_load hadmits hloads hbound hfile
  simp only [lab, hdispatch, Option.map_some, Option.some.injEq] at hlab
  cases hlease : state.1.dataplane.1.leases.lookup p with
  | none => rfl
  | some lease =>
      obtain ⟨fault, hfault, _⟩ := hafter p lease (by rw [← hlab]; exact hlease)
      rw [← hlab] at hfault
      exact absurd (hfault.symm.trans (faultAt_load topology (.port p))) (by simp)

/-- **Leases do not outlive their topology exactly when no load finds one.** In
a run without operator fault commands, stale leases stay idle and every enforced
port carries its enforcement in every state, if and only if no topology is
loaded while a lease is live. -/
theorem leases_agree_iff (start : Lab β τ) (calls : List LabCall)
    (hstart : (lab β τ).init start) (hcalls : ∀ call ∈ calls, NoFaultCommand call) :
    (((lab β τ).withGhost (fun _ => false) outlived).Steps StaleIdle
        (start, fun _ => false) calls ∧
      ((lab β τ).withGhost (fun _ => false) outlived).States Carries
        (start, fun _ => false) calls) ↔
    ((lab β τ).withGhost (fun _ => false) outlived).Steps
      (fun state call _ => LoadsUnleased state.1 call) (start, fun _ => false) calls := by
  constructor
  · rintro ⟨_, hcarries⟩
    exact hcarries.steps fun _ _ _ hstep _ hafter => loadsUnleased_of_carries hafter hstep
  · intro hloads
    have hsettled : Settled (start, fun _ => false) :=
      ⟨.of_no_leases fun p => by rw [hstart.1, Dict.lookup_empty], fun _ => rfl⟩
    have hok := (TSys.Steps.of_forall (T := (lab β τ).withGhost (fun _ => false) outlived)
      hcalls (start, fun _ => false)).and hloads
    refine ⟨TSys.Steps.of_inductive (I := Settled) (fun state call after h hcall hstep => ?_)
      calls _ hsettled hok, TSys.States.of_inductive (fun _ => Settled.carries)
      (fun state call after h hcall hstep => settled_step h hcall.1 hcall.2 hstep)
      calls _ hsettled hok⟩
    refine ⟨fun _ _ p hstale => ?_, settled_step h hcall.1 hcall.2 hstep⟩
    rw [h.fresh p] at hstale
    exact absurd hstale (by simp)

end

/-- A drop on `h1` that is released again: no load, no stale lease. -/
theorem leases_agree_iff_release :
    ((lab Unit Unit).withGhost (fun _ => false) outlived).States Carries
      (loadedLab, fun _ => false)
      [.enforce (.apply [dropFirstPort] 0), .enforce (.release (bytes "h1"))] := by
  refine ((leases_agree_iff loadedLab _ loadedLab_init fun call hcall => ?_).mpr ?_).2
  · intro env json request hdispatch
    rw [hdispatch] at hcall
    exact absurd hcall (by simp)
  · exact fun _ _ => ⟨fun _ _ _ _ h => absurd h (by simp), fun _ _ =>
      ⟨fun _ _ _ _ h => absurd h (by simp), trivial⟩⟩

/-- **A lease outlives its topology.** After a drop on `h1` the topology is
loaded again; `h1` is still reported as enforced and has no fault. -/
theorem lease_outlives_topology :
    ¬∀ calls, (∀ call ∈ calls, NoFaultCommand call) →
      ((lab Unit Unit).withGhost (fun _ => false) outlived).States Carries
        (loadedLab, fun _ => false) calls := by
  intro h
  have hrun : (((lab Unit Unit).withGhost (fun _ => false) outlived).exec
      (loadedLab, fun _ => false)
      [.enforce (.apply [dropFirstPort] 0), .dispatch labEnv (loadLab 1)]).map (fun state =>
          (state.1.dataplane.1.isEnforced (bytes "h1"),
            state.1.dataplane.2.portFault (bytes "h1"))) = some (true, none) := by
    decide +kernel
  obtain ⟨final, hexec, hfinal⟩ := Option.map_eq_some_iff.mp hrun
  obtain ⟨henforced, hfault⟩ := Prod.mk.inj hfinal
  obtain ⟨lease, hlease⟩ := Option.isSome_iff_exists.mp henforced
  have hcarries := (h _ fun call hcall => ?_).last hexec (bytes "h1") lease hlease
  · obtain ⟨fault, hshown, _⟩ := hcarries
    exact absurd (hshown.symm.trans hfault) (by simp)
  · intro env json request hdispatch hparse
    simp only [List.mem_cons, List.not_mem_nil, or_false] at hcall
    rcases hcall with rfl | rfl
    · exact absurd hdispatch (by simp)
    · -- The text is a load, which has no fault target.
      obtain ⟨_, rfl⟩ := LabCall.dispatch.inj hdispatch
      have hload : (controlRequestFromJson (loadLab 1)).toOption.map ControlRequest.faultTarget =
          some none := by decide +kernel
      rw [hparse] at hload
      exact Option.some.inj hload

end WireLab
