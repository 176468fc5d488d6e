import WireLab.Logic.Lab

/-!
# Leases only grow

The enforcer as a system of its own: every call brings its decisions, its clock
reading and whatever controller it is made against. While a port's lease lives
it never gets weaker and never ends sooner, and after an evaluation of a
pipeline that enforces, every lease ends in the future.
-/

namespace WireLab

open Base PolicyEnforcer

/-- The calls that grant, extend and end leases. -/
inductive LeasingCall
  | apply (decisions : List PolicyDecision) (controller : TopologyController) (now : Int)
  | releaseExpired (controller : TopologyController) (now : Int)

/-- The enforcer, over calls in any order. -/
def leasing : TSys PolicyEnforcer LeasingCall where
  init enforcer := enforcer.leases = ∅
  step enforcer
    | .apply decisions controller now => some (enforcer.apply decisions controller now).2.1
    | .releaseExpired controller now => some (enforcer.releaseExpired controller now).2.1

section
variable {enforcer after : PolicyEnforcer} {call : LeasingCall} {p : Bytes} {old new : Lease}

/-- A call that leaves a lease on a leased port leaves one that outlasts it. -/
private theorem outlasts_step (hstep : leasing.step enforcer call = some after)
    (hold : enforcer.leases.lookup p = some old) (hnew : after.leases.lookup p = some new) :
    new.Outlasts old := by
  cases call with
  | apply decisions controller now =>
      obtain rfl := Option.some.inj hstep
      obtain ⟨lease, hlease, houtlasts⟩ :=
        apply_outlasts controller now decisions hold
      rwa [← Option.some.inj (hlease.symm.trans hnew)]
  | releaseExpired controller now =>
      -- What is not released stays as it is.
      obtain rfl := Option.some.inj hstep
      have hkept := (lookup_releaseExpired.mp hnew).1
      rw [Option.some.inj (hkept.symm.trans hold)]
      exact .refl old

/-- A lease enforces something. -/
def Effective (enforcer : PolicyEnforcer) : Prop :=
  ∀ p lease, enforcer.leases.lookup p = some lease → lease.action.kind ≠ .none

private theorem effective_step (h : Effective enforcer)
    (hstep : leasing.step enforcer call = some after) : Effective after := by
  intro p lease hlease
  cases call with
  | apply decisions controller now =>
      obtain rfl := Option.some.inj hstep
      rcases apply_granted decisions hlease with hold | ⟨hkind, _⟩
      · exact h p lease hold
      · exact hkind
  | releaseExpired controller now =>
      obtain rfl := Option.some.inj hstep
      exact h p lease (lookup_releaseExpired.mp hlease).1

private theorem leasing_effective : leasing.Invariant Effective := by
  refine TSys.Inductive.invariant ⟨fun enforcer hinit p lease hlease => ?_, fun _ _ _ => effective_step⟩
  rw [show enforcer.leases = ∅ from hinit, Dict.lookup_empty] at hlease
  exact absurd hlease (by simp)

/-- Between any two moments of a lease's life the later grant outlasts the
earlier one. -/
private theorem outlasts_run {calls : List LeasingCall}
    (hlives : leasing.States (fun e => e.isEnforced p = true) enforcer calls)
    (hrun : leasing.exec enforcer calls = some after)
    (hold : enforcer.leases.lookup p = some old) (hnew : after.leases.lookup p = some new) :
    new.Outlasts old := by
  induction calls generalizing enforcer old with
  | nil =>
      obtain rfl := Option.some.inj hrun
      rw [Option.some.inj (hnew.symm.trans hold)]
      exact .refl old
  | cons call calls ih =>
      obtain ⟨_, hrest⟩ := hlives
      obtain ⟨next, hstep, hrun⟩ := Option.bind_eq_some_iff.mp hrun
      obtain ⟨lease, hlease⟩ := Option.isSome_iff_exists.mp (hrest next hstep).head
      exact (ih (hrest next hstep) hrun hlease).trans (outlasts_step hstep hold hlease)

end

/-- The three durations are positive. -/
def PolicyEnforcerConfig.Lasting (config : PolicyEnforcerConfig) : Prop :=
  0 < config.rateLimitLease ∧ 0 < config.dropLease ∧ 0 < config.quarantineLease

instance (config : PolicyEnforcerConfig) : Decidable config.Lasting :=
  inferInstanceAs (Decidable (_ ∧ _ ∧ _))

private theorem leaseFor_pos {config : PolicyEnforcerConfig} (h : config.Lasting)
    {kind : EnforcementKind} (hkind : kind ≠ .none) : 0 < leaseFor config kind := by
  obtain ⟨hlimit, hdrop, hquarantine⟩ := h
  cases kind with
  | none => exact absurd rfl hkind
  | rateLimit => exact hlimit
  | blackhole => exact hdrop
  | isolate => exact hquarantine

/-- Every lease that is left after an attached evaluation ends later. -/
private theorem evaluate_live {pipeline after : AnalysisPipeline}
    {controller controller' : TopologyController} {batch : AnalysisBatch} {timestampNs : Nat}
    {now : Int} {outcome : AnalysisOutcome} (hattached : pipeline.attached = true)
    (hlasting : pipeline.enforcer.config.Lasting)
    (h : pipeline.evaluate controller batch timestampNs now = some (outcome, after, controller'))
    {p : Bytes} {lease : Lease} (hlease : after.enforcer.leases.lookup p = some lease) :
    now < lease.action.expiresAt := by
  obtain ⟨_, ⟨hdetached, _⟩ | ⟨_, enforcer, middle, hreleases, happlies⟩⟩ :=
    AnalysisPipeline.evaluate_spec h
  · exact absurd (hattached.symm.trans hdetached) (by simp)
  · have hafter : after.enforcer = (enforcer.apply outcome.decisions middle now).2.1 := by
      rw [happlies]
    have henforcer : enforcer = (pipeline.enforcer.releaseExpired controller now).2.1 := by
      rw [hreleases]
    rw [hafter] at hlease
    rcases apply_granted outcome.decisions hlease with hold | ⟨hkind, hlong⟩
    · -- Not granted now, but not released either.
      rw [henforcer] at hold
      exact (lookup_releaseExpired.mp hold).2
    · have hconfig : enforcer.config = pipeline.enforcer.config := by
        rw [henforcer, releaseExpired_config]
      have hpos := leaseFor_pos (hconfig ▸ hlasting) hkind
      omega

/-- **Leases only grow stronger and longer while they live.** No lease of a
reachable enforcer enforces nothing; over any run of `apply` and
`release_expired` through which a port stays leased, its lease ends as strong
and as late as it began; and after every evaluation of an attached pipeline with
positive lease durations every lease ends strictly later than that call. -/
theorem leases_only_grow :
    (∀ enforcer p lease, leasing.Reachable enforcer → enforcer.leases.lookup p = some lease →
      lease.action.kind ≠ .none) ∧
    (∀ enforcer after p calls old new,
      leasing.States (fun e => e.isEnforced p = true) enforcer calls →
      leasing.exec enforcer calls = some after →
      enforcer.leases.lookup p = some old → after.leases.lookup p = some new →
      old.action.kind.severity ≤ new.action.kind.severity ∧
        old.action.expiresAt ≤ new.action.expiresAt) ∧
    (∀ (pipeline : AnalysisPipeline) controller batch timestampNs now outcome after controller',
      pipeline.attached = true → pipeline.enforcer.config.Lasting →
      pipeline.evaluate controller batch timestampNs now = some (outcome, after, controller') →
      ∀ p lease, after.enforcer.leases.lookup p = some lease →
        now < lease.action.expiresAt) := by
  refine ⟨fun enforcer p lease hreach => leasing_effective enforcer hreach p lease,
    fun enforcer after p calls old new hlives hrun hold hnew => ?_,
    fun pipeline controller batch timestampNs now outcome after controller' hattached hlasting h
      p lease hlease => ?_⟩
  · have houtlasts := outlasts_run hlives hrun hold hnew
    exact ⟨houtlasts.severity, houtlasts.expiresAt⟩
  · exact evaluate_live hattached hlasting h hlease

/-- A pipeline whose first port is dropped for five seconds, attached. -/
def droppingPipeline : AnalysisPipeline where
  enforcer := ((EnforcementCall.apply [dropFirstPort] 0).run
    ({}, ({} : TopologyController).load labTopology)).1
  attached := true

/-- The first port again, to be limited to a thousand packets a second. -/
def limitOnePort : PolicyDecision :=
  { ruleName := bytes "limit", action := .rateLimit, rateLimitPacketsPerSecond := 1000
    anomaly := { ingressPort := 0 } }

/-- The drop lasts through a weaker decision a second later, ends no earlier
for it, and is live when a batch is evaluated three seconds later. -/
theorem leases_only_grow_droppingPipeline :
    (∀ lease, droppingPipeline.enforcer.leases.lookup (bytes "h1") = some lease →
      lease.action.kind ≠ .none) ∧
    (∀ old new, droppingPipeline.enforcer.leases.lookup (bytes "h1") = some old →
      (droppingPipeline.enforcer.apply [limitOnePort]
        (({} : TopologyController).load labTopology) 1000000000).2.1.leases.lookup (bytes "h1") =
        some new → old.action.expiresAt ≤ new.action.expiresAt) ∧
    (∀ outcome after controller', droppingPipeline.evaluate (({} : TopologyController).load labTopology)
        {} 0 4000000000 = some (outcome, after, controller') →
      ∀ p lease, after.enforcer.leases.lookup p = some lease →
        4000000000 < lease.action.expiresAt) := by
  have hreach : leasing.Reachable droppingPipeline.enforcer :=
    .step (a := .apply [dropFirstPort] (({} : TopologyController).load labTopology) 0)
      (.init (show leasing.init {} from rfl)) rfl
  refine ⟨fun lease => leases_only_grow.1 _ _ lease hreach, fun old new hold hnew => ?_,
    fun outcome after controller' => leases_only_grow.2.2 droppingPipeline _ {} 0 4000000000
      outcome after controller' rfl (by decide +kernel)⟩
  refine (leases_only_grow.2.1 droppingPipeline.enforcer _ (bytes "h1")
    [.apply [limitOnePort] (({} : TopologyController).load labTopology) 1000000000] old new
    ⟨by decide +kernel, fun after hafter => ?_⟩ rfl hold hnew).2
  obtain rfl := Option.some.inj hafter
  decide +kernel

/-- A pipeline that has been detached neither ends its leases nor extends them:
the drop is still held a second after it ran out. -/
theorem detached_lease_overruns :
    ∃ out, droppingPipeline.detach.evaluate (({} : TopologyController).load labTopology) {} 0
        6000000000 = some out ∧
      droppingPipeline.detach.enforcer.config.Lasting ∧
      (out.2.1.enforcer.leases.lookup (bytes "h1")).any
        (fun lease => lease.action.expiresAt ≤ 6000000000) = true := by
  obtain ⟨out, hout⟩ := AnalysisPipeline.evaluate_returns droppingPipeline.detach
    (({} : TopologyController).load labTopology) {} 0 6000000000
  refine ⟨out, hout, by decide +kernel, ?_⟩
  obtain ⟨outcome, after, controller'⟩ := out
  obtain ⟨_, ⟨_, _, _, hsame, _⟩ | ⟨hattached, _⟩⟩ := AnalysisPipeline.evaluate_spec hout
  · rw [hsame]
    decide +kernel
  · exact absurd hattached (by decide)

end WireLab
