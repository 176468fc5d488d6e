import WireLab.Logic.Lab

/-!
# What a lease does to the operator's fault

A decision lays its enforcement over the fault the operator configured. Drops
only add to that fault, but a rate limit overwrites its bandwidth: enforcement
tightens exactly as long as no rate limit that takes effect allows more than the
operator's cap or than the lease already does (`enforcement_tightens_iff`).

* `Tight` — what the claim asks of a state, against everything the port's lease
  has imposed so far;
* `CapsNoHigher` — what it takes of a decision;
* `Leased` — the invariant: the port shows its lease over the operator's fault.
-/

namespace WireLab

open Base TopologyController PolicyEnforcer

/-- What happens to a port's lease: single decisions, and releases. -/
inductive LeaseEvent
  | decide (decision : PolicyDecision) (now : Int)
  | releaseExpired (now : Int)
  | release (portId : Bytes)

def LeaseEvent.run (state : PolicyEnforcer × TopologyController) :
    LeaseEvent → PolicyEnforcer × TopologyController
  | .decide decision now => (applyDecision state.1 state.2 now decision).2
  | .releaseExpired now => (state.1.releaseExpired state.2 now).2
  | .release portId => (state.1.release portId state.2).2

/-- A batch of decisions is a run of single ones. -/
theorem apply_eq_decides (decisions : List PolicyDecision) (now : Int)
    (state : PolicyEnforcer × TopologyController) :
    (state.1.apply decisions state.2 now).2 =
      (decisions.map (LeaseEvent.decide · now)).foldl LeaseEvent.run state := by
  induction decisions generalizing state with
  | nil => rfl
  | cons decision decisions ih => exact ih (LeaseEvent.run state (.decide decision now))

/-- The fault lets no frame through. -/
def FaultConfiguration.Drops (fault : FaultConfiguration) : Prop :=
  fault.blackhole = true ∨ fault.isolated = true

/-- A bandwidth is capped by another; zero is no cap. -/
def CappedBy (bandwidth cap : UInt64) : Prop :=
  bandwidth ≠ 0 ∧ bandwidth ≤ cap

/-- A fault is no looser than the operator's. -/
structure FaultConfiguration.NoLooser (fault operator : FaultConfiguration) : Prop where
  drops : operator.Drops → fault.Drops
  latency : operator.latency ≤ fault.latency
  loss : operator.lossBasisPoints ≤ fault.lossBasisPoints
  cap : operator.bandwidthBitsPerSecond ≠ 0 →
    CappedBy fault.bandwidthBitsPerSecond operator.bandwidthBitsPerSecond

/-- A fault in force under a lease of some kind still does what the lease once
imposed: under a rate limit the cap has not risen, and what was dropped is
dropped. -/
def Upholds (fault : FaultConfiguration) (kind : EnforcementKind) (earlier : Imposed) : Prop :=
  match earlier.1 with
  | .none => True
  | .rateLimit =>
      if kind = .rateLimit then CappedBy fault.bandwidthBitsPerSecond earlier.2 else fault.Drops
  | .blackhole => fault.Drops
  | .isolate => fault.Drops

/-- The history variable: what the port's live lease has imposed, latest
first. -/
def imposedSoFar (portId : Bytes) (history : List Imposed)
    (_ : PolicyEnforcer × TopologyController) (_ : LeaseEvent)
    (after : PolicyEnforcer × TopologyController) : List Imposed :=
  match after.1.leases.lookup portId with
  | none => []
  | some lease => lease.imposed :: history

/-- Enforcement around one port, with what its lease has imposed. -/
def tightening (portId : Bytes) : TSys ((PolicyEnforcer × TopologyController) × List Imposed)
    LeaseEvent :=
  TSys.withGhost
    { init := fun state => state.1.leases.lookup portId = none
      step := fun state event => some (event.run state) } [] (imposedSoFar portId)

/-- While the port is leased, the fault in force is no looser than the
operator's, and upholds everything the lease has imposed. -/
def Tight (portId : Bytes) (operator : Option FaultConfiguration)
    (state : (PolicyEnforcer × TopologyController) × List Imposed) : Prop :=
  ∀ lease, state.1.1.leases.lookup portId = some lease →
    ∃ fault, state.1.2.portFault portId = some fault ∧ fault.NoLooser (operator.getD {}) ∧
      ∀ earlier ∈ state.2, Upholds fault lease.action.kind earlier

/-- A rate limit that takes effect on the port (it is leased to nothing else)
allows no more than the operator's cap and the lease's. -/
def CapsNoHigher (portId : Bytes) (operator : Option FaultConfiguration)
    (state : (PolicyEnforcer × TopologyController) × List Imposed) : LeaseEvent → Prop
  | .decide decision _ =>
      Enforceable state.1.1.config state.1.2 decision portId → decision.action = .rateLimit →
      (∀ lease ∈ state.1.1.leases.lookup portId, lease.action.kind = .rateLimit) →
      ((operator.getD {}).bandwidthBitsPerSecond ≠ 0 →
        rateLimitBits state.1.1.config decision ≤ (operator.getD {}).bandwidthBitsPerSecond) ∧
      ∀ lease ∈ state.1.1.leases.lookup portId,
        rateLimitBits state.1.1.config decision ≤ lease.action.rateLimitBitsPerSecond
  | _ => True

/-- An event that does not end the port's lease. -/
def KeepsLease (portId : Bytes) (state : (PolicyEnforcer × TopologyController) × List Imposed)
    (_ : LeaseEvent) (after : (PolicyEnforcer × TopologyController) × List Imposed) : Prop :=
  state.1.1.isEnforced portId = true → after.1.1.isEnforced portId = true

/-! ## What is imposed -/

section
variable {base : FaultConfiguration} {kind : EnforcementKind} {bits : UInt64}

/-- What a rate limit may replace is a rate limit. -/
private theorem eq_rateLimit_of_severity (hnone : kind ≠ .none)
    (hweak : kind.severity ≤ EnforcementKind.rateLimit.severity) : kind = .rateLimit := by
  cases kind with
  | none => exact absurd rfl hnone
  | rateLimit => rfl
  | blackhole => exact absurd hweak (by decide)
  | isolate => exact absurd hweak (by decide)

/-- Only rate limits limit rates. -/
private theorem eq_rateLimit_of_ofAction {action : PolicyAction}
    (h : EnforcementKind.ofAction action = .rateLimit) : action = .rateLimit := by
  cases action with
  | rateLimit => rfl
  | _ => exact absurd h (by decide)

/-- Anything but a rate limit drops. -/
theorem drops_overlay (hnone : kind ≠ .none) (hlimit : kind ≠ .rateLimit) :
    (overlay base kind bits).Drops := by
  cases kind with
  | none => exact absurd rfl hnone
  | rateLimit => exact absurd rfl hlimit
  | blackhole => exact .inl rfl
  | isolate => exact .inr rfl

/-- Laid over a fault, only a rate limit can be looser. -/
theorem noLooser_overlay (base : FaultConfiguration) (kind : EnforcementKind) (bits : UInt64) :
    (overlay base kind bits).NoLooser base ↔
      (kind = .rateLimit → base.bandwidthBitsPerSecond ≠ 0 →
        CappedBy bits base.bandwidthBitsPerSecond) := by
  constructor
  · rintro h rfl hcap
    exact h.cap hcap
  · intro h
    cases kind with
    | rateLimit => exact ⟨id, le_refl _, UInt32.le_refl _, h rfl⟩
    | none => exact ⟨id, le_refl _, UInt32.le_refl _, fun hcap => ⟨hcap, UInt64.le_refl _⟩⟩
    | blackhole =>
        exact ⟨fun _ => .inl rfl, le_refl _, UInt32.le_refl _, fun hcap => ⟨hcap, UInt64.le_refl _⟩⟩
    | isolate =>
        exact ⟨fun _ => .inr rfl, le_refl _, UInt32.le_refl _, fun hcap => ⟨hcap, UInt64.le_refl _⟩⟩

/-- What is imposed in a weaker way is upheld by anything that drops. -/
theorem upholds_of_drops {fault : FaultConfiguration} (hdrops : fault.Drops)
    (hlimit : kind ≠ .rateLimit) (earlier : Imposed) : Upholds fault kind earlier := by
  unfold Upholds
  split
  · trivial
  · rwa [if_neg hlimit]
  · exact hdrops
  · exact hdrops

end

/-- The port shows its lease over the operator's fault, and the lease has never
imposed anything stronger. -/
structure Leased (portId : Bytes) (operator : Option FaultConfiguration)
    (state : (PolicyEnforcer × TopologyController) × List Imposed) (lease : Lease) : Prop where
  shows : state.1.2.portFault portId = some lease.enforced
  kept : lease.kept = operator
  kind : lease.action.kind ≠ .none
  bits : lease.action.kind = .rateLimit → lease.action.rateLimitBitsPerSecond ≠ 0
  now : lease.imposed ∈ state.2
  weaker : ∀ earlier ∈ state.2, earlier.1.severity ≤ lease.action.kind.severity

/-- The invariant of a run: without a lease the port has the operator's fault. -/
structure Overlaid (portId : Bytes) (operator : Option FaultConfiguration)
    (state : (PolicyEnforcer × TopologyController) × List Imposed) : Prop where
  unleased : state.1.1.leases.lookup portId = none →
    state.2 = [] ∧ state.1.2.portFault portId = operator
  leased : ∀ lease, state.1.1.leases.lookup portId = some lease →
    Leased portId operator state lease

section
variable {p : Bytes} {operator : Option FaultConfiguration}
  {state after : (PolicyEnforcer × TopologyController) × List Imposed} {lease : Lease}

theorem Leased.restore (h : Leased p operator state lease) : lease.restore = operator.getD {} := by
  rw [← h.kept, lease.getD_kept]

/-- Only the caps matter: the live one is below the operator's and every earlier
one. -/
private theorem tight_iff (h : Leased p operator state lease)
    (hlease : state.1.1.leases.lookup p = some lease) :
    Tight p operator state ↔
      (lease.action.kind = .rateLimit →
        ((operator.getD {}).bandwidthBitsPerSecond ≠ 0 →
          lease.action.rateLimitBitsPerSecond ≤ (operator.getD {}).bandwidthBitsPerSecond) ∧
        ∀ earlier ∈ state.2, earlier.1 = .rateLimit →
          lease.action.rateLimitBitsPerSecond ≤ earlier.2) := by
  constructor
  · intro htight hlimit
    obtain ⟨fault, hfault, hlooser, hupholds⟩ := htight lease hlease
    obtain rfl := Option.some.inj (h.shows.symm.trans hfault)
    rw [Lease.enforced, h.restore] at hlooser
    refine ⟨fun hcap => ((noLooser_overlay _ _ _).mp hlooser hlimit hcap).2,
      fun earlier hearlier hkind => ?_⟩
    have hupheld := hupholds earlier hearlier
    simp only [Upholds, hkind, hlimit, if_true, Lease.enforced, overlay] at hupheld
    exact hupheld.2
  · intro hcaps live hlive
    obtain rfl := Option.some.inj (hlease.symm.trans hlive)
    refine ⟨lease.enforced, h.shows, ?_, fun earlier hearlier => ?_⟩
    · rw [Lease.enforced, h.restore]
      exact (noLooser_overlay _ _ _).mpr fun hlimit hcap => ⟨h.bits hlimit, (hcaps hlimit).1 hcap⟩
    · by_cases hlimit : lease.action.kind = .rateLimit
      · -- Under a rate limit nothing stronger has been imposed.
        have hweaker := h.weaker earlier hearlier
        rw [hlimit] at hweaker
        unfold Upholds
        split
        · trivial
        · next hkind =>
            rw [if_pos hlimit, Lease.enforced, hlimit]
            exact ⟨h.bits hlimit, (hcaps hlimit).2 earlier hearlier hkind⟩
        · next hkind => simp [hkind, EnforcementKind.severity] at hweaker
        · next hkind => simp [hkind, EnforcementKind.severity] at hweaker
      · exact upholds_of_drops (drops_overlay h.kind hlimit) hlimit earlier

/-- An event that leaves the port alone. -/
structure Untouched (p : Bytes) (state after : (PolicyEnforcer × TopologyController) × List Imposed) :
    Prop where
  lease : after.1.1.leases.lookup p = state.1.1.leases.lookup p
  fault : after.1.2.portFault p = state.1.2.portFault p
  history : after.2 = match state.1.1.leases.lookup p with
    | none => []
    | some lease => lease.imposed :: state.2

private theorem Untouched.overlaid (h : Untouched p state after) (hstate : Overlaid p operator state) :
    Overlaid p operator after where
  unleased hnone := by
    rw [h.lease] at hnone
    refine ⟨?_, h.fault.trans (hstate.unleased hnone).2⟩
    rw [h.history, hnone]
  leased lease hlease := by
    rw [h.lease] at hlease
    have hleased := hstate.leased lease hlease
    have hhistory : after.2 = lease.imposed :: state.2 := by rw [h.history, hlease]
    refine ⟨h.fault.trans hleased.shows, hleased.kept, hleased.kind, hleased.bits, ?_, ?_⟩
    · simp [hhistory]
    · intro earlier hearlier
      rw [hhistory] at hearlier
      rcases List.mem_cons.mp hearlier with rfl | hold
      · exact le_refl _
      · exact hleased.weaker earlier hold

private theorem Untouched.tight (h : Untouched p state after) (hstate : Overlaid p operator state)
    (htight : Tight p operator state) : Tight p operator after := by
  intro lease hlease
  rw [h.lease] at hlease
  have hleased := hstate.leased lease hlease
  obtain ⟨fault, hfault, hlooser, hupholds⟩ := htight lease hlease
  refine ⟨fault, h.fault.trans hfault, hlooser, fun earlier hearlier => ?_⟩
  rw [h.history, hlease] at hearlier
  rcases List.mem_cons.mp hearlier with rfl | hold
  · exact hupholds _ hleased.now
  · exact hupholds earlier hold

/-! ## One event -/

/-- A decision on the port: its lease imposes what the decision asks for, weighed
against what the lease imposed before. -/
structure Granted (p : Bytes) (operator : Option FaultConfiguration)
    (state after : (PolicyEnforcer × TopologyController) × List Imposed)
    (decision : PolicyDecision) (lease : Lease) : Prop where
  asked : Enforceable state.1.1.config state.1.2 decision p
  leased : after.1.1.leases.lookup p = some lease
  shows : after.1.2.portFault p = some lease.enforced
  kept : lease.kept = operator
  kind : lease.action.kind ≠ .none
  imposed : lease.imposed = effective (state.1.1.leases.lookup p)
    (EnforcementKind.ofAction decision.action)
    (if EnforcementKind.ofAction decision.action = .rateLimit then
      rateLimitBits state.1.1.config decision else 0)
  history : after.2 = lease.imposed :: state.2

private theorem tightening_step {event : LeaseEvent} :
    (tightening p).step state event = some after ↔
      after = (event.run state.1, imposedSoFar p state.2 state.1 event (event.run state.1)) := by
  obtain ⟨dataplane, history⟩ := after
  rw [tightening, TSys.withGhost_step, Prod.mk.injEq]
  constructor
  · rintro ⟨hrun, hnote⟩
    obtain rfl := Option.some.inj hrun
    exact ⟨rfl, hnote⟩
  · rintro ⟨rfl, hnote⟩
    exact ⟨rfl, hnote⟩

/-- An event after which the port's lease and fault are as before. -/
private theorem untouched_of {event : LeaseEvent}
    (hstep : (tightening p).step state event = some after)
    (hlease : (event.run state.1).1.leases.lookup p = state.1.1.leases.lookup p)
    (hfault : (event.run state.1).2.portFault p = state.1.2.portFault p) :
    Untouched p state after := by
  obtain rfl := tightening_step.mp hstep
  refine ⟨hlease, hfault, ?_⟩
  simp only [imposedSoFar, hlease]

/-- Releases that keep the port's lease leave it alone. -/
private theorem untouched_releases {event : LeaseEvent}
    (hevent : ∀ decision now, event ≠ .decide decision now)
    (hkeeps : KeepsLease p state event after)
    (hstep : (tightening p).step state event = some after) : Untouched p state after := by
  have hafter : after.1 = event.run state.1 := by rw [tightening_step.mp hstep]
  cases event with
  | decide decision now => exact absurd rfl (hevent decision now)
  | releaseExpired now =>
      have hlookup : ((LeaseEvent.releaseExpired now).run state.1).1.leases.lookup p =
          state.1.1.leases.lookup p := by
        cases hold : state.1.1.leases.lookup p with
        | none =>
            refine Option.eq_none_iff_forall_ne_some.mpr fun lease hlease => ?_
            exact absurd (hold.symm.trans (lookup_releaseExpired.mp hlease).1) (by simp)
        | some lease =>
            have hlives := hkeeps (by rw [isEnforced, hold]; rfl)
            rw [hafter] at hlives
            obtain ⟨lease', hlease'⟩ := Option.isSome_iff_exists.mp hlives
            rw [hlease', ← hold]
            exact (lookup_releaseExpired.mp hlease').1.symm
      refine untouched_of hstep hlookup ?_
      -- A port that is answered has lost its lease.
      have hfault := faultAt_releaseExpired state.1.1 state.1.2 now (.port p) fun action haction hp => ?_
      · exact hfault
      · have hreleased : p ∈ (state.1.1.releaseExpired state.1.2 now).1.map EnforcementAction.portId :=
          List.mem_map.mpr ⟨action, haction, (FaultKey.port.inj hp).symm⟩
        obtain ⟨lease, hlease, hend⟩ := mem_released.mp hreleased
        have hlive := (lookup_releaseExpired.mp (hlookup.trans hlease)).2
        omega
  | release q =>
      by_cases hq : p = q
      · subst hq
        cases hold : state.1.1.leases.lookup p with
        | none =>
            have hsame : LeaseEvent.run state.1 (.release p) = state.1 := releasePort_unleased hold
            exact untouched_of hstep (by rw [hsame]) (by rw [hsame])
        | some lease =>
            have hlives := hkeeps (by rw [isEnforced, hold]; rfl)
            rw [hafter, isEnforced] at hlives
            have hgone : (LeaseEvent.run state.1 (.release p)).1.leases.lookup p = none :=
              (lookup_releasePort state.1 p p).trans (if_pos rfl)
            rw [hgone] at hlives
            exact absurd hlives (by simp)
      · refine untouched_of hstep ((lookup_releasePort state.1 q p).trans (if_neg hq)) ?_
        have hother : FaultKey.port p ≠ .port q := by simpa using hq
        exact faultAt_releasePort state.1 hother

/-- A decision leaves the port alone, or grants its lease. -/
private theorem decide_cases {decision : PolicyDecision} {now : Int}
    (hstate : Overlaid p operator state)
    (hstep : (tightening p).step state (.decide decision now) = some after) :
    Untouched p state after ∧ ¬Enforceable state.1.1.config state.1.2 decision p ∨
      ∃ lease, Granted p operator state after decision lease := by
  have hafter := tightening_step.mp hstep
  by_cases hasked : Enforceable state.1.1.config state.1.2 decision p
  · obtain ⟨lease, granted, happly, henforces, himposed, hstrong, _, _⟩ :=
      applyDecision_imposes now hasked
    have hrun : LeaseEvent.run state.1 (.decide decision now) = granted := congrArg Prod.snd happly
    have hlease : after.1.1.leases.lookup p = some lease := by
      rw [hafter, hrun, henforces.leases, if_pos rfl]
    refine .inr ⟨lease, hasked, hlease, ?_, ?_, fun hnone => ?_, himposed, ?_⟩
    · rw [hafter, hrun]
      exact (henforces.sets.fault (.port p)).trans (if_pos rfl)
    · rw [henforces.kept]
      cases hold : state.1.1.leases.lookup p with
      | none => exact (operatorFault_unleased hold).trans (hstate.unleased hold).2
      | some old => exact (operatorFault_leased hold).trans (hstate.leased old hold).kept
    · -- Something was asked for, and it is enforced at least as strongly.
      have hkind := hasked.kind
      rw [hnone] at hstrong
      cases hof : EnforcementKind.ofAction decision.action <;>
        simp_all [EnforcementKind.severity]
    · rw [hafter] at hlease ⊢
      simp only [imposedSoFar, hlease]
  · refine .inl ⟨?_, hasked⟩
    rcases applyDecision_cases state.1.1 state.1.2 now decision with
      ⟨action, happly, _⟩ | ⟨q, lease, granted, happly, hq, henforces, _⟩
    · have hrun : LeaseEvent.run state.1 (.decide decision now) = state.1 :=
        congrArg Prod.snd happly
      exact untouched_of hstep (by rw [hrun]) (by rw [hrun])
    · have hrun : LeaseEvent.run state.1 (.decide decision now) = granted :=
        congrArg Prod.snd happly
      have hother : p ≠ q := fun hp => hasked (hp ▸ hq)
      refine untouched_of hstep ?_ ?_
      · rw [hrun, henforces.leases, if_neg hother]
      · rw [hrun]
        exact (henforces.sets.fault (.port p)).trans (if_neg (by simpa using hother))

/-- A decision takes effect, or is weaker than the live lease and changes nothing
of what is imposed. -/
private theorem Granted.effect {decision : PolicyDecision} (h : Granted p operator state after decision lease) :
    (lease.action.kind = EnforcementKind.ofAction decision.action ∧
      (decision.action = .rateLimit → lease.action.rateLimitBitsPerSecond =
        rateLimitBits state.1.1.config decision) ∧
      ∀ old, state.1.1.leases.lookup p = some old →
        old.action.kind.severity ≤ lease.action.kind.severity) ∨
    ∃ old, state.1.1.leases.lookup p = some old ∧ lease.imposed = old.imposed ∧
      (EnforcementKind.ofAction decision.action).severity < old.action.kind.severity := by
  have himposed := h.imposed
  have hrate : decision.action = .rateLimit →
      EnforcementKind.ofAction decision.action = .rateLimit := fun hlimit => by rw [hlimit]; rfl
  cases hold : state.1.1.leases.lookup p with
  | none =>
      rw [hold] at himposed
      obtain ⟨hkind, hbits⟩ := Prod.mk.inj himposed
      refine .inl ⟨hkind, fun hlimit => ?_, fun old hsome => absurd hsome (by simp)⟩
      rw [hbits, if_pos (hrate hlimit), if_pos (hrate hlimit)]
  | some old =>
      rw [hold] at himposed
      simp only [effective] at himposed
      split at himposed
      · next hstrong =>
          obtain ⟨hkind, hbits⟩ := Prod.mk.inj himposed
          refine .inl ⟨hkind, fun hlimit => ?_, fun old' hsome => ?_⟩
          · rw [hbits, if_pos (hrate hlimit), if_pos (hrate hlimit)]
          · obtain rfl := Option.some.inj hsome
            rw [hkind]
            exact hstrong
      · next hweak => exact .inr ⟨old, rfl, himposed, not_le.mp hweak⟩

private theorem Granted.overlaid {decision : PolicyDecision} (hstate : Overlaid p operator state)
    (h : Granted p operator state after decision lease) : Overlaid p operator after where
  unleased hnone := absurd (h.leased.symm.trans hnone) (by simp)
  leased live hlive := by
    obtain rfl := Option.some.inj (h.leased.symm.trans hlive)
    refine ⟨h.shows, h.kept, h.kind, fun hlimit => ?_, by simp [h.history], fun earlier hearlier => ?_⟩
    · rcases h.effect with ⟨hkind, hbits, _⟩ | ⟨old, hold, himposed, _⟩
      · rw [hbits (eq_rateLimit_of_ofAction (hkind.symm.trans hlimit))]
        exact h.asked.rate (hkind.symm.trans hlimit)
      · obtain ⟨hkind, hbits⟩ := Prod.mk.inj himposed
        rw [hbits]
        exact (hstate.leased old hold).bits (hkind.symm.trans hlimit)
    · rw [h.history] at hearlier
      rcases List.mem_cons.mp hearlier with rfl | hpast
      · exact le_refl _
      · cases hold : state.1.1.leases.lookup p with
        | none =>
            rw [(hstate.unleased hold).1] at hpast
            exact absurd hpast (by simp)
        | some old =>
            have hweaker := (hstate.leased old hold).weaker earlier hpast
            rcases h.effect with ⟨_, _, hstrong⟩ | ⟨old', hold', himposed, _⟩
            · exact hweaker.trans (hstrong old hold)
            · obtain rfl := Option.some.inj (hold.symm.trans hold')
              rwa [show lease.action.kind = old.action.kind from (Prod.mk.inj himposed).1]

/-- **A granted decision keeps the port tight exactly when its cap, if it sets
one, is no higher** than the operator's and the lease's. -/
private theorem Granted.tight_iff {decision : PolicyDecision} {now : Int}
    (hstate : Overlaid p operator state) (htight : Tight p operator state)
    (h : Granted p operator state after decision lease) :
    Tight p operator after ↔ CapsNoHigher p operator state (.decide decision now) := by
  have hleased := (h.overlaid hstate).leased lease h.leased
  rw [WireLab.tight_iff hleased h.leased]
  simp only [h.history, List.mem_cons, forall_eq_or_imp]
  rcases h.effect with ⟨hkind, hbits, hstrong⟩ | ⟨old, hold, himposed, hweak⟩
  · constructor
    · intro hcaps _ hlimit _
      have hlimited : lease.action.kind = .rateLimit := by rw [hkind, hlimit]; rfl
      obtain ⟨hoperator, _, hearlier⟩ := hcaps hlimited
      rw [hbits hlimit] at hoperator hearlier
      refine ⟨hoperator, fun old hold => ?_⟩
      have hwas := hstate.leased old hold
      have holdkind : old.action.kind = .rateLimit :=
        eq_rateLimit_of_severity hwas.kind (hlimited ▸ hstrong old hold)
      exact hearlier old.imposed hwas.now holdkind
    · intro hno hlimited
      have haction := eq_rateLimit_of_ofAction (hkind.symm.trans hlimited)
      -- A lease that lets a rate limit take effect is a rate limit.
      have honly : ∀ old, state.1.1.leases.lookup p = some old →
          old.action.kind = .rateLimit := fun old hold =>
        eq_rateLimit_of_severity (hstate.leased old hold).kind (hlimited ▸ hstrong old hold)
      obtain ⟨hoperator, hlease⟩ := hno h.asked haction honly
      rw [hbits haction]
      refine ⟨hoperator, fun _ => by rw [← hbits haction]; exact UInt64.le_refl _,
        fun earlier hpast hlimit => ?_⟩
      cases hold : state.1.1.leases.lookup p with
      | none =>
          rw [(hstate.unleased hold).1] at hpast
          exact absurd hpast (by simp)
      | some old =>
          have hwas := (WireLab.tight_iff (hstate.leased old hold) hold).mp htight (honly old hold)
          exact UInt64.le_trans (hlease old hold) (hwas.2 earlier hpast hlimit)
  · -- Weaker than the live lease: nothing imposed changes.
    have hwas := hstate.leased old hold
    obtain ⟨hkind, hbits⟩ := Prod.mk.inj himposed
    constructor
    · intro _ _ hlimit honly
      have holdkind := honly old hold
      rw [hlimit, holdkind] at hweak
      exact absurd hweak (by decide)
    · intro _ hlimited
      have hcaps := (WireLab.tight_iff hwas hold).mp htight (hkind.symm.trans hlimited)
      rw [hbits]
      exact ⟨hcaps.1, fun _ => by rw [himposed]; exact UInt64.le_refl _, hcaps.2⟩

private theorem overlaid_step {event : LeaseEvent} (hstate : Overlaid p operator state)
    (hkeeps : KeepsLease p state event after)
    (hstep : (tightening p).step state event = some after) : Overlaid p operator after := by
  cases event with
  | decide decision now =>
      rcases decide_cases hstate hstep with ⟨huntouched, _⟩ | ⟨lease, hgranted⟩
      · exact huntouched.overlaid hstate
      · exact hgranted.overlaid hstate
  | releaseExpired now =>
      exact (untouched_releases (by simp) hkeeps hstep).overlaid hstate
  | release q => exact (untouched_releases (by simp) hkeeps hstep).overlaid hstate

private theorem tight_step {event : LeaseEvent} (hstate : Overlaid p operator state)
    (htight : Tight p operator state) (hkeeps : KeepsLease p state event after)
    (hstep : (tightening p).step state event = some after) :
    Tight p operator after ↔ CapsNoHigher p operator state event := by
  cases event with
  | decide decision now =>
      rcases decide_cases hstate hstep with ⟨huntouched, hnot⟩ | ⟨lease, hgranted⟩
      · exact ⟨fun _ hasked => absurd hasked hnot, fun _ => huntouched.tight hstate htight⟩
      · exact hgranted.tight_iff hstate htight
  | releaseExpired now =>
      have huntouched := untouched_releases (by simp) hkeeps hstep
      exact ⟨fun _ => trivial, fun _ => huntouched.tight hstate htight⟩
  | release q =>
      have huntouched := untouched_releases (by simp) hkeeps hstep
      exact ⟨fun _ => trivial, fun _ => huntouched.tight hstate htight⟩

end

/-- **Enforcement only tightens exactly when no rate limit raises a cap.** From a
port without a lease, over any decisions and releases that do not end the lease
once it has begun: the fault in force is in every state no looser than the
operator's from before and upholds everything the lease has imposed, if and only
if every rate limit that takes effect allows no more than the operator's cap and
than the lease's current one. -/
theorem enforcement_tightens_iff (portId : Bytes) (start : PolicyEnforcer × TopologyController)
    (events : List LeaseEvent) (hstart : start.1.leases.lookup portId = none)
    (hkeeps : (tightening portId).Steps (KeepsLease portId) (start, []) events) :
    (tightening portId).States (Tight portId (start.2.portFault portId)) (start, []) events ↔
      (tightening portId).Steps
        (fun state event _ => CapsNoHigher portId (start.2.portFault portId) state event)
        (start, []) events := by
  have hoverlaid : ∀ state event after, Overlaid portId (start.2.portFault portId) state →
      KeepsLease portId state event after → (tightening portId).step state event = some after →
      Overlaid portId (start.2.portFault portId) after := fun _ _ _ => overlaid_step
  refine TSys.States.iff_admitted hoverlaid (fun _ _ _ => tight_step) events
    (start, []) ⟨fun _ => ⟨rfl, rfl⟩, fun lease hlease => ?_⟩ (fun lease hlease => ?_) hkeeps
  · exact absurd (hstart.symm.trans hlease) (by simp)
  · exact absurd (hstart.symm.trans hlease) (by simp)

/-- A limit on the first port, for frames of 64 bytes. -/
def limitTo (packetsPerSecond : UInt64) : PolicyDecision :=
  { ruleName := bytes "limit", action := .rateLimit, rateLimitPacketsPerSecond := packetsPerSecond
    anomaly := { ingressPort := 0 } }

/-- A lab whose operator has capped `h1` at some bandwidth. -/
def cappedLab (bandwidth : UInt64) : PolicyEnforcer × TopologyController :=
  ({}, match (({} : TopologyController).load labTopology).setPortFault (bytes "h1")
      { bandwidthBitsPerSecond := bandwidth } with
    | .ok controller => controller
    | .error _ => {})

/-- A port capped at a million bits a second, limited to a thousand and then to
five hundred packets a second: each is less than what stood before. -/
theorem enforcement_tightens_iff_cappedLab :
    (tightening (bytes "h1")).States
      (Tight (bytes "h1") ((cappedLab 1000000).2.portFault (bytes "h1"))) (cappedLab 1000000, [])
      [.decide (limitTo 1000) 0, .decide (limitTo 500) 1] := by
  refine (enforcement_tightens_iff (bytes "h1") (cappedLab 1000000)
    [.decide (limitTo 1000) 0, .decide (limitTo 500) 1] (by decide +kernel)
    fun first hfirst => ⟨?_, fun second hsecond => ⟨?_, trivial⟩⟩).mpr
    fun first hfirst => ⟨fun _ _ _ => ⟨fun _ => ?_, ?_⟩, fun second hsecond =>
      ⟨fun _ _ _ => ⟨fun _ => ?_, ?_⟩, trivial⟩⟩
  · exact fun hleased => absurd hleased (by decide +kernel)
  · intro _
    rw [tightening_step.mp hsecond, tightening_step.mp hfirst]
    decide +kernel
  · decide +kernel
  · decide +kernel
  · rw [tightening_step.mp hfirst]
    decide +kernel
  · rw [tightening_step.mp hfirst]
    decide +kernel

/-- A port that its operator has capped at a thousand bits a second, limited to a
thousand packets a second, may send half a million bits a second. -/
theorem rate_limit_raises_cap :
    ¬(tightening (bytes "h1")).States
      (Tight (bytes "h1") ((cappedLab 1000).2.portFault (bytes "h1"))) (cappedLab 1000, [])
      [.decide (limitTo 1000) 0] := by
  intro h
  have htight := h.2 _ rfl
  have hleased : ((LeaseEvent.decide (limitTo 1000) 0).run (cappedLab 1000)).1.isEnforced
      (bytes "h1") = true := by decide +kernel
  have hfault : ((LeaseEvent.decide (limitTo 1000) 0).run (cappedLab 1000)).2.portFault
      (bytes "h1") = some { bandwidthBitsPerSecond := 512000 } := by decide +kernel
  obtain ⟨lease, hlease⟩ := Option.isSome_iff_exists.mp hleased
  obtain ⟨fault, hshown, hlooser, _⟩ := htight lease hlease
  obtain rfl := Option.some.inj (hfault.symm.trans hshown)
  have hoperator : (cappedLab 1000).2.portFault (bytes "h1") =
      some { bandwidthBitsPerSecond := 1000 } := by decide +kernel
  rw [hoperator] at hlooser
  exact absurd (hlooser.cap (by decide)).2 (by decide)

end WireLab
