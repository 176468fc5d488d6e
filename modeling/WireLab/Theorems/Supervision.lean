import WireLab.Logic.Lab
import WireLab.Logic.SupervisorCalls

/-!
# Blocking the contained sender

The supervisor judges a sender's frames by the port it stored when it first saw
the sender. A policy decision resolves the sender's ingress number on the
topology that is loaded when it is made. Without operator faults every fault is
a lease's, so the sender that is contained is the one that is blocked in every
run in which the two ports agree whenever a frame is judged.
-/

namespace WireLab

open Base TopologyController PolicyEnforcer

/-! ## The system -/

/-- The calls on a supervisor, and loads of a topology between them. `loads` are
the topologies that the requests served by a tick load. -/
inductive SwitchCall
  | load (topology : Topology)
  | tick (now : Int) (loads : List Topology)
  | inspect (frameData : Bytes) (sender : Endpoint) (arrival : Int) (loads : List Topology)

/-- A supervisor and what its last call returned: the decision about a frame,
with its sender's ingress number, and what was analysed. -/
structure Supervised (α : Type) where
  supervisor : SwitchSupervisor α
  judged : Option (UInt32 × FaultDecision) := none
  outcome : TickOutcome := {}

def loadAll (loads : List Topology) (controller : TopologyController) : TopologyController :=
  loads.foldl TopologyController.load controller

/-- Any calls in any order, from an attached pipeline without leases on a
controller without port faults. -/
def supervising {α : Type} (analyzer : PacketAnalyzer α) : TSys (Supervised α) SwitchCall where
  init s := s.supervisor.pipeline.attached = true ∧
    s.supervisor.pipeline.enforcer.leases = ∅ ∧
    (∀ p, s.supervisor.controller.portFault p = none) ∧ s.judged = none
  step s
    | .load topology => some
        { supervisor :=
            { s.supervisor with controller := s.supervisor.controller.load topology } }
    | .tick now loads =>
        (s.supervisor.tick analyzer (loadAll loads) now).map fun out =>
          { supervisor := out.2, outcome := out.1 }
    | .inspect frameData sender arrival loads =>
        (s.supervisor.inspect analyzer (loadAll loads) frameData sender arrival).map fun out =>
          { supervisor := out.2.2
            judged := some ((s.supervisor.bind sender).1.ingressPort, out.1)
            outcome := out.2.1 }

/-- The topologies that a call loads: the control plane is served only by a tick
and only if a server is attached. -/
def SwitchCall.served {α : Type} (supervisor : SwitchSupervisor α) : SwitchCall → List Topology
  | .load topology => [topology]
  | .tick _ loads => if supervisor.controlled then loads else []
  | .inspect frameData sender _ loads =>
      if supervisor.controlled && (supervisor.record frameData sender).2.full then loads else []

/-! ## Who is contained -/

/-- The history variable: for an ingress number, the port that holds a live drop
or quarantine lease for an anomaly with that number. -/
abbrev Held := UInt32 → Option Bytes

/-- A decision to drop or quarantine that was enforced holds its sender. -/
def Held.answer (held : Held) (answer : PolicyDecision × EnforcementAction) : Held :=
  if (answer.1.action = .drop ∨ answer.1.action = .quarantine) ∧
      (answer.2.outcome = .applied ∨ answer.2.outcome = .extended) then
    Function.update held answer.1.anomaly.ingressPort (some answer.2.portId)
  else held

/-- An analysis ends leases, then decides. -/
def Held.analysed (held : Held) (outcome : AnalysisOutcome) : Held :=
  (outcome.decisions.zip outcome.enforced).foldl Held.answer fun ingressPort =>
    (held ingressPort).filter fun p => p ∉ outcome.released.map EnforcementAction.portId

/-- A load ends what was held. -/
def Held.after (held : Held) (loads : List Topology) (analysis : Option AnalysisOutcome) : Held :=
  let held := if loads.isEmpty then held else fun _ => none
  match analysis with
  | none => held
  | some outcome => held.analysed outcome

def Held.note {α : Type} (held : Held) (s : Supervised α) (call : SwitchCall)
    (s' : Supervised α) : Held :=
  held.after (call.served s.supervisor) s'.outcome.analysis

/-- A frame of a held sender was dropped, and a frame was not dropped whose
sender's number has a port without a lease. -/
def Blocks {α : Type} (state : Supervised α × Held) : Prop :=
  ∀ ingressPort decision, state.1.judged = some (ingressPort, decision) →
    (∀ p, state.2 ingressPort = some p → decision.dropped = true) ∧
    ∀ p, state.1.supervisor.controller.portIdAt ingressPort = some p →
      state.1.supervisor.pipeline.enforcer.isEnforced p = false → decision.dropped = false

/-- A frame is judged by the port its sender's number has on the topology then
loaded, if it has one. -/
def KeepsPort {α : Type} (s : Supervised α) (call : SwitchCall) : Prop :=
  ∀ frameData sender arrival loads, call = .inspect frameData sender arrival loads →
    ∀ p, (loadAll (call.served s.supervisor) s.supervisor.controller).portIdAt
        (s.supervisor.bind sender).1.ingressPort = some p →
      p = (s.supervisor.bind sender).1.portId

/-! ## Faults without operators -/

/-- Every port fault is a lease's, and no lease keeps another. -/
structure Unoperated (state : PolicyEnforcer × TopologyController) : Prop where
  kept : ∀ p lease, state.1.leases.lookup p = some lease → lease.kept = none
  shown : ∀ p fault, state.2.portFault p = some fault →
    ∃ lease, state.1.leases.lookup p = some lease ∧ lease.enforced = fault

/-- A held sender's port holds a lease that drops, and has its fault. -/
def Held.Stands (held : Held) (state : PolicyEnforcer × TopologyController) : Prop :=
  ∀ ingressPort p, held ingressPort = some p →
    state.2.portIdAt ingressPort = some p ∧ (state.2.portFault p).isSome = true ∧
      ∃ lease, state.1.leases.lookup p = some lease ∧ 2 ≤ lease.action.kind.severity

section
variable {before after state : PolicyEnforcer × TopologyController} {p : Bytes} {lease : Lease}
  {held : Held}

private theorem Unoperated.operatorFault (h : Unoperated state) (p : Bytes) :
    operatorFault state p = none := by
  cases hlease : state.1.leases.lookup p with
  | some lease => rw [operatorFault_leased hlease, h.kept p lease hlease]
  | none =>
      rw [operatorFault_unleased hlease]
      cases hfault : state.2.portFault p with
      | none => rfl
      | some fault =>
          obtain ⟨lease, hlease', _⟩ := h.shown p fault hfault
          rw [hlease] at hlease'
          exact absurd hlease' (by simp)

private theorem Unoperated.enforces (h : Unoperated before) (henforces : Enforces p lease before after) :
    Unoperated after where
  kept q other hother := by
    rw [henforces.leases q] at hother
    split at hother
    · rw [← Option.some.inj hother, henforces.kept, h.operatorFault]
    · exact h.kept q other hother
  shown q fault hfault := by
    have hsets := henforces.sets.fault (.port q)
    rw [faultAt_port, hfault] at hsets
    rw [henforces.leases q]
    by_cases hq : q = p
    · rw [if_pos (congrArg FaultKey.port hq)] at hsets
      exact ⟨lease, if_pos hq, (Option.some.inj hsets).symm⟩
    · rw [if_neg fun hsame => hq (FaultKey.port.inj hsame)] at hsets
      rw [if_neg hq]
      exact h.shown q fault hsets.symm

/-- A lease that keeps nothing leaves nothing. -/
private theorem sets_restorePort_unkept (h : lease.kept = none) (controller : TopologyController) :
    Sets (.port lease.action.portId) none controller (restorePort lease controller) := by
  have hunset : lease.hadRestore = false := by
    rw [Lease.kept] at h
    split at h
    · exact absurd h (by simp)
    · next hunset => simpa using hunset
  rw [restorePort, hunset, if_neg (by simp)]
  exact sets_clearPortFault controller lease.action.portId

private theorem Unoperated.release (h : Unoperated state) (p : Bytes) :
    Unoperated (releasePort state p) := by
  cases hlease : state.1.leases.lookup p with
  | none => rwa [releasePort_unleased hlease]
  | some lease =>
      have hsets := sets_restorePort_unkept (h.kept p lease hlease) state.2
      rw [state.1.filed p lease hlease] at hsets
      constructor
      · intro q other hother
        rw [lookup_releasePort] at hother
        split at hother
        · exact absurd hother (by simp)
        · exact h.kept q other hother
      · intro q fault hfault
        have hfault' := hsets.fault (.port q)
        rw [releasePort_leased hlease] at hfault
        rw [faultAt_port, hfault] at hfault'
        by_cases hq : q = p
        · rw [if_pos (congrArg FaultKey.port hq)] at hfault'
          exact absurd hfault' (by simp)
        · rw [if_neg fun hsame => hq (FaultKey.port.inj hsame)] at hfault'
          rw [lookup_releasePort, if_neg hq]
          exact h.shown q fault hfault'.symm

/-- Enforcing leaves every held sender's lease as strong as it was. -/
private theorem Held.Stands.enforces (h : held.Stands before) (henforces : Enforces p lease before after) :
    held.Stands after := by
  intro ingressPort q hq
  obtain ⟨hport, hfault, old, hold, hstrong⟩ := h ingressPort q hq
  rw [portIdAt_congr henforces.sets.topology, henforces.leases q]
  have hsets := henforces.sets.fault (.port q)
  rw [faultAt_port] at hsets
  by_cases hqp : q = p
  · rw [if_pos (congrArg FaultKey.port hqp)] at hsets
    rw [if_pos hqp]
    rw [hqp] at hold
    exact ⟨hport, by rw [hsets]; rfl, lease, rfl, hstrong.trans (henforces.stronger old hold)⟩
  · rw [if_neg fun hsame => hqp (FaultKey.port.inj hsame)] at hsets
    rw [if_neg hqp]
    exact ⟨hport, hsets ▸ hfault, old, hold, hstrong⟩

/-- A drop or quarantine that was enforced stands. -/
private theorem Held.Stands.answer {config : PolicyEnforcerConfig} {decision : PolicyDecision}
    (h : held.Stands after) (henforceable : Enforceable config before.2 decision p)
    (henforces : Enforces p lease before after)
    (hseverity : (EnforcementKind.ofAction decision.action).severity ≤ lease.action.kind.severity) :
    (held.answer (decision, lease.action)).Stands after := by
  unfold Held.answer
  split
  · next hcontains =>
      intro ingressPort q hq
      rw [Function.update_apply] at hq
      split at hq
      · next hsame =>
          obtain rfl : p = q := henforces.portId.symm.trans (Option.some.inj hq)
          have hfault := henforces.sets.fault (.port p)
          rw [faultAt_port, if_pos rfl] at hfault
          refine ⟨?_, by rw [hfault]; rfl, lease, by rw [henforces.leases, if_pos rfl], ?_⟩
          · rw [portIdAt_congr henforces.sets.topology, hsame, henforceable.port]
          · refine le_trans ?_ hseverity
            rcases hcontains.1 with haction | haction
            · rw [haction]
              decide
            · rw [haction]
              decide
      · exact h ingressPort q hq
  · exact h

/-- **Applying decisions** leaves every fault a lease's, and those who are held
blocked. -/
private theorem apply_stands (decisions : List PolicyDecision) (now : Int)
    {enforcer : PolicyEnforcer} {controller : TopologyController} (h : Unoperated (enforcer, controller))
    (hheld : held.Stands (enforcer, controller)) :
    Unoperated (enforcer.apply decisions controller now).2 ∧
      ((decisions.zip (enforcer.apply decisions controller now).1).foldl Held.answer held).Stands
        (enforcer.apply decisions controller now).2 := by
  induction decisions generalizing enforcer controller held with
  | nil => exact ⟨h, hheld⟩
  | cons decision decisions ih =>
      unfold apply
      by_cases henforceable : ∃ q, Enforceable enforcer.config controller decision q
      · obtain ⟨q, hq⟩ := henforceable
        obtain ⟨lease, after, happly, henforces, hseverity, _⟩ :=
          applyDecision_enforces now hq
        rw [happly]
        exact ih (h.enforces henforces)
          ((hheld.enforces henforces).answer hq henforces hseverity)
      · obtain ⟨action, happly, hrefused⟩ :=
          applyDecision_refused now fun q hq => henforceable ⟨q, hq⟩
        rw [happly]
        have hsame : held.answer (decision, action) = held :=
          if_neg fun hcontains => hcontains.2.elim hrefused.1 hrefused.2
        rw [List.zip_cons_cons, List.foldl_cons, hsame]
        exact ih h hheld

/-- **Ending leases** leaves those held whose leases go on. -/
private theorem releaseExpired_stands {enforcer : PolicyEnforcer} {controller : TopologyController}
    (now : Int) (h : Unoperated (enforcer, controller)) (hheld : held.Stands (enforcer, controller)) :
    Unoperated (enforcer.releaseExpired controller now).2 ∧
      Held.Stands (fun ingressPort => (held ingressPort).filter fun p =>
          p ∉ (enforcer.releaseExpired controller now).1.map EnforcementAction.portId)
        (enforcer.releaseExpired controller now).2 := by
  refine ⟨releaseExpired_preserves (P := Unoperated) (fun state p hstate => hstate.release p) h,
    fun ingressPort p hp => ?_⟩
  rw [Option.filter_eq_some_iff, decide_eq_true_eq] at hp
  obtain ⟨hp, hlive⟩ := hp
  obtain ⟨hport, hfault, lease, hlease, hstrong⟩ := hheld ingressPort p hp
  refine ⟨?_, ?_, lease, ?_, hstrong⟩
  · rw [portIdAt_congr (releaseExpired_topology enforcer controller now).1]
    exact hport
  · have hsame := faultAt_releaseExpired enforcer controller now (.port p)
      fun action haction hkey => hlive (FaultKey.port.inj hkey ▸ List.mem_map_of_mem haction)
    rw [faultAt_port, faultAt_port] at hsame
    rw [hsame]
    exact hfault
  · refine lookup_releaseExpired.mpr ⟨hlease, ?_⟩
    by_contra hend
    exact hlive (mem_released.mpr ⟨lease, hlease, not_lt.mp hend⟩)

end

/-! ## The calls -/

/-- The invariant: the pipeline is attached, every fault is a lease's, and those
who are held are blocked. -/
private structure Supervises {α : Type} (supervisor : SwitchSupervisor α) (held : Held) : Prop where
  attached : supervisor.pipeline.attached = true
  unoperated : Unoperated supervisor.dataplane
  stands : held.Stands supervisor.dataplane

section
variable {α : Type} {analyzer : PacketAnalyzer α} {supervisor after : SwitchSupervisor α}
  {held : Held}

/-- An analysis. -/
private theorem Supervises.evaluate (h : Supervises supervisor held) {batch : AnalysisBatch}
    {timestampNs : Nat} {now : Int} {outcome : AnalysisOutcome} {pipeline : AnalysisPipeline}
    {controller : TopologyController}
    (hevaluate : supervisor.pipeline.evaluate supervisor.controller batch timestampNs now =
      some (outcome, pipeline, controller)) :
    pipeline.attached = true ∧ Unoperated (pipeline.enforcer, controller) ∧
      (held.analysed outcome).Stands (pipeline.enforcer, controller) := by
  obtain ⟨hanalyses, hwhole⟩ := AnalysisPipeline.evaluate_spec hevaluate
  rcases hwhole with ⟨hdetached, _⟩ | ⟨_, enforcer, middle, hreleases, happlies⟩
  · rw [h.attached] at hdetached
    exact absurd hdetached (by simp)
  · obtain ⟨hunoperated, hstands⟩ := releaseExpired_stands now h.unoperated h.stands
    rw [hreleases] at hunoperated hstands
    obtain ⟨hunoperated, hstands⟩ :=
      apply_stands outcome.decisions now hunoperated hstands
    rw [happlies] at hunoperated hstands
    exact ⟨hanalyses.attached.trans h.attached, hunoperated, hstands⟩

/-- Loads. -/
private theorem Supervises.load (h : Supervises supervisor held) (loads : List Topology) :
    Supervises { supervisor with controller := loadAll loads supervisor.controller }
      (held.after loads none) := by
  cases loads with
  | nil => exact h
  | cons topology loads =>
      have hclean : ∀ (topologies : List Topology) (controller : TopologyController),
          (∀ p, controller.portFault p = none) →
          ∀ p, (loadAll topologies controller).portFault p = none := by
        intro topologies
        induction topologies with
        | nil => exact fun _ hnone => hnone
        | cons topology topologies ih =>
            exact fun controller _ => ih _ fun p => faultAt_load topology (.port p)
      refine ⟨h.attached, ⟨h.unoperated.kept, fun p fault hfault => ?_⟩, fun _ _ hp => ?_⟩
      · have hnone := hclean loads (supervisor.controller.load topology)
          (fun p => faultAt_load topology (.port p)) p
        exact absurd (hfault.symm.trans hnone) (by simp)
      · exact absurd hp (by simp [Held.after])

private theorem Supervises.analyse (h : Supervises supervisor held) {now : Int}
    {outcome : AnalysisOutcome}
    (hanalyse : supervisor.analyse analyzer now = some (outcome, after)) :
    Supervises after (held.analysed outcome) ∧
      after.controller.topology = supervisor.controller.topology := by
  simp only [SwitchSupervisor.analyse] at hanalyse
  split at hanalyse
  · exact absurd hanalyse (by simp)
  · next outcome' pipeline controller hevaluate =>
      obtain ⟨rfl, rfl⟩ := Prod.mk.inj (Option.some.inj hanalyse)
      obtain ⟨hattached, hunoperated, hstands⟩ := h.evaluate hevaluate
      exact ⟨⟨hattached, hunoperated, hstands⟩, (evaluate_topology hevaluate).1⟩

private theorem Supervises.publish (h : Supervises supervisor held) :
    Supervises supervisor.publish.2 held ∧ supervisor.publish.2.controller = supervisor.controller := by
  unfold SwitchSupervisor.publish
  split
  · exact ⟨⟨h.attached, h.unoperated, h.stands⟩, rfl⟩
  · exact ⟨h, rfl⟩

/-- **A tick** serves its loads, then analyses if that is due. -/
private theorem Supervises.tick (h : Supervises supervisor held) {loads : List Topology} {now : Int}
    {outcome : TickOutcome}
    (htick : supervisor.tick analyzer (loadAll loads) now = some (outcome, after)) :
    Supervises after (held.after (if supervisor.controlled then loads else []) outcome.analysis) ∧
      after.controller.topology =
        (loadAll (if supervisor.controlled then loads else []) supervisor.controller).topology := by
  have hserve : supervisor.serve (loadAll loads) =
      { supervisor with
        controller := loadAll (if supervisor.controlled then loads else [])
          supervisor.controller } := by
    unfold SwitchSupervisor.serve
    split <;> rfl
  have hserved := h.load (if supervisor.controlled then loads else [])
  rw [← hserve] at hserved
  have hcontroller := congrArg SwitchSupervisor.controller hserve
  simp only [SwitchSupervisor.tick] at htick
  split at htick
  · obtain ⟨rfl, rfl⟩ := Prod.mk.inj (Option.some.inj htick)
    exact ⟨hserved, congrArg TopologyController.topology hcontroller⟩
  · split at htick
    · exact absurd htick (by simp)
    · next analysis supervisor' hanalyse =>
        obtain ⟨hanalysed, htopology⟩ := hserved.analyse hanalyse
        rw [hcontroller] at htopology
        split at htick
        · obtain ⟨rfl, rfl⟩ := Prod.mk.inj (Option.some.inj htick)
          exact ⟨hanalysed, htopology⟩
        · obtain ⟨rfl, rfl⟩ := Prod.mk.inj (Option.some.inj htick)
          obtain ⟨hpublished, hsame⟩ := hanalysed.publish
          exact ⟨hpublished, by rw [hsame, htopology]⟩

/-- **Judging a frame**: a held port drops it, a port without a lease lets it
pass. -/
private theorem Supervises.judge (h : Supervises supervisor held) (portId frameData : Bytes)
    (arrival : Int) :
    Supervises (supervisor.judge portId frameData arrival).2 held ∧
      (supervisor.judge portId frameData arrival).2.controller.topology =
        supervisor.controller.topology ∧
      (supervisor.judge portId frameData arrival).2.pipeline = supervisor.pipeline ∧
      (∀ ingressPort, held ingressPort = some portId →
        (supervisor.judge portId frameData arrival).1.dropped = true) ∧
      (supervisor.pipeline.enforcer.isEnforced portId = false →
        (supervisor.judge portId frameData arrival).1.dropped = false) := by
  have hnamed : ∀ ingressPort, held ingressPort = some portId →
      ∃ lease : Lease, supervisor.controller.portFault portId = some lease.enforced ∧
        2 ≤ lease.action.kind.severity := by
    intro ingressPort hheld
    obtain ⟨_, hfault, lease, hlease, hstrong⟩ := h.stands ingressPort portId hheld
    obtain ⟨fault, hfault⟩ := Option.isSome_iff_exists.mp hfault
    obtain ⟨lease', hlease', rfl⟩ := h.unoperated.shown portId fault hfault
    obtain rfl := Option.some.inj (hlease.symm.trans hlease')
    exact ⟨lease, hfault, hstrong⟩
  have hunset : supervisor.pipeline.enforcer.isEnforced portId = false →
      supervisor.controller.portFault portId = none := by
    intro hfree
    have hlease : supervisor.pipeline.enforcer.leases.lookup portId = none := by
      simpa [isEnforced] using hfree
    have hunleased : operatorFault supervisor.dataplane portId = _ := operatorFault_unleased hlease
    exact hunleased.symm.trans (h.unoperated.operatorFault portId)
  unfold SwitchSupervisor.judge
  dsimp only
  split
  · next hempty =>
      refine ⟨h, rfl, rfl, fun ingressPort hheld => ?_, fun _ => rfl⟩
      obtain ⟨lease, hfault, _⟩ := hnamed ingressPort hheld
      obtain ⟨_, _, hport⟩ := isPort_of_portFault hfault
      exact absurd (List.isEmpty_iff.mp hempty) (ne_nil_of_isPort hport)
  · split
    · next herror =>
        refine ⟨h, rfl, rfl, fun ingressPort hheld => ?_, fun _ => rfl⟩
        obtain ⟨lease, hfault, _⟩ := hnamed ingressPort hheld
        obtain ⟨out, hout⟩ := evaluatePort_ok hfault
        rw [herror] at hout
        exact absurd hout (by simp)
    · next evaluated controller hok =>
        obtain ⟨htopology, _, hfaults⟩ := faultAt_evaluatePort hok
        obtain ⟨hpasses, hdrops⟩ := evaluatePort_decision hok
        have hports : ∀ p, controller.portFault p = supervisor.controller.portFault p :=
          fun p => hfaults (.port p)
        refine ⟨⟨h.attached, ⟨h.unoperated.kept, fun p fault hfault => ?_⟩,
          fun ingressPort p hp => ?_⟩, htopology, rfl, fun ingressPort hheld => ?_,
          fun hfree => hpasses (hunset hfree)⟩
        · exact h.unoperated.shown p fault ((hports p).symm.trans hfault)
        · obtain ⟨hport, hfault, hlease⟩ := h.stands ingressPort p hp
          exact ⟨by rw [← hport]; exact congrFun (portIdAt_congr htopology) _,
            by rw [← hfault]; exact congrArg Option.isSome (hports p), hlease⟩
        · obtain ⟨lease, hfault, hstrong⟩ := hnamed ingressPort hheld
          exact hdrops _ hfault (Lease.blocks hstrong)

/-- **Inspecting a frame** of a sender whose number has the stored port. -/
private theorem Supervises.inspect (h : Supervises supervisor held) {frameData : Bytes}
    {sender : Endpoint} {arrival : Int} {loads : List Topology} {decision : FaultDecision}
    {outcome : TickOutcome}
    (hinspect : supervisor.inspect analyzer (loadAll loads) frameData sender arrival =
      some (decision, outcome, after)) :
    let served := SwitchCall.served supervisor (.inspect frameData sender arrival loads)
    let binding := (supervisor.bind sender).1
    Supervises after (held.after served outcome.analysis) ∧
      ((∀ p, (loadAll served supervisor.controller).portIdAt binding.ingressPort = some p →
          p = binding.portId) →
        (∀ p, held.after served outcome.analysis binding.ingressPort = some p →
          decision.dropped = true) ∧
        ∀ p, after.controller.portIdAt binding.ingressPort = some p →
          after.pipeline.enforcer.isEnforced p = false → decision.dropped = false) := by
  intro served binding
  obtain ⟨hbinding, hpipeline, hcontroller, hcontrolled⟩ :=
    record_same supervisor frameData sender
  have hrecorded : Supervises (supervisor.record frameData sender).2 held := by
    refine ⟨?_, ?_, ?_⟩
    · rw [hpipeline, h.attached]
    · rw [SwitchSupervisor.dataplane, hpipeline, hcontroller]
      exact h.unoperated
    · rw [SwitchSupervisor.dataplane, hpipeline, hcontroller]
      exact h.stands
  simp only [SwitchSupervisor.inspect, hbinding] at hinspect
  split at hinspect
  · exact absurd hinspect (by simp)
  · next outcome' ready hready =>
      -- a full batch is analysed before the frame is judged
      have hticked : Supervises ready (held.after served outcome'.analysis) ∧
          ready.controller.topology = (loadAll served supervisor.controller).topology := by
        split at hready
        · next hfull =>
            have hserved : served =
                if (supervisor.record frameData sender).2.controlled then loads else [] := by
              simp only [served, SwitchCall.served, hfull, hcontrolled, Bool.and_true]
            rw [hserved, ← hcontroller]
            exact hrecorded.tick hready
        · next hroom =>
            have hserved : served = [] := by
              simp only [served, SwitchCall.served, hroom, Bool.and_false, Bool.false_eq_true,
                if_false]
            obtain ⟨rfl, rfl⟩ := Prod.mk.inj (Option.some.inj hready)
            rw [hserved, hcontroller]
            exact ⟨hrecorded, rfl⟩
      obtain ⟨hready, htopology⟩ := hticked
      obtain ⟨hjudged, hsame, hpipeline', hdrops, hpasses⟩ :=
        hready.judge binding.portId frameData arrival
      simp only [Option.some.injEq, Prod.mk.injEq] at hinspect
      obtain ⟨rfl, rfl, rfl⟩ := hinspect
      refine ⟨hjudged, fun hkeeps => ⟨fun p hheld => ?_, fun p hport hfree => ?_⟩⟩
      · have hport := (hready.stands _ p hheld).1
        rw [SwitchSupervisor.dataplane, portIdAt_congr htopology] at hport
        obtain rfl := hkeeps p hport
        exact hdrops _ hheld
      · rw [portIdAt_congr (hsame.trans htopology)] at hport
        obtain rfl := hkeeps p hport
        rw [hpipeline'] at hfree
        exact hpasses hfree

end

/-! ## Runs -/

/-- Every run of calls returns. -/
theorem supervising_returns {α : Type} (analyzer : PacketAnalyzer α) (start : Supervised α)
    (calls : List SwitchCall) : ∃ final, (supervising analyzer).exec start calls = some final := by
  refine TSys.exec_returns (fun s call => ?_) calls start
  cases call with
  | load topology => exact ⟨_, rfl⟩
  | tick now loads =>
      obtain ⟨out, hout⟩ := tick_returns analyzer (loadAll loads) s.supervisor now
      exact ⟨_, congrArg (Option.map _) hout⟩
  | inspect frameData sender arrival loads =>
      obtain ⟨out, hout⟩ :=
        inspect_returns analyzer (loadAll loads) s.supervisor frameData sender arrival
      exact ⟨_, congrArg (Option.map _) hout⟩

section
variable {α : Type} {analyzer : PacketAnalyzer α} {state after : Supervised α × Held}
  {call : SwitchCall}

private theorem supervises_step (h : Supervises state.1.supervisor state.2)
    (hkeeps : KeepsPort state.1 call)
    (hstep : ((supervising analyzer).withGhost (fun _ => none) Held.note).step state call =
      some after) :
    Supervises after.1.supervisor after.2 ∧ Blocks after := by
  obtain ⟨hcall, hheld⟩ := TSys.withGhost_step.mp hstep
  rw [Blocks, hheld, Held.note]
  cases call with
  | load topology =>
      rw [← Option.some.inj hcall]
      exact ⟨h.load [topology], fun _ _ hjudged => absurd hjudged (by simp)⟩
  | tick now loads =>
      obtain ⟨⟨outcome, supervisor⟩, htick, hafter⟩ := Option.map_eq_some_iff.mp hcall
      rw [← hafter]
      exact ⟨(h.tick htick).1, fun _ _ hjudged => absurd hjudged (by simp)⟩
  | inspect frameData sender arrival loads =>
      obtain ⟨⟨decision, outcome, supervisor⟩, hinspect, hafter⟩ := Option.map_eq_some_iff.mp hcall
      rw [← hafter]
      obtain ⟨hsupervises, hblocks⟩ := h.inspect hinspect
      refine ⟨hsupervises, fun ingressPort decision' hjudged => ?_⟩
      obtain ⟨rfl, rfl⟩ := Prod.mk.inj (Option.some.inj hjudged)
      exact hblocks (hkeeps frameData sender arrival loads rfl)

/-- **The supervisor blocks the sender it contained.** Every run of calls
returns; and in every run in which each frame is judged by the port that its
sender's ingress number has at the time, the frames of a sender with a live drop
or quarantine lease on its port are dropped, and no frame is dropped whose
sender's port holds no lease. -/
theorem contained_sender_blocked (analyzer : PacketAnalyzer α) (start : Supervised α)
    (calls : List SwitchCall) (hstart : (supervising analyzer).init start)
    (hkeeps : ((supervising analyzer).withGhost (fun _ => none) Held.note).Steps
      (fun state call _ => KeepsPort state.1 call) (start, fun _ => none) calls) :
    (∃ final, (supervising analyzer).exec start calls = some final) ∧
    ((supervising analyzer).withGhost (fun _ => none) Held.note).States Blocks
      (start, fun _ => none) calls := by
  obtain ⟨hattached, hleases, hfaults, hjudged⟩ := hstart
  have hnone : ∀ p, start.supervisor.pipeline.enforcer.leases.lookup p = none := by
    intro p
    rw [hleases, Dict.lookup_empty]
  have hsupervises : Supervises start.supervisor (fun _ => none) := by
    refine ⟨hattached, ⟨fun p lease hlease => ?_, fun p fault hfault => ?_⟩,
      fun _ _ hp => absurd hp (by simp)⟩
    · exact absurd ((hnone p).symm.trans hlease) (by simp)
    · exact absurd ((hfaults p).symm.trans hfault) (by simp)
  refine ⟨supervising_returns analyzer start calls, ?_⟩
  exact TSys.States.of_inductive
    (I := fun state => Supervises state.1.supervisor state.2 ∧ Blocks state) (fun _ h => h.2)
    (fun _ _ _ h hcall hstep => supervises_step h.1 hcall hstep) calls _
    ⟨hsupervises, fun _ _ h => absurd (hjudged.symm.trans h) (by simp)⟩ hkeeps

end

/-- An analyzer that takes every frame for a broadcast. -/
def broadcastAnalyzer : PacketAnalyzer Unit where
  analyze _ views :=
    ({ packets := views.map fun view =>
        { classification := .broadcast, ingressPort := view.ingressPort }
       receivedPackets := UInt64.ofNat views.length }, ())

/-- A supervisor of the lab that analyses every second frame, and drops a sender
of two broadcasts. -/
def guardedLab : Supervised Unit where
  supervisor := .create
    { detector := { config := { broadcastPacketsThreshold := 1 } }
      policies := containStorms }
    (({} : TopologyController).load labTopology) { maxBatchFrames := 2 } ()

theorem guardedLab_init : (supervising broadcastAnalyzer).init guardedLab :=
  ⟨rfl, rfl, fun p => faultAt_load labTopology (.port p), rfl⟩

/-- A frame of the first sender. -/
def firstSender (arrival : Int) : SwitchCall :=
  .inspect [] { address := bytes "a", port := 1 } arrival []

/-- The first sender's binding, and the port its number has. -/
private def firstBinding (s : Supervised Unit) : Binding × Option Bytes :=
  ((s.supervisor.bind { address := bytes "a", port := 1 }).1,
    s.supervisor.controller.portIdAt 0)

private theorem keepsPort_firstSender {s : Supervised Unit} {arrival : Int}
    (h : firstBinding s = ({ portId := bytes "h1" }, some (bytes "h1"))) :
    KeepsPort s (firstSender arrival) := by
  obtain ⟨hbinding, hport⟩ := Prod.mk.inj h
  intro frameData sender arrival' loads hcall p hp
  obtain ⟨rfl, rfl, rfl, rfl⟩ := SwitchCall.inspect.inj hcall
  have hserved : (firstSender arrival).served s.supervisor = [] := by
    simp only [firstSender, SwitchCall.served]
    split <;> rfl
  rw [hserved, hbinding] at hp
  rw [hbinding]
  exact Option.some.inj (hp.symm.trans hport)

/-- The second frame fills the batch, and is dropped itself. -/
theorem contained_sender_blocked_secondFrame :
    ∃ final decision, ((supervising broadcastAnalyzer).withGhost (fun _ => none) Held.note).exec
        (guardedLab, fun _ => none) [firstSender 1, firstSender 2] = some final ∧
      final.1.judged = some (0, decision) ∧ decision.dropped = true := by
  have hfirst : ((supervising broadcastAnalyzer).step guardedLab (firstSender 1)).map
      firstBinding = some ({ portId := bytes "h1" }, some (bytes "h1")) := by
    decide +kernel
  have hkeeps : ((supervising broadcastAnalyzer).withGhost (fun _ => none) Held.note).Steps
      (fun state call _ => KeepsPort state.1 call) (guardedLab, fun _ => none)
      [firstSender 1, firstSender 2] := by
    refine fun state hstate => ⟨keepsPort_firstSender (by decide +kernel), fun _ _ => ⟨?_, trivial⟩⟩
    rw [(TSys.withGhost_step.mp hstate).1] at hfirst
    exact keepsPort_firstSender (Option.some.inj hfirst)
  have hrun : (((supervising broadcastAnalyzer).withGhost (fun _ => none) Held.note).exec
      (guardedLab, fun _ => none) [firstSender 1, firstSender 2]).map
        (fun state => (state.1.judged.map Prod.fst, state.2 0)) =
      some (some 0, some (bytes "h1")) := by
    decide +kernel
  obtain ⟨final, hexec, hread⟩ := Option.map_eq_some_iff.mp hrun
  obtain ⟨hjudged, hheld⟩ := Prod.mk.inj hread
  obtain ⟨⟨ingressPort, decision⟩, hjudged, rfl⟩ := Option.map_eq_some_iff.mp hjudged
  have hblocks := (contained_sender_blocked broadcastAnalyzer guardedLab _ guardedLab_init
    hkeeps).2.last hexec
  exact ⟨final, decision, hexec, hjudged, (hblocks _ decision hjudged).1 _ hheld⟩

/-- The lab with its hosts declared the other way round. -/
def swappedTopology : Topology where
  configuration :=
    { name := bytes "lab"
      nodes := [{ id := bytes "sw", type := .switch }, { id := bytes "h2" }, { id := bytes "h1" }]
      links := [{ «from» := bytes "h1", «to» := bytes "sw" },
        { «from» := bytes "h2", «to» := bytes "sw" }] }
  switchIndex := 0
  created := by decide

/-- **A contained sender gets through.** The first sender is bound to `h1`, then
a topology is loaded on which its number is `h2`'s. Its second frame puts a drop
lease on `h2`, and is judged by `h1`. -/
theorem contained_sender_passes :
    ¬∀ calls, ((supervising broadcastAnalyzer).withGhost (fun _ => none) Held.note).States Blocks
      (guardedLab, fun _ => none) calls := by
  intro h
  have hrun : (((supervising broadcastAnalyzer).withGhost (fun _ => none) Held.note).exec
      (guardedLab, fun _ => none) [firstSender 1, .load swappedTopology, firstSender 2]).map
        (fun state => (state.1.judged, state.2 0)) =
      some (some (0, { deliveryCount := 1, deliveryTimes := [2] }), some (bytes "h2")) := by
    decide +kernel
  obtain ⟨final, hexec, hread⟩ := Option.map_eq_some_iff.mp hrun
  obtain ⟨hjudged, hheld⟩ := Prod.mk.inj hread
  exact absurd (((h _).last hexec _ _ hjudged).1 _ hheld) (by simp)

end WireLab
