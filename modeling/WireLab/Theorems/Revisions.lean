import WireLab.Logic.Lab
import WireLab.Base.TSys

/-!
# A revision identifies one topology

Any number of clients talk to one service, one dispatch at a time. The state of
the conversation holds every exchange so far. Its invariant (`Dated`): the
revision of a reply, plus the loads accepted after it, is the current revision.
-/

namespace WireLab

open Base TopologyController

/-- How many loads were accepted. -/
def loads (exchanges : List Exchange) : Nat := exchanges.countP Exchange.isLoad

/-- A service, its controller, and the exchanges so far, the latest first. -/
structure Correspondence (β τ : Type) where
  service : ControlService β τ
  controller : TopologyController
  exchanges : List Exchange := []

namespace Correspondence

variable {β τ : Type}

def revision (conversation : Correspondence β τ) : UInt64 :=
  conversation.service.currentTopologyRevision conversation.controller

end Correspondence

/-- Requests dispatched one after another, from a controller that has loaded
nothing. -/
def conversation (β τ : Type) : TSys (Correspondence β τ) (Environment × Bytes) where
  init c := c.controller.topologyRevision = 0 ∧ c.exchanges = []
  step c call :=
    (c.service.dispatch c.controller call.1 call.2).map fun d =>
      { service := d.2.1, controller := d.2.2
        exchanges := { json := call.2, reply := d.1.reply } :: c.exchanges }

section
variable {β τ : Type} {c c' : Correspondence β τ}

/-- While the counter has not run out, every reply is dated by the loads after
it, and the controller's revision counts the loads. -/
structure Dated (c : Correspondence β τ) : Prop where
  counted : c.service.bound = true → c.controller.topologyRevision.toNat = loads c.exchanges
  unbound : c.service.bound = false → loads c.exchanges = 0
  dated : ∀ later exchange earlier, c.exchanges = later ++ exchange :: earlier →
    exchange.reply.topologyRevision.toNat + loads later = c.revision.toNat

/-- A load that is accepted before the counter runs out moves it by one. -/
private theorem toNat_load {controller : TopologyController} {topology : Topology}
    (h : controller.topologyRevision.toNat < 2 ^ 64 - 1) :
    (controller.load topology).topologyRevision.toNat = controller.topologyRevision.toNat + 1 := by
  have hne : controller.topologyRevision ≠ UInt64.ofNat (2 ^ 64 - 1) := by
    intro heq
    rw [heq] at h
    exact absurd h (by decide)
  simp only [load, hne, ne_eq, not_false_eq_true, if_true, UInt64.toNat_add]
  have hone : (1 : UInt64).toNat = 1 := rfl
  omega

/-- What one exchange adds to the current revision: one for an accepted load,
nothing otherwise. -/
private theorem revision_step {call : Environment × Bytes}
    (hdated : Dated c) (hloads : loads c.exchanges < 2 ^ 64 - 1)
    (hstep : (conversation β τ).step c call = some c') :
    ∃ exchange, c'.exchanges = exchange :: c.exchanges ∧
      exchange.json = call.2 ∧
      c'.service.bound = c.service.bound ∧
      exchange.reply.topologyRevision = c'.revision ∧
      (exchange.isLoad = true → c.service.bound = true) ∧
      c'.revision.toNat = c.revision.toNat + loads [exchange] ∧
      (c.service.bound = true →
        c'.controller.topologyRevision.toNat =
          c.controller.topologyRevision.toNat + loads [exchange]) := by
  obtain ⟨d, hdispatch, rfl⟩ := Option.map_eq_some_iff.mp hstep
  obtain ⟨out, service', controller'⟩ := d
  refine ⟨_, rfl, rfl, ?_⟩
  rcases dispatch_cases hdispatch with hrefuses | ⟨request, hadmits, haccepts⟩
  · obtain ⟨hrejected, _, hsame, hrevision⟩ := hrefuses.unchanged
    obtain ⟨rfl, rfl⟩ := Prod.mk.inj hsame
    have hload : Exchange.isLoad { json := call.2, reply := out.reply } = false :=
      isLoad_of_rejected hrejected
    refine ⟨rfl, hrevision, fun h => absurd h (by simp [hload]), ?_, fun _ => ?_⟩
    · simp only [loads, List.countP_cons, hload, List.countP_nil]
      rfl
    · simp only [loads, List.countP_cons, hload, List.countP_nil]
      rfl
  · have hload : Exchange.isLoad { json := call.2, reply := out.reply } =
        decide (request.command = .loadTopology) :=
      isLoad_of_accepted haccepts.accepted (ControlService.admits_eq_some.mp hadmits).1
    have hbound : service'.bound = c.service.bound := haccepts.bound
    have hown : service'.topologyRevision = c.service.topologyRevision := haccepts.own
    refine ⟨hbound, haccepts.revision, ?_⟩
    simp only [hload, Correspondence.revision, loads, List.countP_cons, List.countP_nil,
      ControlService.currentTopologyRevision, hbound, hown]
    -- Only a load moves the revision.
    have heffect : Effect c.service c.controller call.1 request (newsOf out.events) controller' :=
      haccepts.effect
    generalize newsOf out.events = news at heffect
    cases heffect with
    | observed hcommand => simp [hcommand]
    | listed hcommand => simp [hcommand]
    | loaded hcommand hisBound =>
        have hbefore : c.controller.topologyRevision.toNat < 2 ^ 64 - 1 := by
          rw [hdated.counted hisBound]
          exact hloads
        simp [hcommand, hisBound, toNat_load hbefore]
    | changed htarget hisBound hsets =>
        have hcommand : request.command ≠ .loadTopology := by
          intro hcommand
          simp [ControlRequest.faultTarget, hcommand] at htarget
        simp [hcommand, hisBound, hsets.revision]

private theorem dated_step {call : Environment × Bytes} (hdated : Dated c)
    (hloads : loads c.exchanges < 2 ^ 64 - 1)
    (hstep : (conversation β τ).step c call = some c') : Dated c' := by
  obtain ⟨exchange, hexchanges, _, hbound, hreply, hload, hrevision, hcounted⟩ :=
    revision_step hdated hloads hstep
  have hmore : loads c'.exchanges = loads c.exchanges + loads [exchange] := by
    rw [hexchanges, loads, loads, loads, List.countP_cons, List.countP_singleton]
  refine ⟨fun h => ?_, fun h => ?_, fun later e earlier hsplit => ?_⟩
  · rw [hbound] at h
    rw [hcounted h, hdated.counted h, hmore]
  · rw [hbound] at h
    have hno : exchange.isLoad = false := by
      cases hcase : exchange.isLoad with
      | false => rfl
      | true => rw [hload hcase] at h; exact absurd h (by simp)
    rw [hmore, hdated.unbound h, loads, List.countP_singleton, hno]
    rfl
  · rw [hexchanges] at hsplit
    cases later with
    | nil =>
        obtain ⟨rfl, _⟩ := List.cons.inj hsplit
        simp only [hreply, loads, List.countP_nil, Nat.add_zero]
    | cons first later =>
        obtain ⟨rfl, hrest⟩ := List.cons.inj hsplit
        have hold := hdated.dated later e earlier hrest
        rw [hrevision, ← hold, loads, loads, loads, List.countP_cons, List.countP_singleton]
        omega

private theorem loads_cons (exchange : Exchange) (exchanges : List Exchange) :
    loads (exchange :: exchanges) = loads exchanges + loads [exchange] := by
  rw [loads, loads, loads, List.countP_cons, List.countP_singleton]

/-- Every reply is dated, as long as the counter has not run out. -/
theorem dated_reachable (hreach : (conversation β τ).Reachable c)
    (hloads : loads c.exchanges < 2 ^ 64 - 1) : Dated c := by
  induction hreach with
  | init hinit =>
      obtain ⟨hrevision, hempty⟩ := hinit
      refine ⟨fun _ => ?_, fun _ => ?_, fun later e earlier hsplit => ?_⟩
      · rw [hrevision, hempty]
        rfl
      · rw [hempty]
        rfl
      · rw [hempty] at hsplit
        exact absurd hsplit (by simp)
  | @step c call c' _ hstep ih =>
      obtain ⟨d, _, hc'⟩ := Option.map_eq_some_iff.mp hstep
      have hmore : loads c'.exchanges =
          loads c.exchanges + loads [{ json := call.2, reply := d.1.reply }] := by
        rw [← hc', loads_cons]
      have hbefore : loads c.exchanges < 2 ^ 64 - 1 := by omega
      exact dated_step (ih hbefore) hbefore hstep

/-- A text that carries another revision is refused, and changes nothing. -/
private theorem refused_of_stale {env : Environment} {json : Bytes} {request : ControlRequest}
    {d : Dispatched β τ} (hparse : controlRequestFromJson json = .ok request)
    (hstale : request.topologyRevision ≠ c.revision)
    (h : c.service.dispatch c.controller env json = some d) :
    Refuses c.service c.controller d := by
  rcases dispatch_cases h with hrefuses | ⟨request', hadmits, _⟩
  · exact hrefuses
  · obtain ⟨hparse', _, hcurrent⟩ := ControlService.admits_eq_some.mp hadmits
    rw [hparse] at hparse'
    exact absurd (Except.ok.inj hparse' ▸ hcurrent) hstale

/-- A text that carries the current revision is not refused as stale. -/
private theorem ne_stale_of_current {env : Environment} {json : Bytes} {request : ControlRequest}
    {d : Dispatched β τ} (hparse : controlRequestFromJson json = .ok request)
    (hcurrent : request.topologyRevision = c.revision)
    (h : c.service.dispatch c.controller env json = some d) :
    d.1.reply.error ≠ staleText := by
  cases hvalid : request.validate with
  | ok _ =>
      rw [dispatch_of_admits (ControlService.admits_eq_some.mpr ⟨hparse, hvalid, hcurrent⟩)] at h
      exact execute_ne_stale h
  | error e =>
      simp only [ControlService.dispatch, hparse, hvalid, Option.some.injEq] at h
      subst h
      exact (by cases e <;> decide : e.toString ≠ staleText)

/-- **A revision identifies one topology.** However many clients take turns, as
long as the 64-bit counter has not been used up:

* a request is accepted only if it carries the current revision;
* an accepted load answers with a revision above that of every earlier reply;
* a request that carries the revision of a reply from before some accepted load
  is refused, and nothing is applied;
* a request that carries the revision of a reply since the last accepted load,
  or the current revision, is not refused as stale. -/
theorem revision_identifies_topology {β τ : Type} (c : Correspondence β τ)
    (hreach : (conversation β τ).Reachable c) (hloads : loads c.exchanges < 2 ^ 64 - 1)
    (env : Environment) (json : Bytes) (out : ControlDispatch) (service' : ControlService β τ)
    (controller' : TopologyController)
    (h : c.service.dispatch c.controller env json = some (out, service', controller')) :
    (out.reply.accepted = true → ∃ request, controlRequestFromJson json = .ok request ∧
      request.topologyRevision = c.revision) ∧
    (Exchange.isLoad { json, reply := out.reply } = true → ∀ earlier ∈ c.exchanges,
      earlier.reply.topologyRevision < out.reply.topologyRevision) ∧
    (∀ request prepared later load between earlier,
      controlRequestFromJson json = .ok request →
      c.exchanges = later ++ load :: (between ++ prepared :: earlier) → load.isLoad = true →
      request.topologyRevision = prepared.reply.topologyRevision →
      out.reply.accepted = false ∧ service' = c.service ∧ controller' = c.controller) ∧
    ∀ request, controlRequestFromJson json = .ok request →
      (request.topologyRevision = c.revision ∨ ∃ later prepared earlier,
        c.exchanges = later ++ prepared :: earlier ∧ (∀ e ∈ later, e.isLoad = false) ∧
        request.topologyRevision = prepared.reply.topologyRevision) →
      out.reply.error ≠ staleText := by
  have hdated := dated_reachable hreach hloads
  refine ⟨fun haccepted => ?_, fun hload earlier hmem => ?_, ?_, fun request hparse hcurrent => ?_⟩
  · rcases dispatch_cases h with hrefuses | ⟨request, hadmits, _⟩
    · rw [hrefuses.unchanged.1] at haccepted
      exact absurd haccepted (by simp)
    · obtain ⟨hparse, _, hcurrent⟩ := ControlService.admits_eq_some.mp hadmits
      exact ⟨request, hparse, hcurrent⟩
  · obtain ⟨later, older, hsplit⟩ := List.append_of_mem hmem
    have hold := hdated.dated later earlier older hsplit
    -- The load itself is one more exchange, dated by the revision it made.
    have hstep : (conversation β τ).step c (env, json) = some
        { service := service', controller := controller'
          exchanges := { json, reply := out.reply } :: c.exchanges } := by
      simp only [conversation, h, Option.map_some]
    obtain ⟨exchange, hexchanges, _, _, hreply, _, hrevision, _⟩ :=
      revision_step hdated hloads hstep
    obtain rfl := (List.cons.inj hexchanges).1
    have hone : loads [{ json, reply := out.reply }] = 1 := by
      rw [loads, List.countP_singleton, if_pos hload]
    rw [UInt64.lt_iff_toNat_lt]
    rw [hone, ← hreply] at hrevision
    simp only at hrevision
    omega
  · intro request prepared later load between earlier hparse hsplit hload hrequest
    have hold := hdated.dated (later ++ load :: between) prepared earlier (by simp [hsplit])
    have hpositive : 0 < loads (later ++ load :: between) :=
      List.countP_pos_iff.mpr ⟨load, by simp, hload⟩
    have hstale : request.topologyRevision ≠ c.revision := by
      intro heq
      rw [← hrequest, heq] at hold
      omega
    obtain ⟨hrejected, _, hsame, _⟩ :=
      (refused_of_stale hparse hstale h).unchanged
    exact ⟨hrejected, Prod.mk.inj hsame⟩
  · refine ne_stale_of_current (c := c) hparse ?_ h
    rcases hcurrent with hcurrent | ⟨later, prepared, earlier, hsplit, hnone, hrequest⟩
    · exact hcurrent
    · have hold := hdated.dated later prepared earlier hsplit
      have hzero : loads later = 0 := by
        rw [loads, List.countP_eq_zero]
        intro e he
        simp [hnone e he]
      rw [hrequest]
      exact UInt64.toNat_inj.mp (by omega)

end

/-- The lab is loaded twice. -/
def reloadLab : List (Environment × Bytes) := [(labEnv, loadLab 0), (labEnv, loadLab 1)]

/-- A request prepared between the two loads is refused after the second. -/
theorem revision_identifies_topology_reloadedLab :
    ∃ c out service' controller',
      (conversation Unit Unit).exec { service := labService, controller := {} } reloadLab =
        some c ∧
      c.service.dispatch c.controller labEnv (slowPort 1 "h1" 5) =
        some (out, service', controller') ∧
      out.reply.accepted = false ∧ controller' = c.controller := by
  have hvalue : ((conversation Unit Unit).exec { service := labService, controller := {} }
      reloadLab).map (fun c => (c.exchanges.map fun e => (e.isLoad, e.reply.topologyRevision),
        (c.service.dispatch c.controller labEnv (slowPort 1 "h1" 5)).isSome)) =
      some ([(true, 2), (true, 1)], true) := by
    decide +kernel
  obtain ⟨c, hrun, hread⟩ := Option.map_eq_some_iff.mp hvalue
  obtain ⟨hexchanges, hdispatch⟩ := Prod.mk.inj hread
  obtain ⟨second, first, hsplit⟩ : ∃ second first, c.exchanges = [second, first] := by
    have hlength := congrArg List.length hexchanges
    rw [List.length_map] at hlength
    exact List.length_eq_two.mp hlength
  simp only [hsplit, List.map_cons, List.map_nil, List.cons.injEq, Prod.mk.injEq, and_true]
    at hexchanges
  obtain ⟨⟨out, service', controller'⟩, hd⟩ := Option.isSome_iff_exists.mp hdispatch
  have hrequest : (controlRequestFromJson (slowPort 1 "h1" 5)).toOption.map
      ControlRequest.topologyRevision = some 1 := by decide +kernel
  cases hparse : controlRequestFromJson (slowPort 1 "h1" 5) with
  | error e => simp [hparse, Except.toOption] at hrequest
  | ok request =>
      simp only [hparse, Except.toOption, Option.map_some, Option.some.injEq] at hrequest
      have hloads : loads c.exchanges < 2 ^ 64 - 1 :=
        lt_of_le_of_lt List.countP_le_length
          (by rw [hsplit]; exact (by decide : 2 < 2 ^ 64 - 1))
      obtain ⟨_, _, hstale, _⟩ := revision_identifies_topology c
        (.exec (.init ⟨rfl, rfl⟩) hrun) hloads labEnv _ out service' controller' hd
      obtain ⟨hrejected, _, hcontroller⟩ := hstale request first [] second [] []
        hparse hsplit hexchanges.1.1 (hrequest.trans hexchanges.2.2.symm)
      exact ⟨c, out, service', controller', hrun, hd, hrejected, hcontroller⟩

end WireLab
