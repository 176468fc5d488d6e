import WireLab.Model.ControlService

/-!
# What a dispatch can do

Every dispatched text is either refused, and then nothing has changed and no
event is sent (`Refuses`), or it carried an admitted request that was executed
(`Accepts`). `dispatch_cases` says so once for all ten commands:

* **effect** — what the request did to the controller, and the news of it in
  the events (`Effect`);
* **numbering** — the events take consecutive numbers from the service's
  counter, and the counter moves past them;
* **reply** — it carries the revision that is current after the call.
-/

namespace WireLab

open Base TopologyController

/-! ## News -/

/-- What an event says about the configured faults. -/
inductive FaultNews
  | loaded
  | changed (key : FaultKey) (value : Option FaultConfiguration)

/-- A client's picture of the configured faults, updated. -/
def FaultNews.apply (view : FaultKey → Option FaultConfiguration) :
    FaultNews → FaultKey → Option FaultConfiguration
  | .loaded => fun _ => none
  | .changed key value => Function.update view key value

/-- The news in a fault event: the fault of one key. -/
def FaultStateEvent.news (event : FaultStateEvent) : FaultNews :=
  .changed (.ofEndpoints event.firstEndpoint event.secondEndpoint)
    (if event.active then some event.configuration else none)

def ControlEvent.news : ControlEvent → Option FaultNews
  | .faultState event => some event.news
  | .topologyState _ => some .loaded
  | .switchMetrics _ | .anomalyDetected _ | .policyAction _ | .supervisionState _
  | .benchmarkProgress _ | .benchmarkResult _ => none

/-- The news in a list of events, in order. -/
def newsOf (events : List ControlEvent) : List FaultNews := events.filterMap ControlEvent.news

/-- The news a report of an active fault carries. -/
def TopologyFault.news (fault : TopologyFault) : FaultNews :=
  .changed (.ofEndpoints fault.firstEndpoint fault.secondEndpoint) (some fault.configuration)

theorem newsOf_append (xs ys : List ControlEvent) : newsOf (xs ++ ys) = newsOf xs ++ newsOf ys :=
  List.filterMap_append

/-- Fault events are all news. -/
theorem newsOf_faultState (events : List FaultStateEvent) :
    newsOf (events.map .faultState) = events.map FaultStateEvent.news := by
  rw [newsOf, List.filterMap_map]
  exact congrFun List.filterMap_eq_map events

/-! ## Requests -/

section
variable {β τ : Type}

/-- The request a text carries to execution: it parses, it is valid, and it
names the current revision. -/
def ControlService.admits (service : ControlService β τ) (controller : TopologyController)
    (json : Bytes) : Option ControlRequest :=
  match controlRequestFromJson json with
  | .error _ => none
  | .ok request =>
      match request.validate with
      | .error _ => none
      | .ok () =>
          if request.topologyRevision = service.currentTopologyRevision controller then
            some request
          else none

/-- The fault a command sets or clears, and what to. -/
def ControlRequest.faultTarget (request : ControlRequest) :
    Option (FaultKey × Option FaultConfiguration) :=
  let fault := request.fault
  match request.command with
  | .setPortFault => some (.port fault.portId, some fault.configuration)
  | .clearPortFault => some (.port fault.portId, none)
  | .setLinkFault =>
      some (.link s(fault.firstEndpoint, fault.secondEndpoint), some fault.configuration)
  | .clearLinkFault => some (.link s(fault.firstEndpoint, fault.secondEndpoint), none)
  | .loadTopology | .getSwitchState | .getActiveFaults | .getSupervisionState | .startBenchmark
  | .stopRun => none

/-- What an executed request did to the controller, with the news of it. -/
inductive Effect (service : ControlService β τ) (controller : TopologyController)
    (env : Environment) (request : ControlRequest) :
    List FaultNews → TopologyController → Prop
  | observed (hcommand : request.command ≠ .loadTopology) (htarget : request.faultTarget = none) :
      Effect service controller env request [] controller
  | listed {faults} (hcommand : request.command = .getActiveFaults)
      (hlist : controller.activeFaults = .ok faults) :
      Effect service controller env request (faults.map TopologyFault.news) controller
  | loaded {topology} (hcommand : request.command = .loadTopology)
      (hbound : service.bound = true)
      (hfile : ControlService.topologyFromFile env.files request.topology.path = .ok topology) :
      Effect service controller env request [.loaded] (controller.load topology)
  | changed {key value controller'} (htarget : request.faultTarget = some (key, value))
      (hbound : service.bound = true) (hsets : Sets key value controller controller') :
      Effect service controller env request [.changed key value] controller'

/-- A request that names a fault and its value changes that fault to it. -/
theorem Effect.sets {service : ControlService β τ} {controller controller' : TopologyController}
    {env : Environment} {request : ControlRequest} {news : List FaultNews} {key : FaultKey}
    {value : Option FaultConfiguration}
    (h : Effect service controller env request news controller')
    (htarget : request.faultTarget = some (key, value)) : Sets key value controller controller' := by
  cases h with
  | observed _ hnone =>
      rw [htarget] at hnone
      cases hnone
  | listed hcommand => simp [ControlRequest.faultTarget, hcommand] at htarget
  | loaded hcommand => simp [ControlRequest.faultTarget, hcommand] at htarget
  | changed hchanged _ hsets =>
      rw [htarget, Option.some.injEq, Prod.mk.injEq] at hchanged
      obtain ⟨rfl, rfl⟩ := hchanged
      exact hsets

/-- A refusal: a reply that says why, and nothing else. -/
def Refuses (service : ControlService β τ) (controller : TopologyController)
    (d : Dispatched β τ) : Prop :=
  ∃ requestId error, d = (service.reject controller requestId error, service, controller)

/-- An execution: the reply accepts, the events are numbered from the service's
counter, and what changed is what they say. -/
structure Accepts (service : ControlService β τ) (controller : TopologyController)
    (env : Environment) (request : ControlRequest) (d : Dispatched β τ) : Prop where
  accepted : d.1.reply.accepted = true
  revision : d.1.reply.topologyRevision = d.2.1.currentTopologyRevision d.2.2
  effect : Effect service controller env request (newsOf d.1.events) d.2.2
  numbered : Consecutive (· + 1) service.nextEventSequence (d.1.events.map ControlEvent.sequence)
  sequence : d.2.1.nextEventSequence = (· + 1)^[d.1.events.length] service.nextEventSequence
  bound : d.2.1.bound = service.bound
  own : d.2.1.topologyRevision = service.topologyRevision

variable {service : ControlService β τ} {controller : TopologyController} {env : Environment}
  {request : ControlRequest} {d : Dispatched β τ}

theorem refuses_reject (requestId error : Bytes) :
    Refuses service controller (service.reject controller requestId error, service, controller) :=
  ⟨requestId, error, rfl⟩

/-- A refused request leaves everything as it was. -/
theorem Refuses.unchanged (h : Refuses service controller d) :
    d.1.reply.accepted = false ∧ d.1.events = [] ∧ d.2 = (service, controller) ∧
      d.1.reply.topologyRevision = service.currentTopologyRevision controller := by
  obtain ⟨requestId, error, rfl⟩ := h
  exact ⟨rfl, rfl, rfl, rfl⟩

/-- An execution with one event, which takes the next number. -/
private theorem accepts_one {event : ControlEvent} {service' : ControlService β τ}
    {controller' : TopologyController} {out : ControlDispatch}
    (haccepted : out.reply.accepted = true) (hevents : out.events = [event])
    (hrevision : out.reply.topologyRevision = service'.currentTopologyRevision controller')
    (hsequence : event.sequence = service.nextEventSequence)
    (hnext : service'.nextEventSequence = service.nextEventSequence + 1)
    (hbound : service'.bound = service.bound)
    (hown : service'.topologyRevision = service.topologyRevision)
    (heffect : Effect service controller env request (newsOf [event]) controller') :
    Accepts service controller env request (out, service', controller') where
  accepted := haccepted
  revision := hrevision
  effect := by rw [hevents]; exact heffect
  numbered := by rw [hevents]; exact ⟨hsequence, trivial⟩
  sequence := by rw [hevents]; exact hnext
  bound := hbound
  own := hown

/-! ## The commands -/

private theorem getSwitchState_accepts (hcommand : request.command = .getSwitchState) :
    Accepts service controller env request
      (service.getSwitchState controller env.metrics request) :=
  accepts_one rfl rfl rfl rfl rfl rfl rfl
    (.observed (by simp [hcommand]) (by simp [ControlRequest.faultTarget, hcommand]))

private theorem getSupervisionState_cases (hcommand : request.command = .getSupervisionState) :
    Refuses service controller
        (service.getSupervisionState controller env.supervision request) ∨
      Accepts service controller env request
        (service.getSupervisionState controller env.supervision request) := by
  unfold ControlService.getSupervisionState
  split
  · exact .inl (refuses_reject _ _)
  · exact .inr (accepts_one rfl rfl rfl rfl rfl rfl rfl
      (.observed (by simp [hcommand]) (by simp [ControlRequest.faultTarget, hcommand])))

private theorem loadTopology_cases (hcommand : request.command = .loadTopology) :
    Refuses service controller (service.loadTopology controller env.files request) ∨
      Accepts service controller env request
        (service.loadTopology controller env.files request) := by
  unfold ControlService.loadTopology
  split
  · exact .inl (refuses_reject _ _)
  · next hbound =>
      split
      · exact .inl (refuses_reject _ _)
      · next topology hfile =>
          exact .inr (accepts_one rfl rfl rfl rfl rfl rfl rfl
            (.loaded hcommand (by simpa using hbound) hfile))

private theorem getActiveFaults_cases (hcommand : request.command = .getActiveFaults) :
    Refuses service controller (service.getActiveFaults controller request) ∨
      Accepts service controller env request (service.getActiveFaults controller request) := by
  unfold ControlService.getActiveFaults
  split
  · exact .inl (refuses_reject _ _)
  · next faults hlist =>
      have hevents : ∀ reply, (ControlDispatch.events
          { reply, faultEvents := (stamp (· + 1) (ControlService.faultEvent
              (service.currentTopologyRevision controller)) service.nextEventSequence faults).1 }) =
          (stamp (· + 1) (ControlService.faultEvent (service.currentTopologyRevision controller))
            service.nextEventSequence faults).1.map .faultState := by
        intro reply
        simp only [ControlDispatch.events, Option.toList_none, List.map_nil, List.nil_append,
          List.append_nil]
      refine .inr ⟨rfl, rfl, ?_, ?_, ?_, rfl, rfl⟩
      · simp only [hevents, newsOf_faultState]
        rw [map_stamp (f := ControlService.faultEvent (service.currentTopologyRevision controller))
          (g := TopologyFault.news) fun _ _ => rfl]
        exact .listed hcommand hlist
      · simp only [hevents, List.map_map]
        exact consecutive_stamp fun _ _ => rfl
      · simp only [hevents, List.length_map, length_stamp]
        exact stamp_snd

private theorem withController_cases {command : Dispatched β τ}
    (h : service.bound = true →
      Refuses service controller command ∨ Accepts service controller env request command) :
    Refuses service controller (service.withController controller request command) ∨
      Accepts service controller env request
        (service.withController controller request command) := by
  unfold ControlService.withController
  split
  · exact .inl (refuses_reject _ _)
  · next hbound => exact h (by simpa using hbound)

/-- What a fault command's outcome amounts to: it failed and changed nothing,
or it set its key. -/
private theorem faultChanged_cases {firstEndpoint secondEndpoint : Bytes} {active : Bool}
    {outcome : Option Bytes × TopologyController} (value : Option FaultConfiguration)
    (hbound : service.bound = true)
    (hvalue : (if active then some request.fault.configuration else none) = value)
    (htarget : outcome.1 = none → request.faultTarget =
      some (.ofEndpoints firstEndpoint secondEndpoint, value))
    (hfails : outcome.1 ≠ none → outcome.2 = controller)
    (hsets : outcome.1 = none →
      Sets (.ofEndpoints firstEndpoint secondEndpoint) value controller outcome.2) :
    Refuses service controller
        (service.faultChanged request firstEndpoint secondEndpoint active outcome) ∨
      Accepts service controller env request
        (service.faultChanged request firstEndpoint secondEndpoint active outcome) := by
  obtain ⟨error?, controller'⟩ := outcome
  subst hvalue
  cases error? with
  | some error =>
      obtain rfl : controller' = controller := hfails (by simp)
      exact .inl (refuses_reject _ _)
  | none =>
      refine .inr (accepts_one rfl rfl rfl rfl rfl rfl rfl ?_)
      exact .changed (htarget rfl) hbound (hsets rfl)

private theorem ofEndpoints_port (p : Bytes) : FaultKey.ofEndpoints p [] = .port p := rfl

private theorem ofEndpoints_link {a b : Bytes} (hb : b ≠ []) :
    FaultKey.ofEndpoints a b = .link s(a, b) :=
  if_neg (by simpa using hb)

private theorem setPortFault_cases (hcommand : request.command = .setPortFault)
    (hbound : service.bound = true) :
    Refuses service controller (service.faultChanged request request.fault.portId [] true
        (ControlService.setOutcome controller
          (controller.setPortFault request.fault.portId request.fault.configuration))) ∨
      Accepts service controller env request
        (service.faultChanged request request.fault.portId [] true
          (ControlService.setOutcome controller
            (controller.setPortFault request.fault.portId request.fault.configuration))) := by
  refine faultChanged_cases (some request.fault.configuration) hbound rfl
    (fun _ => by simp only [ControlRequest.faultTarget, hcommand, ofEndpoints_port]) ?_ ?_
  all_goals
    cases hset : controller.setPortFault request.fault.portId request.fault.configuration with
    | error e => simp [ControlService.setOutcome]
    | ok controller' => simp [ControlService.setOutcome, ofEndpoints_port, sets_setPortFault hset]

private theorem clearPortFault_cases (hcommand : request.command = .clearPortFault)
    (hbound : service.bound = true) :
    Refuses service controller (service.faultChanged request request.fault.portId [] false
        (ControlService.clearOutcome (controller.clearPortFault request.fault.portId))) ∨
      Accepts service controller env request
        (service.faultChanged request request.fault.portId [] false
          (ControlService.clearOutcome (controller.clearPortFault request.fault.portId))) := by
  refine faultChanged_cases none hbound rfl
    (fun _ => by simp only [ControlRequest.faultTarget, hcommand, ofEndpoints_port]) ?_
    fun _ => ?_
  · cases hfault : controller.portFault request.fault.portId with
    | none => simp [clearPortFault_of_none hfault, ControlService.clearOutcome]
    | some configuration =>
        have hflag := (sets_clearPortFault_of_some hfault).1
        cases hclear : controller.clearPortFault request.fault.portId with
        | mk flag controller' =>
            rw [hclear] at hflag
            simp [show flag = true from hflag, ControlService.clearOutcome]
  · have hsets := sets_clearPortFault controller request.fault.portId
    cases hclear : controller.clearPortFault request.fault.portId with
    | mk flag controller' =>
        rw [hclear] at hsets
        cases flag <;> exact hsets

private theorem setLinkFault_cases (hcommand : request.command = .setLinkFault)
    (hbound : service.bound = true) :
    Refuses service controller
        (service.faultChanged request request.fault.firstEndpoint request.fault.secondEndpoint true
          (ControlService.setOutcome controller (controller.setLinkFault
            request.fault.firstEndpoint request.fault.secondEndpoint
            request.fault.configuration))) ∨
      Accepts service controller env request
        (service.faultChanged request request.fault.firstEndpoint request.fault.secondEndpoint true
          (ControlService.setOutcome controller (controller.setLinkFault
            request.fault.firstEndpoint request.fault.secondEndpoint
            request.fault.configuration))) := by
  cases hset : controller.setLinkFault request.fault.firstEndpoint request.fault.secondEndpoint
      request.fault.configuration with
  | error e => exact .inl (refuses_reject _ _)
  | ok controller' =>
      have hsets := sets_setLinkFault hset
      -- The fault that was set is on a link, and links join named nodes.
      have hnamed : request.fault.secondEndpoint ≠ [] :=
        ne_nil_of_linkFault ((hsets.fault _).trans (if_pos rfl))
      refine faultChanged_cases (some request.fault.configuration) hbound rfl
        (fun _ => ?_) (fun h => absurd rfl h) fun _ => ?_
      · simp only [ControlRequest.faultTarget, hcommand, ofEndpoints_link hnamed]
      · rw [ofEndpoints_link hnamed]
        exact hsets

private theorem clearLinkFault_cases (hcommand : request.command = .clearLinkFault)
    (hbound : service.bound = true) :
    Refuses service controller
        (service.faultChanged request request.fault.firstEndpoint request.fault.secondEndpoint false
          (ControlService.clearOutcome (controller.clearLinkFault
            request.fault.firstEndpoint request.fault.secondEndpoint))) ∨
      Accepts service controller env request
        (service.faultChanged request request.fault.firstEndpoint request.fault.secondEndpoint false
          (ControlService.clearOutcome (controller.clearLinkFault
            request.fault.firstEndpoint request.fault.secondEndpoint))) := by
  cases hfault : controller.linkFault request.fault.firstEndpoint request.fault.secondEndpoint with
  | none =>
      rw [clearLinkFault_of_none hfault]
      exact .inl (refuses_reject _ _)
  | some configuration =>
      obtain ⟨hflag, hsets⟩ := sets_clearLinkFault_of_some hfault
      have hnamed := ne_nil_of_linkFault hfault
      cases hclear : controller.clearLinkFault request.fault.firstEndpoint
          request.fault.secondEndpoint with
      | mk flag controller' =>
          rw [hclear] at hflag hsets
          obtain rfl : flag = true := hflag
          refine faultChanged_cases none hbound rfl
            (fun _ => ?_) (fun h => absurd rfl h) fun _ => ?_
          · simp only [ControlRequest.faultTarget, hcommand, ofEndpoints_link hnamed]
          · rw [ofEndpoints_link hnamed]
            exact hsets

private theorem startBenchmark_cases (hcommand : request.command = .startBenchmark)
    (h : service.startBenchmark controller env.allocates request = some d) :
    Refuses service controller d ∨ Accepts service controller env request d := by
  unfold ControlService.startBenchmark at h
  split at h
  · exact .inl (Option.some.inj h ▸ refuses_reject _ _)
  · split at h
    · exact .inl (Option.some.inj h ▸ refuses_reject _ _)
    · split at h
      · exact absurd h (by simp)
      · exact .inl (Option.some.inj h ▸ refuses_reject _ _)
      · obtain rfl := Option.some.inj h
        exact .inr (accepts_one rfl rfl rfl rfl rfl rfl rfl
          (.observed (by simp [hcommand]) (by simp [ControlRequest.faultTarget, hcommand])))

private theorem stopRun_cases (hcommand : request.command = .stopRun) :
    Refuses service controller (service.stopRun controller request) ∨
      Accepts service controller env request (service.stopRun controller request) := by
  unfold ControlService.stopRun
  split
  · exact .inl (refuses_reject _ _)
  · exact .inr (accepts_one rfl rfl rfl rfl rfl rfl rfl
      (.observed (by simp [hcommand]) (by simp [ControlRequest.faultTarget, hcommand])))

/-- **An executed request is refused or accepted.** -/
theorem execute_cases (h : service.execute controller env request = some d) :
    Refuses service controller d ∨ Accepts service controller env request d := by
  unfold ControlService.execute at h
  cases hcommand : request.command with
  | getSwitchState =>
      simp only [hcommand] at h
      exact Option.some.inj h ▸ .inr (getSwitchState_accepts hcommand)
  | getSupervisionState =>
      simp only [hcommand] at h
      exact Option.some.inj h ▸ getSupervisionState_cases hcommand
  | loadTopology =>
      simp only [hcommand] at h
      exact Option.some.inj h ▸ loadTopology_cases hcommand
  | startBenchmark =>
      simp only [hcommand] at h
      exact startBenchmark_cases hcommand h
  | stopRun =>
      simp only [hcommand] at h
      exact Option.some.inj h ▸ stopRun_cases hcommand
  | getActiveFaults =>
      simp only [hcommand] at h
      exact Option.some.inj h ▸ withController_cases fun _ => getActiveFaults_cases hcommand
  | setPortFault =>
      simp only [hcommand] at h
      exact Option.some.inj h ▸ withController_cases (setPortFault_cases hcommand)
  | clearPortFault =>
      simp only [hcommand] at h
      exact Option.some.inj h ▸ withController_cases (clearPortFault_cases hcommand)
  | setLinkFault =>
      simp only [hcommand] at h
      exact Option.some.inj h ▸ withController_cases (setLinkFault_cases hcommand)
  | clearLinkFault =>
      simp only [hcommand] at h
      exact Option.some.inj h ▸ withController_cases (clearLinkFault_cases hcommand)

/-! ## Ids -/

private theorem withController_requestId {requestId : Bytes} {command : Dispatched β τ}
    (hid : request.requestId = requestId) (h : command.1.reply.requestId = requestId) :
    (service.withController controller request command).1.reply.requestId = requestId := by
  unfold ControlService.withController
  split
  · exact hid
  · exact h

private theorem faultChanged_requestId {firstEndpoint secondEndpoint : Bytes} {active : Bool}
    {outcome : Option Bytes × TopologyController} :
    (service.faultChanged request firstEndpoint secondEndpoint active
      outcome).1.reply.requestId = request.requestId := by
  unfold ControlService.faultChanged
  split
  · rfl
  · rfl

/-- **The reply carries the id of the request.** -/
theorem execute_requestId (h : service.execute controller env request = some d) :
    d.1.reply.requestId = request.requestId := by
  unfold ControlService.execute at h
  cases hcommand : request.command with
  | getSwitchState =>
      simp only [hcommand] at h
      exact Option.some.inj h ▸ rfl
  | getSupervisionState =>
      simp only [hcommand, ControlService.getSupervisionState] at h
      obtain rfl := Option.some.inj h
      split <;> rfl
  | loadTopology =>
      simp only [hcommand, ControlService.loadTopology] at h
      obtain rfl := Option.some.inj h
      split
      · rfl
      · split <;> rfl
  | startBenchmark =>
      simp only [hcommand, ControlService.startBenchmark] at h
      split at h
      · exact Option.some.inj h ▸ rfl
      · split at h
        · exact Option.some.inj h ▸ rfl
        · split at h
          · exact absurd h (by simp)
          · exact Option.some.inj h ▸ rfl
          · exact Option.some.inj h ▸ rfl
  | stopRun =>
      simp only [hcommand, ControlService.stopRun] at h
      obtain rfl := Option.some.inj h
      split <;> rfl
  | getActiveFaults =>
      simp only [hcommand] at h
      obtain rfl := Option.some.inj h
      refine withController_requestId rfl ?_
      unfold ControlService.getActiveFaults
      split <;> rfl
  | setPortFault | clearPortFault | setLinkFault | clearLinkFault =>
      simp only [hcommand] at h
      exact Option.some.inj h ▸ withController_requestId rfl faultChanged_requestId

/-! ## Staleness -/

/-- The refusal of a request that names another revision. -/
def staleText : Bytes := bytes "stale topology revision"

private theorem controllerError_ne_stale (e : TopologyControllerError) :
    e.toString ≠ staleText := by
  cases e <;> decide

private theorem benchmarkError_ne_stale (e : BenchmarkError) : e.toString ≠ staleText := by
  cases e <;> decide

private theorem topologyFromFile_ne_stale {files : Files} {path error : Bytes}
    (h : ControlService.topologyFromFile files path = .error error) : error ≠ staleText := by
  unfold ControlService.topologyFromFile at h
  split at h
  · next e _ =>
      obtain rfl := Except.error.inj h
      cases e <;> decide
  · split at h
    · next e _ =>
        obtain rfl := Except.error.inj h
        cases e <;> decide
    · exact absurd h (by simp)

private theorem faultChanged_ne_stale {firstEndpoint secondEndpoint : Bytes} {active : Bool}
    {outcome : Option Bytes × TopologyController} (h : ∀ e, outcome.1 = some e → e ≠ staleText) :
    (service.faultChanged request firstEndpoint secondEndpoint active outcome).1.reply.error ≠
      staleText := by
  obtain ⟨error?, controller'⟩ := outcome
  cases error? with
  | some error => exact h error rfl
  | none => exact List.cons_ne_nil _ _ |>.symm

private theorem setOutcome_ne_stale {result : Except TopologyControllerError TopologyController}
    (e : Bytes) (h : (ControlService.setOutcome controller result).1 = some e) :
    e ≠ staleText := by
  cases result with
  | error failure => exact Option.some.inj h ▸ controllerError_ne_stale failure
  | ok controller' => exact absurd h (by simp [ControlService.setOutcome])

private theorem clearOutcome_ne_stale {result : Bool × TopologyController} (e : Bytes)
    (h : (ControlService.clearOutcome result).1 = some e) : e ≠ staleText := by
  obtain ⟨flag, controller'⟩ := result
  cases flag with
  | false => exact Option.some.inj h ▸ (by decide)
  | true => exact absurd h (by simp [ControlService.clearOutcome])

private theorem withController_ne_stale {command : Dispatched β τ}
    (h : command.1.reply.error ≠ staleText) :
    (service.withController controller request command).1.reply.error ≠ staleText := by
  unfold ControlService.withController
  split
  · exact (by decide : bytes "topology fault control is unavailable" ≠ staleText)
  · exact h

private theorem accepts_ne_stale (h : d.1.reply.error = []) : d.1.reply.error ≠ staleText := by
  rw [h]
  exact List.cons_ne_nil _ _ |>.symm

/-- **An executed request is never refused as stale.** -/
theorem execute_ne_stale (h : service.execute controller env request = some d) :
    d.1.reply.error ≠ staleText := by
  unfold ControlService.execute at h
  cases hcommand : request.command with
  | getSwitchState =>
      simp only [hcommand] at h
      exact Option.some.inj h ▸ accepts_ne_stale rfl
  | getSupervisionState =>
      simp only [hcommand, ControlService.getSupervisionState] at h
      obtain rfl := Option.some.inj h
      split
      · exact (by decide : bytes "supervision state is unavailable" ≠ staleText)
      · exact accepts_ne_stale rfl
  | loadTopology =>
      simp only [hcommand, ControlService.loadTopology] at h
      obtain rfl := Option.some.inj h
      split
      · exact (by decide : bytes "topology loading is unavailable" ≠ staleText)
      · split
        · next hfile => exact topologyFromFile_ne_stale hfile
        · exact accepts_ne_stale rfl
  | startBenchmark =>
      simp only [hcommand, ControlService.startBenchmark] at h
      split at h
      · exact Option.some.inj h ▸
          (by decide : bytes "a benchmark run is already active" ≠ staleText)
      · split at h
        · exact Option.some.inj h ▸ benchmarkError_ne_stale _
        · split at h
          · exact absurd h (by simp)
          · exact Option.some.inj h ▸ benchmarkError_ne_stale _
          · exact Option.some.inj h ▸ accepts_ne_stale rfl
  | stopRun =>
      simp only [hcommand, ControlService.stopRun] at h
      obtain rfl := Option.some.inj h
      split
      · exact (by decide : bytes "no run is active" ≠ staleText)
      · exact accepts_ne_stale rfl
  | getActiveFaults =>
      simp only [hcommand, ControlService.getActiveFaults] at h
      obtain rfl := Option.some.inj h
      refine withController_ne_stale ?_
      split
      · exact controllerError_ne_stale _
      · exact accepts_ne_stale rfl
  | setPortFault =>
      simp only [hcommand] at h
      exact Option.some.inj h ▸ withController_ne_stale (faultChanged_ne_stale setOutcome_ne_stale)
  | clearPortFault =>
      simp only [hcommand] at h
      exact Option.some.inj h ▸
        withController_ne_stale (faultChanged_ne_stale clearOutcome_ne_stale)
  | setLinkFault =>
      simp only [hcommand] at h
      exact Option.some.inj h ▸ withController_ne_stale (faultChanged_ne_stale setOutcome_ne_stale)
  | clearLinkFault =>
      simp only [hcommand] at h
      exact Option.some.inj h ▸
        withController_ne_stale (faultChanged_ne_stale clearOutcome_ne_stale)

/-! ## Dispatching -/

/-- An admitted text is executed. -/
theorem dispatch_of_admits {json : Bytes} (h : service.admits controller json = some request) :
    service.dispatch controller env json = service.execute controller env request := by
  unfold ControlService.admits at h
  unfold ControlService.dispatch
  split at h
  · exact absurd h (by simp)
  · next request' hparse =>
      split at h
      · exact absurd h (by simp)
      · next hvalid =>
          split at h
          · next hcurrent =>
              obtain rfl := Option.some.inj h
              simp only [hparse, hvalid, hcurrent, ne_eq, not_true_eq_false, if_false]
          · exact absurd h (by simp)

/-- A text that is not admitted is refused. -/
theorem dispatch_of_not_admits (env : Environment) {json : Bytes}
    (h : service.admits controller json = none) :
    ∃ d, service.dispatch controller env json = some d ∧ Refuses service controller d := by
  unfold ControlService.admits at h
  unfold ControlService.dispatch
  split at h
  · next e hparse =>
      exact ⟨_, by simp only [hparse], refuses_reject [] e.toString⟩
  · next request' hparse =>
      split at h
      · next e hvalid =>
          exact ⟨_, by simp only [hparse, hvalid],
            refuses_reject request'.requestId e.toString⟩
      · next hvalid =>
          split at h
          · exact absurd h (by simp)
          · next hstale =>
              exact ⟨_, by
                simp only [hparse, hvalid, ne_eq, hstale, not_false_eq_true, if_true],
                refuses_reject request'.requestId (bytes "stale topology revision")⟩

/-- **What a dispatch can do**: refuse, changing nothing, or execute the request
the text carries. -/
theorem dispatch_cases {json : Bytes} (h : service.dispatch controller env json = some d) :
    Refuses service controller d ∨
      ∃ request, service.admits controller json = some request ∧
        Accepts service controller env request d := by
  cases hadmits : service.admits controller json with
  | none =>
      obtain ⟨d', hd', hrefuses⟩ := dispatch_of_not_admits env hadmits
      rw [hd'] at h
      exact .inl (Option.some.inj h ▸ hrefuses)
  | some request =>
      rw [dispatch_of_admits hadmits] at h
      exact (execute_cases h).imp id fun haccepts => ⟨request, rfl, haccepts⟩

/-- What admission checks. -/
theorem ControlService.admits_eq_some {json : Bytes} :
    service.admits controller json = some request ↔
      controlRequestFromJson json = .ok request ∧ request.validate = .ok () ∧
        request.topologyRevision = service.currentTopologyRevision controller := by
  unfold ControlService.admits
  constructor
  · intro h
    split at h
    · exact absurd h (by simp)
    · next hparse =>
        split at h
        · exact absurd h (by simp)
        · next hvalid =>
            split at h
            · next hcurrent =>
                obtain rfl := Option.some.inj h
                exact ⟨hparse, hvalid, hcurrent⟩
            · exact absurd h (by simp)
  · rintro ⟨hparse, hvalid, hcurrent⟩
    simp only [hparse, hvalid, hcurrent, if_true]

/-! ## Exchanges -/

/-- A text and the reply to it. -/
structure Exchange where
  json : Bytes
  reply : ControlReply

/-- An accepted load. -/
def Exchange.isLoad (exchange : Exchange) : Bool :=
  exchange.reply.accepted &&
    (controlRequestFromJson exchange.json).toOption.any fun request =>
      request.command = .loadTopology

theorem isLoad_of_rejected {exchange : Exchange} (h : exchange.reply.accepted = false) :
    exchange.isLoad = false := by
  simp only [Exchange.isLoad, h, Bool.false_and]

theorem isLoad_of_accepted {exchange : Exchange} (haccepted : exchange.reply.accepted = true)
    (hparse : controlRequestFromJson exchange.json = .ok request) :
    exchange.isLoad = decide (request.command = .loadTopology) := by
  simp only [Exchange.isLoad, haccepted, hparse, Except.toOption, Option.any_some, Bool.true_and]

/-- An admitted load of a topology file is accepted. -/
theorem dispatch_load {json : Bytes} {topology : Topology}
    (hadmits : service.admits controller json = some request)
    (hcommand : request.command = .loadTopology) (hbound : service.bound = true)
    (hfile : ControlService.topologyFromFile env.files request.topology.path = .ok topology) :
    ∃ out service', service.dispatch controller env json =
      some (out, service', controller.load topology) := by
  rw [dispatch_of_admits hadmits]
  simp only [ControlService.execute, hcommand, ControlService.loadTopology, hbound, Bool.not_true,
    Bool.false_eq_true, if_false, hfile]
  exact ⟨_, _, rfl⟩

end
end WireLab
