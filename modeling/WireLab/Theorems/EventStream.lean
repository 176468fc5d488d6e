import WireLab.Logic.EventStream
import WireLab.Logic.Lab

/-!
# The event stream reconstructs the fault state

Requests are dispatched and batches analysed on one controller, and every event
is appended to the stream as it is emitted. In every reachable state the stream
is numbered consecutively, and a client that has followed it knows exactly the
active faults.
-/

namespace WireLab

open Base TopologyController

/-- A service and a pipeline on one controller, and the events emitted since
the start. -/
structure Watched (β τ : Type) where
  service : ControlService β τ
  pipeline : AnalysisPipeline
  controller : TopologyController
  emitted : List ControlEvent := []

inductive WatchedCall
  | dispatch (env : Environment) (json : Bytes)
  | evaluate (batch : AnalysisBatch) (timestampNs : Nat) (now : Int)

/-- Requests and analysed batches in any order, from a freshly loaded
topology. -/
def watched (β τ : Type) : TSys (Watched β τ) WatchedCall where
  init w := w.service.bound = true ∧ w.controller.hasTopology = true ∧
    (∀ key, w.controller.faultAt key = none) ∧ w.emitted = []
  step w
    | .dispatch env json =>
        (w.service.dispatch w.controller env json).map fun d =>
          { w with service := d.2.1, controller := d.2.2, emitted := w.emitted ++ d.1.events }
    | .evaluate batch timestampNs now =>
        (w.pipeline.evaluate w.controller batch timestampNs now).map fun out =>
          let (dispatch, service) := w.service.analysisEvents out.2.2 out.1
          { service, pipeline := out.2.1, controller := out.2.2
            emitted := w.emitted ++ dispatch.events }

section
variable {β τ : Type} {w w' : Watched β τ}

/-- The invariant: the stream ends where the service's counter stands, and what
it says is what is configured. -/
structure Followed (w : Watched β τ) : Prop where
  bound : w.service.bound = true
  loaded : w.controller.hasTopology = true
  numbered : ∃ first, Consecutive (· + 1) first (w.emitted.map ControlEvent.sequence) ∧
    w.service.nextEventSequence = (· + 1)^[w.emitted.length] first
  view : reconstruct w.emitted = w.controller.faultAt

/-- One call's events continue the stream. -/
private theorem followed_append (h : Followed w) {events : List ControlEvent}
    (hemitted : w'.emitted = w.emitted ++ events) (hbound : w'.service.bound = true)
    (hloaded : w'.controller.hasTopology = true)
    (hnumbered : Consecutive (· + 1) w.service.nextEventSequence
      (events.map ControlEvent.sequence))
    (hnext : w'.service.nextEventSequence = (· + 1)^[events.length] w.service.nextEventSequence)
    (hnews : follow w.controller.faultAt (newsOf events) = w'.controller.faultAt) :
    Followed w' where
  bound := hbound
  loaded := hloaded
  numbered := by
    obtain ⟨first, hfirst, hcounter⟩ := h.numbered
    refine ⟨first, ?_, ?_⟩
    · rw [hemitted, List.map_append]
      refine hfirst.append ?_
      rwa [List.length_map, ← hcounter]
    · rw [hnext, hcounter, hemitted, List.length_append, Nat.add_comm,
        Function.iterate_add_apply]
  view := by
    rw [hemitted, reconstruct, newsOf_append, follow_append]
    exact (congrArg (fun view => follow view (newsOf events)) h.view).trans hnews

/-- An executed request stays on a loaded topology. -/
private theorem hasTopology_of_effect {service : ControlService β τ}
    {controller controller' : TopologyController} {env : Environment} {request : ControlRequest}
    {news : List FaultNews} (h : Effect service controller env request news controller')
    (hloaded : controller.hasTopology = true) : controller'.hasTopology = true := by
  cases h with
  | observed => exact hloaded
  | listed => exact hloaded
  | loaded => rfl
  | changed _ _ hsets => rwa [hasTopology, hsets.topology]

private theorem followed_step {call : WatchedCall} (h : Followed w)
    (hstep : (watched β τ).step w call = some w') : Followed w' := by
  cases call with
  | dispatch env json =>
      obtain ⟨⟨out, service', controller'⟩, hdispatch, rfl⟩ := Option.map_eq_some_iff.mp hstep
      rcases dispatch_cases hdispatch with hrefuses | ⟨request, _, haccepts⟩
      · obtain ⟨_, hevents, hsame, _⟩ := hrefuses.unchanged
        obtain ⟨rfl, rfl⟩ := Prod.mk.inj hsame
        have hsilent : out.events = [] := hevents
        exact followed_append h rfl h.bound h.loaded (hsilent ▸ trivial) (by rw [hsilent]; rfl)
          (by rw [hsilent]; rfl)
      · exact followed_append h rfl (haccepts.bound.trans h.bound)
          (hasTopology_of_effect haccepts.effect h.loaded) haccepts.numbered haccepts.sequence
          haccepts.effect.news
  | evaluate batch timestampNs now =>
      obtain ⟨⟨outcome, pipeline', controller'⟩, hevaluate, rfl⟩ := Option.map_eq_some_iff.mp hstep
      have hnews := evaluate_news w.service h.bound hevaluate
      have htopology := (evaluate_topology hevaluate).1
      obtain ⟨hnumbered, hnext⟩ := analysisEvents_numbered w.service controller' outcome
      refine followed_append h rfl ?_ ?_ hnumbered hnext hnews
      · exact (analysisEvents_service w.service controller' outcome).trans h.bound
      · rw [← h.loaded, hasTopology, hasTopology, htopology]

/-- **The event stream reconstructs the fault state.** After every call, folding
the emitted events (which are numbered consecutively, so that their order is the
order of their sequence numbers) yields exactly the faults that
`active_faults` returns, with their configurations. -/
theorem event_stream_reconstructs_faults {β τ : Type} (w : Watched β τ)
    (h : (watched β τ).Reachable w) :
    (∃ first, Consecutive (· + 1) first (w.emitted.map ControlEvent.sequence)) ∧
    ∃ faults, w.controller.activeFaults = .ok faults ∧ ∀ key configuration,
      reconstruct w.emitted key = some configuration ↔
        ∃ fault ∈ faults, FaultKey.ofEndpoints fault.firstEndpoint fault.secondEndpoint = key ∧
          fault.configuration = configuration := by
  have hfollowed : Followed w := by
    refine TSys.Inductive.invariant ⟨fun start hinit => ?_, fun w call w' => followed_step⟩ w h
    obtain ⟨hbound, hloaded, hnone, hempty⟩ := hinit
    refine ⟨hbound, hloaded, ⟨start.service.nextEventSequence, ?_, ?_⟩, ?_⟩
    · rw [hempty]
      trivial
    · rw [hempty]
      rfl
    · rw [hempty]
      exact (funext hnone).symm
  obtain ⟨first, hfirst, _⟩ := hfollowed.numbered
  obtain ⟨faults, hfaults⟩ : ∃ faults, w.controller.activeFaults = .ok faults := by
    obtain ⟨topology, htopology⟩ := Option.isSome_iff_exists.mp hfollowed.loaded
    simp only [activeFaults, htopology]
    exact ⟨_, rfl⟩
  refine ⟨⟨first, hfirst⟩, faults, hfaults, fun key configuration => ?_⟩
  rw [hfollowed.view, ← mem_activeFaults hfaults]

end

/-- The lab, freshly loaded, with a pipeline attached. -/
def watchedLab : Watched Unit Unit where
  service := labService
  pipeline := { attached := true }
  controller := ({} : TopologyController).load labTopology

/-- After `h1` has been slowed down and a quiet batch analysed, a client knows
about the latency. -/
theorem event_stream_reconstructs_faults_slowPort :
    ∃ w, (watched Unit Unit).exec watchedLab
        [.dispatch labEnv (slowPort 1 "h1" 5), .evaluate {} 0 0] = some w ∧
      reconstruct w.emitted (.port (bytes "h1")) = some { latency := 5000000 } := by
  have hrun : ((watched Unit Unit).exec watchedLab
      [.dispatch labEnv (slowPort 1 "h1" 5), .evaluate {} 0 0]).map
        (fun w => w.controller.activeFaults.toOption) =
      some (some [{ firstEndpoint := bytes "h1", secondEndpoint := []
                    configuration := { latency := 5000000 } }]) := by
    decide +kernel
  obtain ⟨w, hexec, hactive⟩ := Option.map_eq_some_iff.mp hrun
  have hinit : (watched Unit Unit).init watchedLab :=
    ⟨rfl, rfl, fun key => faultAt_load labTopology key, rfl⟩
  obtain ⟨_, faults, hfaults, hview⟩ :=
    event_stream_reconstructs_faults w (.exec (.init hinit) hexec)
  rw [hfaults, Except.toOption, Option.some.injEq] at hactive
  exact ⟨w, hexec, (hview _ _).mpr ⟨_, by rw [hactive]; exact List.mem_singleton_self _, rfl, rfl⟩⟩

end WireLab
