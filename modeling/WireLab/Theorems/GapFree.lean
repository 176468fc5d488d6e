import WireLab.Logic.ServerLog
import WireLab.Logic.Connections
import WireLab.Logic.Lab

/-!
# Every client sees a gap-free event stream

The server as a system: polls and publications in any order, whatever the
sockets do. Every step keeps every client that is not congested in step with the
service's counter, because every number the service takes is broadcast before
the next one is taken.
-/

namespace WireLab

open Base

section
variable {σ β τ : Type} {platform : Platform σ} {server server' : ControlServer σ β τ}

/-- The clients of a server are in step with its service. -/
def ControlServer.Synchronised (server : ControlServer σ β τ) : Prop :=
  InStep server.service.nextEventSequence server.clients

/-- A refused request's answer, or an accepted one's, is one message that brings
its events along. -/
private theorem answered_answer (dispatch : ControlDispatch) :
    Answered (.answer dispatch :: dispatch.events.map .event) :=
  ⟨List.prefix_refl _, answered_events _⟩

/-- What a dispatch numbers, whether it refuses or accepts. -/
private theorem dispatch_numbered {service : ControlService β τ}
    {controller : TopologyController} {env : Environment} {json : Bytes} {d : Dispatched β τ}
    (h : service.dispatch controller env json = some d) :
    Consecutive (· + 1) service.nextEventSequence (d.1.events.map ControlEvent.sequence) ∧
      d.2.1.nextEventSequence = (· + 1)^[d.1.events.length] service.nextEventSequence := by
  rcases dispatch_cases h with hrefuses | ⟨request, _, haccepts⟩
  · obtain ⟨_, hevents, hsame, _⟩ := hrefuses.unchanged
    rw [hevents, hsame]
    exact ⟨trivial, rfl⟩
  · exact ⟨haccepts.numbered, haccepts.sequence⟩

/-- **A request is answered before its events are broadcast**, and everyone
stays in step. -/
private theorem synchronised_handle {env : Environment} {index : Nat} {request : Bytes}
    (h : server.Synchronised) (hhandle : server.handle platform env index request = some server') :
    server'.Synchronised := by
  unfold ControlServer.handle at hhandle
  split at hhandle
  · exact absurd hhandle (by simp)
  · next dispatch service controller hdispatch =>
      obtain rfl := Option.some.inj hhandle
      obtain ⟨hnumbered, hnext⟩ := dispatch_numbered hdispatch
      intro client hmem hlive
      obtain ⟨middle, hmiddle, hgains⟩ := mem_broadcastAll hmem
      rw [(broadcastAll_service dispatch.events).1]
      simp only [ControlServer.modifyClient] at hmiddle ⊢
      rw [hnext]
      obtain ⟨before, hbefore, rfl | rfl⟩ := mem_modify hmiddle
      · exact .gain _ (h middle hbefore) hgains hnumbered hlive
      · -- The client that asked gets the answer first.
        obtain ⟨hqueued, hlog, hasked⟩ := hgains hlive
        obtain ⟨hclear, hlog', _⟩ := gains_enqueue platform _ (.answer dispatch)
          before hqueued
        have htracks : Tracks _ client := (h before hbefore hclear).extend
          (.answer dispatch :: dispatch.events.map .event)
          (by rw [hlog, hlog', List.append_assoc]; rfl)
          (by rw [eventsOf_answer, eventsOf_events]; exact hnumbered)
          (answered_answer dispatch)
          (by rw [hasked, answers_answer, answers_events, List.length_append]; rfl)
        rwa [eventsOf_answer, eventsOf_events] at htracks

private theorem synchronised_handleAll {env : Nat → Environment} {index served served' : Nat}
    {requests : List Bytes} (h : server.Synchronised)
    (hhandle : server.handleAll platform env index served requests = some (served', server')) :
    server'.Synchronised := by
  induction requests generalizing served server with
  | nil =>
      obtain rfl := (Prod.mk.inj (Option.some.inj hhandle)).2
      exact h
  | cons request requests ih =>
      simp only [ControlServer.handleAll] at hhandle
      split at hhandle
      · exact absurd hhandle (by simp)
      · next middle hmiddle => exact ih (synchronised_handle h hmiddle) hhandle

/-- Changing what no log depends on. -/
private theorem Synchronised.modifyClient (h : server.Synchronised) (index : Nat)
    {f : Client σ → Client σ} (hf : ∀ client ∈ server.clients, Gains [] client (f client)) :
    (server.modifyClient index f).Synchronised :=
  InStep.modify h index hf

private theorem gains_nil_of_same {before after : Client σ}
    (hcongested : after.congested = before.congested) (hlog : after.log = before.log)
    (hasked : after.asked = before.asked) : Gains [] before after := by
  intro h
  exact ⟨hcongested.symm.trans h, by rw [hlog, List.append_nil], hasked⟩

private theorem synchronised_serve {env : Nat → Environment} {served served' : Nat} {index : Nat}
    {client : Client σ} {isOpen : Bool} (h : server.Synchronised)
    (hserve : server.serve platform env served index client = some (isOpen, served', server')) :
    server'.Synchronised := by
  simp only [ControlServer.serve] at hserve
  split at hserve
  · exact absurd hserve (by simp)
  · next served'' middle hhandle =>
      simp only [Option.some.injEq, Prod.mk.injEq] at hserve
      obtain ⟨_, _, rfl⟩ := hserve
      let out := drain platform (some server.config.maxRequestBytes)
        (server.config.maxRequestBytes + 1) client.socket client.inbox
      have hread := Synchronised.modifyClient h index
        (f := fun c => { c with socket := out.2.1, inbox := out.2.2, drained := out.1 })
        fun _ _ => gains_nil_of_same rfl rfl rfl
      exact Synchronised.modifyClient (synchronised_handleAll hread hhandle) index
        fun _ _ => gains_nil_of_same rfl rfl rfl

private theorem synchronised_flushAt {index : Nat} (h : server.Synchronised) :
    (server.flushAt platform index).2.Synchronised := by
  unfold ControlServer.flushAt
  split
  · exact h
  · split
    · exact h
    · exact Synchronised.modifyClient h index fun client _ => gains_flushRounds _ client

private theorem synchronised_settle {index : Nat} {alive hangup : Bool} (h : server.Synchronised) :
    (server.settle index alive hangup).Synchronised := by
  unfold ControlServer.settle
  split
  · exact h
  · split
    · exact InStep.of_subset h fun client hmem => List.mem_of_mem_eraseIdx hmem
    · exact h

private theorem synchronised_pollClient {input : PollInput σ} {served served' index : Nat}
    (h : server.Synchronised)
    (hpoll : server.pollClient platform input served index = some (served', server')) :
    server'.Synchronised := by
  simp only [ControlServer.pollClient] at hpoll
  split at hpoll
  · obtain rfl := (Prod.mk.inj (Option.some.inj hpoll)).2
    exact h
  · next client hclient =>
      split at hpoll
      · obtain rfl := (Prod.mk.inj (Option.some.inj hpoll)).2
        exact h
      · split at hpoll
        · obtain rfl := (Prod.mk.inj (Option.some.inj hpoll)).2
          exact synchronised_settle h
        · split at hpoll
          · exact absurd hpoll (by simp)
          · next isOpen served'' middle hserved =>
              have hmiddle : middle.Synchronised := by
                split at hserved
                · exact synchronised_serve h hserved
                · obtain rfl := (Prod.mk.inj (Prod.mk.inj (Option.some.inj hserved)).2).2
                  exact h
              obtain rfl := (Prod.mk.inj (Option.some.inj hpoll)).2
              cases isOpen with
              | true => exact synchronised_settle (synchronised_flushAt hmiddle)
              | false => exact synchronised_settle hmiddle

private theorem synchronised_pollClients {input : PollInput σ} {index served served' : Nat}
    (h : server.Synchronised)
    (hpoll : server.pollClients platform input index served = some (served', server')) :
    server'.Synchronised := by
  induction index generalizing served server with
  | zero =>
      obtain rfl := (Prod.mk.inj (Option.some.inj hpoll)).2
      exact h
  | succ index ih =>
      simp only [ControlServer.pollClients] at hpoll
      split at hpoll
      · exact absurd hpoll (by simp)
      · next served'' middle hmiddle => exact ih (synchronised_pollClient h hmiddle) hpoll

/-- A client that has just been accepted has received nothing yet. -/
private theorem tracks_new (next : UInt64) (socket : σ) :
    Tracks next ({ socket } : Client σ) where
  gapFree := ⟨next, trivial, rfl⟩
  answered := trivial
  asked := rfl

private theorem synchronised_acceptPending (incoming : List (Incoming σ))
    (h : server.Synchronised) : (server.acceptPending incoming).Synchronised := by
  induction incoming generalizing server with
  | nil => exact h
  | cons connection incoming ih =>
      refine ih ?_
      dsimp only
      split
      · exact h
      · split
        · exact h
        · intro client hmem hlive
          rcases List.mem_append.mp hmem with hold | hnew
          · exact h client hold hlive
          · obtain rfl := List.mem_singleton.mp hnew
            exact tracks_new _ _

/-- Events that start at the service's counter, broadcast with the counter moved
past them. -/
private theorem synchronised_broadcastAll {service : ControlService β τ}
    {events : List ControlEvent} (h : server.Synchronised)
    (hnumbered : Consecutive (· + 1) server.service.nextEventSequence
      (events.map ControlEvent.sequence))
    (hnext : service.nextEventSequence =
      (· + 1)^[events.length] server.service.nextEventSequence) :
    ({ server with service }.broadcastAll platform events).Synchronised := by
  let served : ControlServer σ β τ := { server with service }
  have hserved : InStep server.service.nextEventSequence served.clients := h
  have hstep : InStep _ (served.broadcastAll platform events).clients :=
    hserved.broadcastAll hnumbered
  rw [← hnext] at hstep
  rw [ControlServer.Synchronised, (broadcastAll_service events).1]
  exact hstep

/-- A slice of a benchmark numbers its events from the counter. -/
private theorem advanceBenchmark_numbered (service : ControlService β τ)
    (controller : TopologyController) (latencyNs : Nat → UInt64) (sliceNs maxPackets : UInt64) :
    let out := service.advanceBenchmark controller latencyNs sliceNs maxPackets
    Consecutive (· + 1) service.nextEventSequence (out.1.events.map ControlEvent.sequence) ∧
      out.2.nextEventSequence = (· + 1)^[out.1.events.length] service.nextEventSequence := by
  simp only [ControlService.advanceBenchmark]
  split
  · exact ⟨trivial, rfl⟩
  · split
    · exact ⟨trivial, rfl⟩
    · split
      · exact ⟨⟨rfl, rfl, trivial⟩, rfl⟩
      · exact ⟨⟨rfl, trivial⟩, rfl⟩

private theorem synchronised_advanceBenchmark (platform : Platform σ) (input : PollInput σ)
    (h : server.Synchronised) :
    (server.advanceBenchmark platform input).Synchronised := by
  unfold ControlServer.advanceBenchmark
  split
  · exact h
  · obtain ⟨hnumbered, hnext⟩ := advanceBenchmark_numbered server.service server.controller
      input.latencyNs input.sliceNs server.config.benchmarkPacketsPerPoll
    exact synchronised_broadcastAll h hnumbered hnext

private theorem synchronised_poll {input : PollInput σ} {served : Nat} (h : server.Synchronised)
    (hpoll : server.poll platform input = some (served, server')) : server'.Synchronised := by
  simp only [ControlServer.poll] at hpoll
  split at hpoll
  · obtain rfl := (Prod.mk.inj (Option.some.inj hpoll)).2
    exact h
  · have hadvanced := synchronised_advanceBenchmark platform input h
    -- Dropping the congested leaves the others.
    have hkept : ({ server.advanceBenchmark platform input with
        clients := (server.advanceBenchmark platform input).clients.filter
          fun client => !client.congested } : ControlServer σ β τ).Synchronised :=
      InStep.of_subset hadvanced fun client hmem => (List.mem_filter.mp hmem).1
    split at hpoll
    · obtain rfl := (Prod.mk.inj (Option.some.inj hpoll)).2
      exact hkept
    · refine synchronised_pollClients ?_ hpoll
      split
      · exact synchronised_acceptPending _ hkept
      · exact hkept

private theorem synchronised_publishAnalysis (outcome : AnalysisOutcome) (h : server.Synchronised) :
    (server.publishAnalysis platform outcome).Synchronised := by
  unfold ControlServer.publishAnalysis
  split
  · exact h
  · obtain ⟨hnumbered, hnext⟩ := analysisEvents_numbered server.service server.controller outcome
    exact synchronised_broadcastAll h hnumbered hnext

private theorem synchronised_publishSupervision (snapshot : SupervisionSnapshot)
    (h : server.Synchronised) : (server.publishSupervision platform snapshot).Synchronised := by
  unfold ControlServer.publishSupervision
  split
  · exact h
  · exact synchronised_broadcastAll h ⟨rfl, trivial⟩ rfl

/-- **Every client sees a gap-free event stream.** Whatever the clients send and
the sockets do, the events enqueued to a client that is connected and has not
become congested carry consecutive numbers from the first one on; each of its
dispatched requests has one answer, and the events of a request follow its
answer at once. -/
theorem clients_see_gap_free_stream (platform : Platform σ) (server : ControlServer σ β τ)
    (h : (serving platform β τ).Reachable server) (client : Client σ)
    (hclient : client ∈ server.clients) (hlive : client.congested = false) :
    (∃ first, Consecutive (· + 1) first
      ((eventsOf client.log).map ControlEvent.sequence)) ∧
    answers client.log = client.asked.length ∧ Answered client.log := by
  have hsynchronised : server.Synchronised := by
    refine TSys.Inductive.invariant (T := serving platform β τ)
      ⟨fun start hinit => ?_, fun before call after hbefore hstep => ?_⟩ server h
    · intro client hmem
      rw [show start.clients = [] from hinit.1] at hmem
      exact absurd hmem (by simp)
    · cases call with
      | poll input =>
          obtain ⟨⟨served, _⟩, hpoll, rfl⟩ := Option.map_eq_some_iff.mp hstep
          exact synchronised_poll hbefore hpoll
      | publishAnalysis outcome =>
          exact Option.some.inj hstep ▸ synchronised_publishAnalysis outcome hbefore
      | publishSupervision snapshot =>
          exact Option.some.inj hstep ▸ synchronised_publishSupervision snapshot hbefore
      | share controller =>
          obtain rfl := Option.some.inj hstep
          exact hbefore
  have htracks := hsynchronised client hclient hlive
  obtain ⟨first, hfirst, _⟩ := htracks.gapFree
  exact ⟨⟨first, hfirst⟩, htracks.asked, htracks.answered⟩

end

/-- Sockets that hold what is still to be received and take one byte at a time. -/
def trickle : Platform Bytes where
  receive
    | [] => (.blocked, [])
    | first :: rest => (.data first rest, [])
  send socket _ := (.taken 0, socket)
  fixed _ := []

/-- A server of the loaded lab that nobody has connected to. -/
def labServer : ControlServer Bytes Unit Unit where
  service := labService
  controller := ({} : TopologyController).load labTopology

/-- A client connects, then its request to slow down `h1` arrives. -/
def slowPortCalls : List (ServerCall Bytes) :=
  [.poll { listener := true, incoming := [{ socket := slowPort 1 "h1" 5 ++ [newline] }]
           env := fun _ => labEnv },
   .poll { revents := fun _ => { readable := true }, env := fun _ => labEnv }]

/-- The client that slows down `h1` is sent an answer and then the event. -/
theorem clients_see_gap_free_stream_slowPort :
    ∃ server client, (serving trickle Unit Unit).exec labServer slowPortCalls = some server ∧
      server.clients = [client] ∧ client.asked = [slowPort 1 "h1" 5] ∧
      (eventsOf client.log).map ControlEvent.sequence = [1] ∧
      answers client.log = 1 ∧ Answered client.log := by
  have hrun : ((serving trickle Unit Unit).exec labServer slowPortCalls).map
      (fun server => server.clients.map fun client =>
        (client.congested, client.asked, (eventsOf client.log).map ControlEvent.sequence)) =
      some [(false, [slowPort 1 "h1" 5], [1])] := by
    decide +kernel
  obtain ⟨server, hexec, hread⟩ := Option.map_eq_some_iff.mp hrun
  obtain ⟨client, hclients, hclient⟩ := List.map_eq_singleton_iff.mp hread
  simp only [Prod.mk.injEq] at hclient
  obtain ⟨hlive, hasked, hevents⟩ := hclient
  have hinit : (serving trickle Unit Unit).init labServer := ⟨rfl, rfl⟩
  obtain ⟨_, hanswers, hanswered⟩ :=
    clients_see_gap_free_stream trickle server (.exec (.init hinit) hexec) client
    (by rw [hclients]; exact List.mem_singleton_self _) hlive
  rw [hasked] at hanswers
  exact ⟨server, client, hexec, hclients, hasked, hevents, hanswers, hanswered⟩

end WireLab
