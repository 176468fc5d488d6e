import WireLab.Model.ControlServer
import WireLab.Base.TSys

/-!
# What the server does to one connection

The server's loops move many connections at once; the claims about a connection
follow a single one of them. Between two reads a connection only ever talks:
events are pushed to it, its requests are answered, its outbox is flushed
(`Talks`). This module says once how each loop moves each connection:

* `broadcastAll_eq`, `handleAll_talks`, `serve_talks` — a broadcast pushes to
  everyone, and a serve talks to everyone but reads from one;
* `pollClient_cases` — what one descriptor of a poll can lead to;
* `Stable` — a property of connections that talking and serving keep holds of
  every connection, live or departed, in every run (`Stable.step`).
-/

namespace WireLab

open Base

section
variable {σ : Type} {platform : Platform σ} {config : ControlServerConfig}

/-- Queue the answer to a request. -/
def Client.reply (platform : Platform σ) (config : ControlServerConfig)
    (dispatch : ControlDispatch) (request : Bytes) (client : Client σ) : Client σ :=
  { client.enqueue platform config (.answer dispatch) with asked := client.asked ++ [request] }

/-- Push events in order. -/
def Client.pushAll (platform : Platform σ) (config : ControlServerConfig)
    (events : List ControlEvent) (client : Client σ) : Client σ :=
  events.foldl (fun client event => client.push platform config event) client

/-- Reading from a connection: how it ended, the socket and the buffer. -/
def Client.drains (platform : Platform σ) (config : ControlServerConfig) (client : Client σ) :
    Drained × σ × Bytes :=
  drain platform (some config.maxRequestBytes) (config.maxRequestBytes + 1) client.socket client.inbox

/-- The connection after the read, before its requests are taken from it. -/
def Client.reads (platform : Platform σ) (config : ControlServerConfig) (client : Client σ) :
    Client σ :=
  let (drained, socket, inbox) := client.drains platform config
  { client with socket, inbox, drained }

/-- The requests a read completes. -/
def Client.requests (platform : Platform σ) (config : ControlServerConfig) (client : Client σ) :
    List Bytes :=
  (takeMessages (client.drains platform config).2.2).1

/-- The partial request after them. -/
def Client.partialRequest (platform : Platform σ) (config : ControlServerConfig)
    (client : Client σ) : Bytes :=
  (takeMessages (client.drains platform config).2.2).2

/-- Talking: the second connection comes of the first by pushing events,
answering requests (these, in this order) and flushing. -/
inductive Talks (platform : Platform σ) (config : ControlServerConfig) :
    Client σ → List Bytes → Client σ → Prop
  | refl (client) : Talks platform config client [] client
  | push {before requests after} (event) : Talks platform config before requests after →
      Talks platform config before requests (after.push platform config event)
  | reply {before requests after} (dispatch request) : Talks platform config before requests after →
      Talks platform config before (requests ++ [request])
        (after.reply platform config dispatch request)
  | flush {before requests after} : Talks platform config before requests after →
      Talks platform config before requests (after.flush platform).2

/-- Talk after talk. -/
theorem Talks.trans {a b c : Client σ} {xs ys : List Bytes} (hab : Talks platform config a xs b)
    (hbc : Talks platform config b ys c) : Talks platform config a (xs ++ ys) c := by
  induction hbc with
  | refl => rwa [List.append_nil]
  | push event _ ih => exact .push event ih
  | reply dispatch request _ ih =>
      rw [← List.append_assoc]
      exact .reply dispatch request ih
  | flush _ ih => exact .flush ih

theorem Talks.pushAll {before after : Client σ} {requests : List Bytes}
    (events : List ControlEvent) (h : Talks platform config before requests after) :
    Talks platform config before requests (after.pushAll platform config events) := by
  induction events generalizing after with
  | nil => exact h
  | cons event events ih => exact ih (.push event h)

/-- What enqueueing and flushing keep, and requests do not matter to, talking
keeps. -/
theorem Talks.preserves {P : Client σ → Prop} {before after : Client σ} {requests : List Bytes}
    (henqueue : ∀ message client, P client → P (client.enqueue platform config message))
    (hflush : ∀ client, P client → P (client.flush platform).2)
    (hasked : ∀ requests client, P client → P { client with asked := requests })
    (h : Talks platform config before requests after) (hbefore : P before) : P after := by
  induction h with
  | refl => exact hbefore
  | push event _ ih =>
      unfold Client.push
      dsimp only
      split
      · exact henqueue _ _ ih
      · exact hflush _ (henqueue _ _ ih)
  | reply dispatch request _ ih => exact hasked _ _ (henqueue _ _ ih)
  | flush _ ih => exact hflush _ ih

/-- A flush changes the socket, the outbox and the two histories of sending. -/
theorem flushRounds_frame (rounds : Nat) (client : Client σ) :
    let after := (client.flushRounds platform rounds).2
    after.inbox = client.inbox ∧ after.congested = client.congested ∧ after.log = client.log ∧
      after.asked = client.asked ∧ after.drained = client.drained := by
  induction rounds generalizing client with
  | zero => exact ⟨rfl, rfl, rfl, rfl, rfl⟩
  | succ rounds ih =>
      simp only [Client.flushRounds]
      split
      · exact ⟨rfl, rfl, rfl, rfl, rfl⟩
      · split
        · exact ⟨rfl, rfl, rfl, rfl, rfl⟩
        · exact ⟨rfl, rfl, rfl, rfl, rfl⟩
        · exact ih _

/-- Queueing touches neither the socket nor what was read. -/
theorem enqueue_frame (message : Message) (client : Client σ) :
    let after := client.enqueue platform config message
    after.socket = client.socket ∧ after.inbox = client.inbox ∧ after.asked = client.asked ∧
      after.handed = client.handed ∧ after.offered = client.offered ∧
      after.drained = client.drained := by
  simp only [Client.enqueue]
  split
  · exact ⟨rfl, rfl, rfl, rfl, rfl, rfl⟩
  · split
    · exact ⟨rfl, rfl, rfl, rfl, rfl, rfl⟩
    · exact ⟨rfl, rfl, rfl, rfl, rfl, rfl⟩

/-- Talking reads nothing, and its requests are the ones that are added. -/
theorem Talks.frame {before after : Client σ} {requests : List Bytes}
    (h : Talks platform config before requests after) :
    after.inbox = before.inbox ∧ after.drained = before.drained ∧
      after.asked = before.asked ++ requests := by
  induction h with
  | refl => exact ⟨rfl, rfl, (List.append_nil _).symm⟩
  | @push requests after event _ ih =>
      obtain ⟨_, hinbox, hasked, _, _, hdrained⟩ :=
        @enqueue_frame _ platform config (.event event) after
      simp only [Client.push]
      split
      · exact ⟨hinbox.trans ih.1, hdrained.trans ih.2.1, hasked.trans ih.2.2⟩
      · obtain ⟨hinbox', _, _, hasked', hdrained'⟩ := @flushRounds_frame _ platform
          (after.enqueue platform config (.event event)).outbox.length
          (after.enqueue platform config (.event event))
        exact ⟨hinbox'.trans (hinbox.trans ih.1), hdrained'.trans (hdrained.trans ih.2.1),
          hasked'.trans (hasked.trans ih.2.2)⟩
  | @reply requests after dispatch request _ ih =>
      obtain ⟨_, hinbox, _, _, _, hdrained⟩ :=
        @enqueue_frame _ platform config (.answer dispatch) after
      refine ⟨hinbox.trans ih.1, hdrained.trans ih.2.1, ?_⟩
      simp only [Client.reply, ih.2.2, List.append_assoc]
  | @flush requests after _ ih =>
      obtain ⟨hinbox, _, _, hasked, hdrained⟩ :=
        @flushRounds_frame _ platform after.outbox.length after
      exact ⟨hinbox.trans ih.1, hdrained.trans ih.2.1, hasked.trans ih.2.2⟩

end

/-! ## The loops -/

section
variable {σ β τ : Type} {platform : Platform σ} {server server' : ControlServer σ β τ}

/-- **A broadcast pushes to every client**, and does nothing else. -/
theorem broadcastAll_eq (events : List ControlEvent) :
    server.broadcastAll platform events =
      { server with clients := server.clients.map (Client.pushAll platform server.config events) } := by
  induction events generalizing server with
  | nil =>
      have hnil : Client.pushAll platform server.config [] = id := rfl
      rw [hnil, List.map_id]
      rfl
  | cons event events ih =>
      refine (@ih (server.broadcast platform event)).trans ?_
      simp only [ControlServer.broadcast, List.map_map]
      rfl

/-- What a call may change: the service, the controller, and the clients that
there are, each by talking; `asked` are the requests it answers to the client at
`index`. -/
structure Speaks (platform : Platform σ) (index : Nat) (asked : List Bytes)
    (before after : ControlServer σ β τ) : Prop where
  config : after.config = before.config
  departed : after.departed = before.departed
  length : after.clients.length = before.clients.length
  talks : ∀ j client, before.clients[j]? = some client → ∃ client',
    after.clients[j]? = some client' ∧
      Talks platform before.config client (if j = index then asked else []) client'

theorem Speaks.refl (index : Nat) (server : ControlServer σ β τ) :
    Speaks platform index [] server server where
  config := rfl
  departed := rfl
  length := rfl
  talks j client h := ⟨client, h, by rw [ite_self]; exact .refl client⟩

theorem Speaks.trans {index : Nat} {xs ys : List Bytes} {a b c : ControlServer σ β τ}
    (hab : Speaks platform index xs a b) (hbc : Speaks platform index ys b c) :
    Speaks platform index (xs ++ ys) a c where
  config := hbc.config.trans hab.config
  departed := hbc.departed.trans hab.departed
  length := hbc.length.trans hab.length
  talks j client h := by
    obtain ⟨middle, hmiddle, hfirst⟩ := hab.talks j client h
    obtain ⟨last, hlast, hsecond⟩ := hbc.talks j middle hmiddle
    rw [hab.config] at hsecond
    have htalks := hfirst.trans hsecond
    refine ⟨last, hlast, ?_⟩
    by_cases hj : j = index
    · simpa only [if_pos hj] using htalks
    · simpa only [if_neg hj, List.append_nil] using htalks

/-- What handling a request does to the client that sent it. -/
theorem handle_client {env : Environment} {index : Nat} {request : Bytes} {client : Client σ}
    (h : server.handle platform env index request = some server')
    (hclient : server.clients[index]? = some client) :
    ∃ dispatch service controller,
      server.service.dispatch server.controller env request = some (dispatch, service, controller) ∧
      server'.clients[index]? = some ((client.reply platform server.config dispatch request).pushAll
        platform server.config dispatch.events) := by
  unfold ControlServer.handle at h
  split at h
  · exact absurd h (by simp)
  · next dispatch service controller hdispatch =>
      obtain rfl := Option.some.inj h
      refine ⟨dispatch, service, controller, hdispatch, ?_⟩
      rw [broadcastAll_eq]
      simp only [ControlServer.modifyClient, List.getElem?_map, List.getElem?_modify, hclient,
        Option.map_eq_map, Option.map_some, if_true]
      rfl

/-- Requests are handled one after the other. -/
theorem handleAll_append {env : Nat → Environment} {index served : Nat} (xs ys : List Bytes) :
    server.handleAll platform env index served (xs ++ ys) =
      (server.handleAll platform env index served xs).bind
        fun p => p.2.handleAll platform env index p.1 ys := by
  induction xs generalizing served server with
  | nil => rfl
  | cons request requests ih =>
      simp only [List.cons_append, ControlServer.handleAll]
      cases server.handle platform (env served) index request with
      | none => rfl
      | some middle => exact ih

/-- **Handling a request** answers it and talks to everyone. -/
theorem handle_speaks {env : Environment} {index : Nat} {request : Bytes}
    (h : server.handle platform env index request = some server') :
    Speaks platform index [request] server server' := by
  unfold ControlServer.handle at h
  split at h
  · exact absurd h (by simp)
  · next dispatch service controller hdispatch =>
      obtain rfl := Option.some.inj h
      rw [broadcastAll_eq]
      refine ⟨rfl, rfl, by simp [ControlServer.modifyClient], fun j client hclient => ?_⟩
      simp only [ControlServer.modifyClient, List.getElem?_map, List.getElem?_modify, hclient,
        Option.map_eq_map, Option.map_some, Option.some.injEq, exists_eq_left']
      by_cases hj : j = index
      · rw [if_pos hj, if_pos hj.symm]
        exact .pushAll _ (.reply dispatch request (.refl client))
      · rw [if_neg hj, if_neg (Ne.symm hj)]
        exact .pushAll _ (.refl client)

theorem handleAll_speaks {env : Nat → Environment} {index served served' : Nat}
    {requests : List Bytes}
    (h : server.handleAll platform env index served requests = some (served', server')) :
    Speaks platform index requests server server' := by
  induction requests generalizing served server with
  | nil =>
      obtain rfl := (Prod.mk.inj (Option.some.inj h)).2
      exact .refl index server
  | cons request requests ih =>
      simp only [ControlServer.handleAll] at h
      split at h
      · exact absurd h (by simp)
      · next middle hmiddle => exact (handle_speaks hmiddle).trans (ih h)

/-- The server with what a read from one of its clients brought. -/
def ControlServer.readFrom (platform : Platform σ) (server : ControlServer σ β τ) (index : Nat)
    (client : Client σ) : ControlServer σ β τ :=
  server.modifyClient index fun other =>
    { other with
      socket := (client.drains platform server.config).2.1
      inbox := (client.drains platform server.config).2.2
      drained := (client.drains platform server.config).1 }

theorem readFrom_client {index : Nat} {client : Client σ}
    (hclient : server.clients[index]? = some client) :
    (server.readFrom platform index client).clients[index]? =
      some (client.reads platform server.config) := by
  simp [ControlServer.readFrom, ControlServer.modifyClient, hclient, Client.reads]

/-- **Serving a client** reads from it, talks to everyone while its complete
messages are dispatched, and leaves it the partial one. -/
theorem serve_spec {env : Nat → Environment} {served served' index : Nat} {client : Client σ}
    {isOpen : Bool}
    (h : server.serve platform env served index client = some (isOpen, served', server')) :
    isOpen = (client.drains platform server.config).1.isOpen ∧ ∃ middle,
      (server.readFrom platform index client).handleAll platform env index served
        (client.requests platform server.config) = some (served', middle) ∧
      server' = middle.modifyClient index
        fun other => { other with inbox := client.partialRequest platform server.config } := by
  simp only [ControlServer.serve] at h
  split at h
  · exact absurd h (by simp)
  · next served'' middle hmiddle =>
      simp only [Option.some.injEq, Prod.mk.injEq] at h
      obtain ⟨hopen, rfl, rfl⟩ := h
      exact ⟨hopen.symm, middle, hmiddle, rfl⟩

/-- **What one descriptor of a poll can lead to.** Nothing; the end of a
connection in error; or, after a serve that kept the connection open if there
was something to read, a flush; the last three settle whether it stays. -/
theorem pollClient_cases {input : PollInput σ} {served served' index : Nat}
    (h : server.pollClient platform input served index = some (served', server')) :
    server' = server ∨
    ∃ client, server.clients[index]? = some client ∧
      (server' = server.settle index false (input.revents index).hangup ∨
      server' = (server.flushAt platform index).2.settle index
        (server.flushAt platform index).1 (input.revents index).hangup ∨
      ∃ isOpen middle, (input.revents index).error = false ∧ (input.revents index).readable = true ∧
        server.serve platform input.env served index client = some (isOpen, served', middle) ∧
        server' = if isOpen then (middle.flushAt platform index).2.settle index
            (middle.flushAt platform index).1 (input.revents index).hangup
          else middle.settle index false (input.revents index).hangup) := by
  simp only [ControlServer.pollClient] at h
  split at h
  · exact .inl (Prod.mk.inj (Option.some.inj h)).2.symm
  · next client hclient =>
      split at h
      · exact .inl (Prod.mk.inj (Option.some.inj h)).2.symm
      · split at h
        · exact .inr ⟨client, hclient, .inl (Prod.mk.inj (Option.some.inj h)).2.symm⟩
        · next herror =>
            refine .inr ⟨client, hclient, .inr ?_⟩
            by_cases hread : (input.revents index).readable = true
            · simp only [hread, if_true] at h
              split at h
              · exact absurd h (by simp)
              · next isOpen served'' middle hserve =>
                  obtain ⟨rfl, rfl⟩ := Prod.mk.inj (Option.some.inj h)
                  refine .inr ⟨isOpen, middle, by simpa using herror, hread, hserve, ?_⟩
                  cases isOpen <;> rfl
            · simp only [hread, Bool.false_eq_true, if_false, if_true, Option.some.injEq,
                Prod.mk.injEq] at h
              exact .inl h.2.symm

/-- The flush at the end of a descriptor's turn. -/
def Client.flushed (platform : Platform σ) (client : Client σ) : Client σ :=
  if client.outbox.isEmpty then client else (client.flush platform).2

theorem Talks.flushed {config : ControlServerConfig} {before after : Client σ}
    {requests : List Bytes} (h : Talks platform config before requests after) :
    Talks platform config before requests (after.flushed platform) := by
  unfold Client.flushed
  split
  · exact h
  · exact .flush h

theorem flushAt_eq (index : Nat) :
    (server.flushAt platform index).2 = server.modifyClient index (Client.flushed platform) := by
  have hmodify : ∀ f : Client σ → Client σ,
      (∀ client, server.clients[index]? = some client → f client = client.flushed platform) →
        server.modifyClient index f = server.modifyClient index (Client.flushed platform) := by
    intro f hf
    refine congrArg (fun clients => { server with clients }) (List.ext_getElem? fun j => ?_)
    rw [List.getElem?_modify, List.getElem?_modify]
    by_cases hj : index = j
    · subst hj
      cases hclient : server.clients[index]? with
      | none => rfl
      | some client => simp [hf client hclient]
    · simp [hj]
  have hid : server = server.modifyClient index id := by
    simp [ControlServer.modifyClient]
  unfold ControlServer.flushAt
  split
  · next hnone =>
      refine hid.trans (hmodify id fun client hclient => ?_)
      exact absurd (hnone.symm.trans hclient) (by simp)
  · next client hclient =>
      split
      · next hempty =>
          refine hid.trans (hmodify id fun other hother => ?_)
          obtain rfl := Option.some.inj (hclient.symm.trans hother)
          exact (if_pos hempty).symm
      · next hfull =>
          refine hmodify _ fun other hother => ?_
          obtain rfl := Option.some.inj (hclient.symm.trans hother)
          exact (if_neg hfull).symm

/-- Settling a client keeps everyone or lets that one go. -/
theorem settle_cases (index : Nat) (alive hangup : Bool) :
    server.settle index alive hangup = server ∧
      (alive = true ∨ server.clients[index]? = none) ∨
    ∃ client, server.clients[index]? = some client ∧
      server.settle index alive hangup =
        { server with
          clients := server.clients.eraseIdx index
          departed := server.departed ++ [client] } := by
  unfold ControlServer.settle
  split
  · next hnone => exact .inl ⟨rfl, .inr hnone⟩
  · next client hclient =>
      split
      · exact .inr ⟨client, hclient, rfl⟩
      · next hstays =>
          refine .inl ⟨rfl, .inl ?_⟩
          cases alive with
          | true => rfl
          | false => simp at hstays

end

/-! ## The server as a system -/

/-- The calls on a server; whoever shares its controller may change it between
them. -/
inductive ServerCall (σ : Type)
  | poll (input : PollInput σ)
  | publishAnalysis (outcome : AnalysisOutcome)
  | publishSupervision (snapshot : SupervisionSnapshot)
  | share (controller : TopologyController)

/-- Polls and publications in any order, from a server without clients. -/
def serving {σ : Type} (platform : Platform σ) (β τ : Type) :
    TSys (ControlServer σ β τ) (ServerCall σ) where
  init server := server.clients = [] ∧ server.departed = []
  step server
    | .poll input => (server.poll platform input).map Prod.snd
    | .publishAnalysis outcome => some (server.publishAnalysis platform outcome)
    | .publishSupervision snapshot => some (server.publishSupervision platform snapshot)
    | .share controller => some { server with controller }

/-- The sockets a call brings in are of this kind. -/
def ServerCall.Brings {σ : Type} (welcome : σ → Prop) : ServerCall σ → Prop
  | .poll input => ∀ connection ∈ input.incoming, welcome connection.socket
  | .publishAnalysis _ | .publishSupervision _ | .share _ => True

/-- Every descriptor of a poll finds `R`. -/
def ControlServer.EachPolled {σ β τ : Type} (platform : Platform σ) (input : PollInput σ)
    (R : Nat → ControlServer σ β τ → Nat → Prop) : Nat → Nat → ControlServer σ β τ → Prop
  | 0, _, _ => True
  | index + 1, served, server => R served server index ∧ ∀ served' server',
      server.pollClient platform input served index = some (served', server') →
        server'.EachPolled platform input R index served'

/-- The server whose descriptors a poll goes through: the benchmark has been
advanced, the congested are gone. -/
def ControlServer.dropped {σ β τ : Type} (platform : Platform σ) (input : PollInput σ)
    (server : ControlServer σ β τ) : ControlServer σ β τ :=
  let server := server.advanceBenchmark platform input
  { server with
    clients := server.clients.filter fun client => !client.congested
    departed := server.departed ++ server.clients.filter Client.congested }

/-- That server, with those who were waiting. -/
def ControlServer.accepted {σ β τ : Type} (platform : Platform σ) (input : PollInput σ)
    (server : ControlServer σ β τ) : ControlServer σ β τ :=
  if input.listener then (server.dropped platform input).acceptPending input.incoming
  else server.dropped platform input

theorem poll_eq {σ β τ : Type} (platform : Platform σ) (input : PollInput σ)
    (server : ControlServer σ β τ) :
    server.poll platform input =
      if server.listening = false then some (0, server)
      else if input.ready = false then some (0, server.dropped platform input)
      else (server.accepted platform input).pollClients platform input
        (server.dropped platform input).clients.length 0 := by
  cases hlistening : server.listening <;> cases hready : input.ready <;>
    simp only [ControlServer.poll, hlistening, hready] <;> rfl

/-- Every descriptor of every poll finds `R`. -/
def ServerCall.Each {σ β τ : Type} (platform : Platform σ)
    (R : PollInput σ → Nat → ControlServer σ β τ → Nat → Prop) (server : ControlServer σ β τ) :
    ServerCall σ → Prop
  | .poll input => server.listening = true → input.ready = true →
      (server.accepted platform input).EachPolled platform input (R input)
        (server.dropped platform input).clients.length 0
  | .publishAnalysis _ | .publishSupervision _ | .share _ => True

section
variable {σ β τ : Type} {platform : Platform σ} {config : ControlServerConfig}
  {server server' : ControlServer σ β τ} {P Q : Client σ → Prop}

/-- Live connections satisfy `P`, departed ones `Q`. -/
structure Everyone (P Q : Client σ → Prop) (server : ControlServer σ β τ) : Prop where
  live : ∀ client ∈ server.clients, P client
  departed : ∀ client ∈ server.departed, Q client

/-- What a property of live connections takes to be kept: that talking keeps it,
and that a read which leaves the connection open keeps it by the time its turn is
over. -/
structure Stable (platform : Platform σ) (config : ControlServerConfig) (welcome : σ → Prop)
    (P Q : Client σ → Prop) : Prop where
  connects : ∀ socket, welcome socket → P { socket }
  talks : ∀ {before after}, P before → Talks platform config before [] after → P after
  serves : ∀ {client after}, P client → (client.drains platform config).1.isOpen = true →
    Talks platform config (client.reads platform config) (client.requests platform config) after →
    P (({ after with inbox := client.partialRequest platform config } : Client σ).flushed platform)
  leaves : ∀ {client}, P client → Q client

/-- What a read that ends a connection of which `P` holds leaves behind satisfies
`Q`. -/
def CutsTo (platform : Platform σ) (config : ControlServerConfig) (P Q : Client σ → Prop)
    (input : PollInput σ) (served : Nat) (server : ControlServer σ β τ) (index : Nat) : Prop :=
  ∀ client served' middle last, server.config = config → P client →
    server.clients[index]? = some client → (input.revents index).error = false → (input.revents index).readable = true →
    server.serve platform input.env served index client = some (false, served', middle) →
    middle.clients[index]? = some last → Q last

/-- After a serve the others have been talked to, and the client itself has been
read from and talked to. -/
theorem serve_speaks {env : Nat → Environment} {served served' index : Nat} {client : Client σ}
    {isOpen : Bool} (hclient : server.clients[index]? = some client)
    (h : server.serve platform env served index client = some (isOpen, served', server')) :
    isOpen = (client.drains platform server.config).1.isOpen ∧
      server'.config = server.config ∧ server'.departed = server.departed ∧
      (∀ j, j ≠ index → ∀ other, server'.clients[j]? = some other → ∃ before ∈ server.clients,
        Talks platform server.config before [] other) ∧
      ∃ after, Talks platform server.config (client.reads platform server.config)
          (client.requests platform server.config) after ∧
        server'.clients[index]? =
          some { after with inbox := client.partialRequest platform server.config } := by
  obtain ⟨hopen, middle, hhandle, rfl⟩ := serve_spec h
  have hspeaks := handleAll_speaks hhandle
  refine ⟨hopen, hspeaks.config, hspeaks.departed, fun j hj other hother => ?_, ?_⟩
  · simp only [ControlServer.modifyClient, List.getElem?_modify, if_neg (Ne.symm hj),
      Option.map_eq_map, Option.map_id_fun', id] at hother
    have hlt : j < server.clients.length := by
      have := (List.getElem?_eq_some_iff.mp hother).1
      rw [hspeaks.length] at this
      simpa [ControlServer.readFrom, ControlServer.modifyClient] using this
    obtain ⟨last, hlast, htalks⟩ := hspeaks.talks j server.clients[j] (by
      simp [ControlServer.readFrom, ControlServer.modifyClient, Ne.symm hj, hlt])
    obtain rfl := Option.some.inj (hlast.symm.trans hother)
    rw [if_neg hj] at htalks
    exact ⟨server.clients[j], List.getElem_mem hlt, htalks⟩
  · obtain ⟨after, hafter, htalks⟩ := hspeaks.talks index _ (readFrom_client hclient)
    rw [if_pos rfl] at htalks
    exact ⟨after, htalks, by simp [ControlServer.modifyClient, hafter]⟩

/-- Letting a client go that may leave. -/
theorem Everyone.settle {index : Nat} {alive hangup : Bool} (h : Everyone P Q server)
    (hleaves : ∀ client, server.clients[index]? = some client → Q client) :
    Everyone P Q (server.settle index alive hangup) := by
  rcases @settle_cases _ _ _ server index alive hangup with ⟨hsame, _⟩ | ⟨client, hclient, hgone⟩
  · rw [hsame]
    exact h
  · rw [hgone]
    refine ⟨fun other hother => h.live other (List.mem_of_mem_eraseIdx hother), fun other hother => ?_⟩
    rcases List.mem_append.mp hother with hold | hlast
    · exact h.departed other hold
    · obtain rfl := List.mem_singleton.mp hlast
      exact hleaves other hclient

section
variable {welcome : σ → Prop} (hP : Stable platform config welcome P Q)
include hP

theorem Stable.broadcastAll (h : Everyone P Q server) (hconfig : server.config = config)
    (events : List ControlEvent) : Everyone P Q (server.broadcastAll platform events) := by
  rw [broadcastAll_eq]
  refine ⟨fun client hclient => ?_, h.departed⟩
  obtain ⟨before, hbefore, rfl⟩ := List.mem_map.mp hclient
  exact hP.talks (h.live before hbefore) (hconfig ▸ .pushAll events (.refl before))

/-- The same with what the service becomes while it produces the events. -/
theorem Stable.publish (h : Everyone P Q server) (hconfig : server.config = config)
    (service : ControlService β τ) (events : List ControlEvent) :
    Everyone P Q ({ server with service }.broadcastAll platform events) ∧
      ({ server with service }.broadcastAll platform events).config = config := by
  have hserver : Everyone P Q ({ server with service } : ControlServer σ β τ) :=
    ⟨h.live, h.departed⟩
  refine ⟨Stable.broadcastAll hP hserver hconfig events, ?_⟩
  rw [broadcastAll_eq]
  exact hconfig

theorem Stable.flushAt (h : Everyone P Q server) (index : Nat) :
    Everyone P Q (server.flushAt platform index).2 := by
  rw [flushAt_eq]
  refine ⟨fun client hclient => ?_, h.departed⟩
  obtain ⟨j, hj⟩ := List.mem_iff_getElem?.mp hclient
  simp only [ControlServer.modifyClient, List.getElem?_modify] at hj
  obtain ⟨before, hbefore, hafter⟩ := Option.map_eq_some_iff.mp hj
  have hlive := h.live before (List.mem_of_getElem? hbefore)
  split at hafter
  · exact hafter ▸ hP.talks hlive (Talks.refl before).flushed
  · exact hafter ▸ hlive

/-- **One descriptor of a poll** keeps everyone, if what it cuts off may leave. -/
theorem Stable.pollClient {input : PollInput σ} {served served' index : Nat}
    (h : Everyone P Q server) (hconfig : server.config = config)
    (hcut : CutsTo platform config P Q input served server index)
    (hpoll : server.pollClient platform input served index = some (served', server')) :
    Everyone P Q server' ∧ server'.config = config := by
  have hleave : ∀ {s : ControlServer σ β τ}, Everyone P Q s → ∀ client,
      s.clients[index]? = some client → Q client :=
    fun hs client hclient => hP.leaves (hs.live client (List.mem_of_getElem? hclient))
  have hsettled : ∀ (s : ControlServer σ β τ) (alive hangup : Bool),
      (s.settle index alive hangup).config = s.config := by
    intro s alive hangup
    rcases @settle_cases _ _ _ s index alive hangup with ⟨hsame, _⟩ | ⟨_, _, hgone⟩
    · rw [hsame]
    · rw [hgone]
  have hflushed : ∀ s : ControlServer σ β τ, (s.flushAt platform index).2.config = s.config :=
    fun s => by rw [flushAt_eq]; rfl
  rcases pollClient_cases hpoll with rfl | ⟨client, hclient, rfl | rfl | hserved⟩
  · exact ⟨h, hconfig⟩
  · exact ⟨h.settle (hleave h), (hsettled _ _ _).trans hconfig⟩
  · have hkept := hP.flushAt h index
    exact ⟨hkept.settle (hleave hkept), (hsettled _ _ _).trans ((hflushed _).trans hconfig)⟩
  · obtain ⟨isOpen, middle, herror, hread, hserve, rfl⟩ := hserved
    obtain ⟨hopen, hmconfig, hdeparted, hothers, after, htalks, hafter⟩ :=
      serve_speaks hclient hserve
    rw [hconfig] at htalks hothers hopen hafter
    have hlive : ∀ j, j ≠ index → ∀ other, middle.clients[j]? = some other → P other := by
      intro j hj other hother
      obtain ⟨before, hbefore, hothertalks⟩ := hothers j hj other hother
      exact hP.talks (h.live before hbefore) hothertalks
    cases isOpen with
    | true =>
        -- The flush at the end of the turn makes up for the read.
        have hkept : Everyone P Q (middle.flushAt platform index).2 := by
          rw [flushAt_eq]
          refine ⟨fun other hother => ?_, fun other hother => h.departed other (hdeparted ▸ hother)⟩
          obtain ⟨j, hj⟩ := List.mem_iff_getElem?.mp hother
          simp only [ControlServer.modifyClient, List.getElem?_modify] at hj
          obtain ⟨before, hbefore, hmodified⟩ := Option.map_eq_some_iff.mp hj
          by_cases hji : index = j
          · subst hji
            obtain rfl := Option.some.inj (hafter.symm.trans hbefore)
            rw [if_pos rfl] at hmodified
            exact hmodified ▸ hP.serves (h.live client (List.mem_of_getElem? hclient)) hopen.symm htalks
          · rw [if_neg hji] at hmodified
            exact hmodified ▸ hlive j (Ne.symm hji) before hbefore
        exact ⟨hkept.settle (hleave hkept),
          (hsettled _ _ _).trans ((hflushed _).trans (hmconfig.trans hconfig))⟩
    | false =>
        -- The client goes, and nobody else was read from.
        refine ⟨?_, (hsettled _ _ _).trans (hmconfig.trans hconfig)⟩
        rcases @settle_cases _ _ _ middle index false (input.revents index).hangup with
          ⟨_, hnone⟩ | ⟨last, hlast, hgone⟩
        · rcases hnone with hfalse | hnone
          · exact absurd hfalse (by simp)
          · exact absurd (hnone.symm.trans hafter) (by simp)
        · change Everyone P Q (middle.settle index false (input.revents index).hangup)
          rw [hgone]
          refine ⟨fun other hother => ?_, fun other hother => ?_⟩
          · obtain ⟨j, hj, hjother⟩ := List.mem_eraseIdx_iff_getElem?.mp hother
            exact hlive j hj other hjother
          · rcases List.mem_append.mp hother with hold | hnew
            · exact h.departed other (hdeparted ▸ hold)
            · obtain rfl := List.mem_singleton.mp hnew
              exact hcut client served' middle other hconfig
                (h.live client (List.mem_of_getElem? hclient)) hclient herror hread hserve hlast

theorem Stable.pollClients {input : PollInput σ} {index served served' : Nat}
    (h : Everyone P Q server) (hconfig : server.config = config)
    (hcut : server.EachPolled platform input (CutsTo platform config P Q input) index served)
    (hpoll : server.pollClients platform input index served = some (served', server')) :
    Everyone P Q server' ∧ server'.config = config := by
  induction index generalizing served server with
  | zero =>
      obtain rfl := (Prod.mk.inj (Option.some.inj hpoll)).2
      exact ⟨h, hconfig⟩
  | succ index ih =>
      simp only [ControlServer.pollClients] at hpoll
      split at hpoll
      · exact absurd hpoll (by simp)
      · next served'' middle hmiddle =>
          obtain ⟨hfirst, hrest⟩ := hcut
          obtain ⟨hmid, hmidconfig⟩ := Stable.pollClient hP h hconfig hfirst hmiddle
          exact ih hmid hmidconfig (hrest served'' middle hmiddle) hpoll

theorem Stable.dropped (input : PollInput σ) (h : Everyone P Q server)
    (hconfig : server.config = config) :
    Everyone P Q (server.dropped platform input) ∧
      (server.dropped platform input).config = config := by
  have hadvanced : Everyone P Q (server.advanceBenchmark platform input) ∧
      (server.advanceBenchmark platform input).config = config := by
    unfold ControlServer.advanceBenchmark
    split
    · exact ⟨h, hconfig⟩
    · exact Stable.publish hP h hconfig _ _
  obtain ⟨hlive, hconfig'⟩ := hadvanced
  refine ⟨⟨fun client hclient => hlive.live client (List.mem_filter.mp hclient).1,
    fun client hclient => ?_⟩, hconfig'⟩
  rcases List.mem_append.mp hclient with hold | hgone
  · exact hlive.departed client hold
  · exact hP.leaves (hlive.live client (List.mem_filter.mp hgone).1)

theorem Stable.acceptPending (incoming : List (Incoming σ)) (h : Everyone P Q server)
    (hconfig : server.config = config)
    (hbrings : ∀ connection ∈ incoming, welcome connection.socket) :
    Everyone P Q (server.acceptPending incoming) ∧
      (server.acceptPending incoming).config = config := by
  induction incoming generalizing server with
  | nil => exact ⟨h, hconfig⟩
  | cons connection incoming ih =>
      have hrest : ∀ connection ∈ incoming, welcome connection.socket :=
        fun other hother => hbrings other (by simp [hother])
      unfold ControlServer.acceptPending
      rw [List.foldl_cons]
      split
      · exact ih h hconfig hrest
      · split
        · exact ih h hconfig hrest
        · refine ih ⟨fun client hclient => ?_, h.departed⟩ hconfig hrest
          rcases List.mem_append.mp hclient with hold | hnew
          · exact h.live client hold
          · obtain rfl := List.mem_singleton.mp hnew
            exact hP.connects _ (hbrings connection (by simp))

/-- **One call** keeps everyone, if the sockets it brings in are welcome and what
it cuts off may leave. -/
theorem Stable.step {call : ServerCall σ} (h : Everyone P Q server)
    (hconfig : server.config = config) (hbrings : call.Brings welcome)
    (hcut : call.Each platform (CutsTo platform config P Q) server)
    (hstep : (serving platform β τ).step server call = some server') :
    Everyone P Q server' ∧ server'.config = config := by
  cases call with
  | poll input =>
      obtain ⟨⟨served, _⟩, hpoll, rfl⟩ := Option.map_eq_some_iff.mp hstep
      obtain ⟨hdropped, hdconfig⟩ := Stable.dropped hP input h hconfig
      rw [poll_eq] at hpoll
      split at hpoll
      · obtain ⟨_, rfl⟩ := Prod.mk.inj (Option.some.inj hpoll)
        exact ⟨h, hconfig⟩
      · next hlistening =>
          split at hpoll
          · obtain ⟨_, rfl⟩ := Prod.mk.inj (Option.some.inj hpoll)
            exact ⟨hdropped, hdconfig⟩
          · next hready =>
              have haccepted : Everyone P Q (server.accepted platform input) ∧
                  (server.accepted platform input).config = config := by
                unfold ControlServer.accepted
                split
                · exact Stable.acceptPending hP _ hdropped hdconfig hbrings
                · exact ⟨hdropped, hdconfig⟩
              exact Stable.pollClients hP haccepted.1 haccepted.2
                (hcut (by simpa using hlistening) (by simpa using hready)) hpoll
  | publishAnalysis outcome =>
      obtain rfl := Option.some.inj hstep
      unfold ControlServer.publishAnalysis
      split
      · exact ⟨h, hconfig⟩
      · exact Stable.publish hP h hconfig _ _
  | publishSupervision snapshot =>
      obtain rfl := Option.some.inj hstep
      unfold ControlServer.publishSupervision
      split
      · exact ⟨h, hconfig⟩
      · exact Stable.publish hP h hconfig _ _
  | share controller =>
      obtain rfl := Option.some.inj hstep
      exact ⟨⟨h.live, h.departed⟩, hconfig⟩

end

/-- What follows from what the descriptors of a poll find. -/
theorem ServerCall.Each.mono {R S : PollInput σ → Nat → ControlServer σ β τ → Nat → Prop}
    (hRS : ∀ input served server index, R input served server index → S input served server index)
    {call : ServerCall σ} (h : call.Each platform R server) : call.Each platform S server := by
  have hpolled : ∀ input index served (server : ControlServer σ β τ),
      server.EachPolled platform input (R input) index served →
        server.EachPolled platform input (S input) index served := by
    intro input index
    induction index with
    | zero => exact fun _ _ _ => trivial
    | succ index ih =>
        exact fun served server ⟨hfirst, hrest⟩ =>
          ⟨hRS input served server index hfirst, fun _ _ hpoll => ih _ _ (hrest _ _ hpoll)⟩
  cases call with
  | poll input => exact fun hlistening hready => hpolled input _ _ _ (h hlistening hready)
  | publishAnalysis outcome => trivial
  | publishSupervision snapshot => trivial
  | share controller => trivial

/-- Nothing is asked of what the descriptors of a poll find. -/
theorem ServerCall.each_true (call : ServerCall σ) :
    call.Each platform (fun _ _ _ _ => True) server := by
  have hpolled : ∀ input index served (server : ControlServer σ β τ),
      server.EachPolled platform input (fun _ _ _ => True) index served := by
    intro input index
    induction index with
    | zero => exact fun _ _ => trivial
    | succ index ih => exact fun _ _ => ⟨trivial, fun _ _ _ => ih _ _⟩
  cases call with
  | poll input => exact fun _ _ => hpolled input _ _ _
  | publishAnalysis outcome => trivial
  | publishSupervision snapshot => trivial
  | share controller => trivial

/-- What holds of every descriptor a poll may find holds of those it finds. -/
theorem ServerCall.each_of_forall {R : PollInput σ → Nat → ControlServer σ β τ → Nat → Prop}
    (h : ∀ input served server index, R input served server index) (call : ServerCall σ) :
    call.Each platform R server :=
  (ServerCall.each_true call).mono fun input served server index _ => h input served server index

/-- A property that reads keep, however they end, cuts to itself. -/
theorem cutsTo_of_reads (hreads : ∀ {client after}, P client →
      Talks platform config (client.reads platform config) (client.requests platform config) after →
      Q { after with inbox := client.partialRequest platform config })
    (input : PollInput σ) (served : Nat) (server : ControlServer σ β τ) (index : Nat) :
    CutsTo platform config P Q input served server index := by
  intro client served' middle last hconfig hclient hat _ _ hserve hlast
  obtain ⟨_, _, _, _, after, htalks, hafter⟩ := serve_speaks hat hserve
  rw [hconfig] at htalks hafter
  obtain rfl := Option.some.inj (hafter.symm.trans hlast)
  exact hreads hclient htalks

end
end WireLab
