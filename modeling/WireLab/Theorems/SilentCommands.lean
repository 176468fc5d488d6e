import WireLab.Logic.Sending
import WireLab.Logic.Scripts
import WireLab.Logic.ServerLog
import WireLab.Logic.Lab

/-!
# Replies before the end of a connection

`serve` reports that a stream has ended only after the requests before the end
have been dispatched, and `poll` then closes the connection without a flush. The
replies still get out if a broadcast happens to flush them: if the last of those
requests has an event to tell. `Heard` says so of one turn; in every run whose
turns are all so, no command is executed in silence.
-/

namespace WireLab

open Base

section
variable {σ : Type} {platform : Platform σ} {config : ControlServerConfig}

/-- A client's requests have their answers. -/
def Client.Replied (client : Client σ) : Prop :=
  client.congested = false → answers client.log = client.asked.length

/-- Talking answers its requests, unless the connection is given up. -/
theorem Talks.answers {before after : Client σ} {requests : List Bytes}
    (h : Talks platform config before requests after) (hlive : after.congested = false) :
    before.congested = false ∧
      answers after.log = WireLab.answers before.log + requests.length := by
  induction h with
  | refl => exact ⟨hlive, rfl⟩
  | push event _ ih =>
      obtain ⟨hmiddle, hlog, _⟩ := gains_push event _ hlive
      obtain ⟨hbefore, hanswers⟩ := ih hmiddle
      refine ⟨hbefore, ?_⟩
      rw [hlog, answers_append, hanswers]
      rfl
  | reply dispatch request _ ih =>
      obtain ⟨hmiddle, hlog, _⟩ := gains_enqueue platform config (.answer dispatch) _ hlive
      obtain ⟨hbefore, hanswers⟩ := ih hmiddle
      refine ⟨hbefore, ?_⟩
      show WireLab.answers (Client.enqueue platform config _ _).log = _
      rw [hlog, answers_append, hanswers, answers_answer, List.length_append]
      rfl
  | flush _ ih =>
      obtain ⟨hmiddle, hlog, _⟩ := gains_flushRounds _ _ hlive
      obtain ⟨hbefore, hanswers⟩ := ih hmiddle
      rw [List.append_nil] at hlog
      exact ⟨hbefore, hlog ▸ hanswers⟩

theorem Client.Replied.talks {before after : Client σ} {requests : List Bytes}
    (h : before.Replied) (htalks : Talks platform config before requests after) :
    after.Replied := by
  intro hlive
  obtain ⟨hbefore, hanswers⟩ := htalks.answers hlive
  rw [hanswers, h hbefore, htalks.frame.2.2, List.length_append]

/-- What holds of a connection between two turns. -/
private structure Current (fixed : Float → Bytes) (config : ControlServerConfig)
    (client : Client σ) : Prop where
  flows : Flows fixed config client
  offers : Offers fixed client
  replied : client.Replied

/-- A connection is closed once all its replies have been given to the socket,
unless it has been given up or has failed. -/
private def Closes (fixed : Float → Bytes) (client : Client σ) : Prop :=
  (Offers fixed client ∨ client.drained = .failed) ∧ client.Replied

private theorem Current.closes {client : Client σ} (h : Current platform.fixed config client) :
    Closes platform.fixed client :=
  ⟨.inl h.offers, h.replied⟩

private theorem current_stable (platform : Platform σ) (config : ControlServerConfig) :
    Stable platform config (fun _ => True) (Current platform.fixed config)
      (Closes platform.fixed) where
  connects socket _ := ⟨flows_fresh _ _ socket, .inr rfl, fun _ => rfl⟩
  talks h htalks := ⟨h.flows.talks htalks, h.offers.talks h.flows htalks, h.replied.talks htalks⟩
  serves {client after} h _ htalks := by
    have hflows := h.flows.reads htalks
    have hread : (client.reads platform config).Replied := h.replied
    have hafter : after.Replied := hread.talks htalks
    have hreplied : Client.Replied { after with inbox := client.partialRequest platform config } :=
      hafter
    have hflushed : Talks platform config _ [] _ :=
      (Talks.refl { after with inbox := client.partialRequest platform config }).flushed
    exact ⟨hflows.talks hflushed, hflows.flushed_offers, hreplied.talks hflushed⟩
  leaves := Current.closes

/-- A connection that has been given up stays so. -/
private theorem Talks.congested {before after : Client σ} {requests : List Bytes}
    (h : Talks platform config before requests after) (hbefore : before.congested = true) :
    after.congested = true := by
  refine h.preserves (P := fun client => client.congested = true) (fun message client hclient => ?_)
    (fun client hclient => (flushRounds_frame _ _).2.1.trans hclient) (fun _ _ => id) hbefore
  rw [Client.enqueue, if_pos hclient]
  exact hclient

variable {β τ : Type} {server : ControlServer σ β τ}

/-- The turn of a client at the end of its stream is heard: if requests come with
the end, the last of them has an event to tell, or the client is given up over its
answer. -/
def ControlServer.heard (platform : Platform σ) (input : PollInput σ) (served : Nat)
    (server : ControlServer σ β τ) (index : Nat) : Bool :=
  match server.clients[index]? with
  | none => true
  | some client =>
      let drained := (client.drains platform server.config).1
      let requests := client.requests platform server.config
      if (input.revents index).error || !(input.revents index).readable ||
          drained = .empty || drained = .failed then true
      else
        match requests.getLast?,
          (server.readFrom platform index client).handleAll platform input.env index served
            requests.dropLast with
        | some last, some (served, before) =>
            match before.clients[index]?,
              before.service.dispatch before.controller (input.env served) last with
            | some current, some (dispatch, _, _) =>
                !dispatch.events.isEmpty ||
                  (current.enqueue platform server.config (.answer dispatch)).congested
            | _, _ => true
        | _, _ => true

/-- The last push of some offers everything. -/
private theorem pushAll_offers {client : Client σ} (h : Flows platform.fixed config client)
    {events : List ControlEvent} (hevents : events ≠ []) :
    Offers platform.fixed (client.pushAll platform config events) := by
  obtain ⟨front, last, rfl⟩ := (List.eq_nil_or_concat' events).resolve_left hevents
  have hfront : Talks platform config client [] (client.pushAll platform config front) :=
    .pushAll front (.refl client)
  simp only [Client.pushAll, List.foldl_append, List.foldl_cons, List.foldl_nil]
  exact (h.talks hfront).push_offers last

/-- **A turn that is heard leaves no reply behind.** -/
private theorem cutsTo_closes {input : PollInput σ} {served index : Nat}
    (hheard : server.heard platform input served index = true) :
    CutsTo platform config (Current platform.fixed config) (Closes platform.fixed) input served
      server index := by
  intro client served' middle last hconfig hclient hat herror hreadable hserve hlast
  subst hconfig
  obtain ⟨hopen, middle', hhandle, rfl⟩ := serve_spec hserve
  have hreadAt := @readFrom_client _ _ _ platform _ _ _ hat
  obtain ⟨after, hafter, htalks⟩ := (handleAll_speaks hhandle).talks index _ hreadAt
  rw [if_pos rfl] at htalks
  obtain rfl : { after with inbox := client.partialRequest platform server.config } = last := by
    simpa [ControlServer.modifyClient, hafter] using hlast
  have hread : (client.reads platform server.config).Replied := hclient.replied
  have hreplied : after.Replied := hread.talks htalks
  have hflows : Flows platform.fixed server.config (client.reads platform server.config) :=
    hclient.flows.of_same rfl rfl rfl rfl rfl
  have hoffers : Offers platform.fixed (client.reads platform server.config) := hclient.offers
  have hdrained : after.drained = (client.drains platform server.config).1 := htalks.frame.2.1
  -- An error excuses; at the end of the stream the last request decides.
  by_cases hfailed : (client.drains platform server.config).1 = .failed
  · exact ⟨.inr (hdrained.trans hfailed), hreplied⟩
  · refine ⟨.inl ?_, hreplied⟩
    have hempty : (client.drains platform server.config).1 ≠ .empty := by
      intro hempty
      rw [hempty] at hopen
      exact absurd hopen (by decide)
    rcases List.eq_nil_or_concat' (client.requests platform server.config) with
      hnone | ⟨front, request, hrequests⟩
    · rw [hnone] at htalks
      have hafter : Offers platform.fixed after := hoffers.talks hflows htalks
      exact hafter
    · rw [hrequests, handleAll_append] at hhandle
      obtain ⟨⟨served'', before⟩, hfront, hlastHandled⟩ := Option.bind_eq_some_iff.mp hhandle
      obtain ⟨current, hcurrent, htalksFront⟩ := (handleAll_speaks hfront).talks index _ hreadAt
      rw [if_pos rfl] at htalksFront
      simp only [ControlServer.handleAll] at hlastHandled
      split at hlastHandled
      · exact absurd hlastHandled (by simp)
      · next final hhandled =>
          obtain ⟨_, rfl⟩ := Prod.mk.inj (Option.some.inj hlastHandled)
          obtain ⟨dispatch, service, controller, hdispatch, hfinal⟩ :=
            handle_client hhandled hcurrent
          obtain rfl := Option.some.inj (hfinal.symm.trans hafter)
          have hconfig : before.config = server.config := (handleAll_speaks hfront).config
          rw [hconfig]
          have hanswered : Talks platform server.config (client.reads platform server.config)
              (front ++ [request]) (current.reply platform server.config dispatch request) :=
            .reply dispatch request htalksFront
          simp only [ControlServer.heard, hat, herror, hreadable, hempty, hfailed, hrequests,
            List.getLast?_concat, List.dropLast_concat, hfront, hcurrent, hdispatch, Bool.not_true,
            Bool.or_false, decide_false, Bool.false_eq_true, if_false, Bool.or_eq_true,
            Bool.not_eq_true', List.isEmpty_eq_false_iff] at hheard
          rcases hheard with hevents | hcongested
          · exact pushAll_offers (hflows.talks hanswered) hevents
          · have htold : Talks platform server.config
                (current.reply platform server.config dispatch request) [] _ :=
              .pushAll dispatch.events (.refl _)
            exact .inl (htold.congested hcongested)

/-- **No command is executed in silence.** In every run whose turns are all heard,
a connection that is gone was given up, or had failed, or each of its dispatched
requests has a reply, and its socket has been given every one of these replies. -/
theorem replies_are_offered_before_close (platform : Platform σ) (server : ControlServer σ β τ)
    (calls : List (ServerCall σ)) (hinit : (serving platform β τ).init server)
    (hheard : (serving platform β τ).Steps (fun before call _ => call.Each platform
      (fun input served server index => server.heard platform input served index = true) before)
      server calls) :
    (serving platform β τ).States
      (fun after => ∀ client ∈ after.departed,
        client.congested = true ∨ client.drained = .failed ∨
        answers client.log = client.asked.length ∧
          ∀ earlier dispatch later, client.log = earlier ++ .answer dispatch :: later →
            wire platform.fixed (earlier ++ [.answer dispatch]) <+: client.offered)
      server calls := by
  refine TSys.States.of_inductive
    (I := fun after => Everyone (Current platform.fixed server.config) (Closes platform.fixed) after ∧
      after.config = server.config)
    (fun after hafter client hclient => ?_) (fun before call after hbefore hturns hstep => ?_)
    calls server ?_ hheard
  · obtain ⟨hends, hreplied⟩ := hafter.1.departed client hclient
    by_cases hcongested : client.congested = true
    · exact .inl hcongested
    · right
      rcases hends with (hgiven | hoffered) | hfailed
      · exact absurd hgiven hcongested
      · refine .inr ⟨hreplied (by simpa using hcongested), fun earlier dispatch later hlog => ?_⟩
        have hsplit : client.log = (earlier ++ [.answer dispatch]) ++ later := by
          rw [hlog, List.append_assoc, List.singleton_append]
        have hwire := wire_append platform.fixed (earlier ++ [Message.answer dispatch]) later
        rw [hoffered, hsplit, hwire]
        exact List.prefix_append _ _
      · exact .inl hfailed
  · exact (current_stable platform server.config).step hbefore.1 hbefore.2
      (by cases call <;> simp [ServerCall.Brings])
      (hturns.mono fun _ _ _ _ => cutsTo_closes) hstep
  · obtain ⟨hclients, hdeparted⟩ := hinit
    exact ⟨⟨by simp [hclients], by simp [hdeparted]⟩, rfl⟩

end

/-- A request and the end of the stream, to be read in one poll. -/
def lastRequest (revision : Nat) : Nat → Received :=
  script [.ofBytes (labRequest revision "get_switch_state" [] ++ [newline]), .closed]

/-- A client asks for the state and closes its side: the reply is given to its
socket, with the event that follows it. -/
theorem replies_are_offered_before_close_state :
    ∃ server client, (serving scriptedLab Unit Unit).exec (scriptedServer 65536)
        (connectAndRead (lastRequest 1)) = some server ∧ server.departed = [client] ∧
      client.asked.length = 1 ∧ answers client.log = 1 ∧
      ∀ earlier dispatch later, client.log = earlier ++ .answer dispatch :: later →
        wire scriptedLab.fixed (earlier ++ [.answer dispatch]) <+: client.offered := by
  let polled : PollInput (Scripted Unit) :=
    { revents := fun _ => { readable := true }, env := fun _ => labEnv }
  have hrun : ((serving scriptedLab Unit Unit).exec (scriptedServer 65536)
      (connectAndRead (lastRequest 1))).map (fun server => server.departed.map fun client =>
        (client.congested, client.drained, client.asked.length)) =
      some [(false, .closed, 1)] := by
    decide +kernel
  obtain ⟨server, hexec, hread⟩ := Option.map_eq_some_iff.mp hrun
  obtain ⟨client, hdeparted, hclient⟩ := List.map_eq_singleton_iff.mp hread
  simp only [Prod.mk.injEq] at hclient
  obtain ⟨hcongested, hdrained, hasked⟩ := hclient
  -- The second poll has one turn, and its request is heard.
  have hturn : ∀ connected, (serving scriptedLab Unit Unit).step (scriptedServer 65536)
      ((connectAndRead (lastRequest 1)).get ⟨0, by decide⟩) = some connected →
      (connected.dropped scriptedLab polled).clients.length = 1 ∧
        (connected.accepted scriptedLab polled).heard scriptedLab polled 0 0 = true := by
    intro connected hconnected
    have hvalue : ((serving scriptedLab Unit Unit).step (scriptedServer 65536)
        ((connectAndRead (lastRequest 1)).get ⟨0, by decide⟩)).map (fun connected =>
          ((connected.dropped scriptedLab polled).clients.length,
            (connected.accepted scriptedLab polled).heard scriptedLab polled 0 0)) =
        some (1, true) := by
      decide +kernel
    rw [hconnected] at hvalue
    simpa using hvalue
  have hstates := replies_are_offered_before_close scriptedLab (scriptedServer 65536)
    (connectAndRead (lastRequest 1)) ⟨rfl, rfl⟩ (by
      intro connected hconnected
      refine ⟨fun _ _ => trivial, fun last hlast => ⟨fun _ _ => ?_, trivial⟩⟩
      obtain ⟨hone, hheard⟩ := hturn connected hconnected
      rw [show (connected.dropped scriptedLab _).clients.length = 1 from hone]
      exact ⟨hheard, fun _ _ _ => trivial⟩)
  rcases hstates.last hexec client (by rw [hdeparted]; exact List.mem_singleton_self _) with
    hgiven | hfailed | ⟨hanswers, hoffered⟩
  · rw [hcongested] at hgiven
    exact absurd hgiven (by decide)
  · rw [hdrained] at hfailed
    exact absurd hfailed (by decide)
  · exact ⟨server, client, hexec, hdeparted, hasked, hanswers.trans hasked, hoffered⟩

/-- **A command executed in silence.** The same request with a revision that is
not current is refused, which is no event: the reply is queued, the connection is
closed, and the socket has not been given a byte. -/
theorem reply_not_offered_before_close :
    ∃ server client, (serving scriptedLab Unit Unit).exec (scriptedServer 65536)
        (connectAndRead (lastRequest 9)) = some server ∧ server.departed = [client] ∧
      client.congested = false ∧ client.drained = .closed ∧ client.asked.length = 1 ∧
      answers client.log = 1 ∧ client.offered = [] := by
  have hrun : ((serving scriptedLab Unit Unit).exec (scriptedServer 65536)
      (connectAndRead (lastRequest 9))).map (fun server => server.departed.map fun client =>
        (client.congested, client.drained, client.asked.length, answers client.log,
          client.offered.isEmpty)) = some [(false, .closed, 1, 1, true)] := by
    decide +kernel
  obtain ⟨server, hexec, hread⟩ := Option.map_eq_some_iff.mp hrun
  obtain ⟨client, hdeparted, hclient⟩ := List.map_eq_singleton_iff.mp hread
  simp only [Prod.mk.injEq] at hclient
  obtain ⟨hcongested, hdrained, hasked, hanswers, hoffered⟩ := hclient
  exact ⟨server, client, hexec, hdeparted, hcongested, hdrained, hasked, hanswers,
    List.isEmpty_iff.mp hoffered⟩

end WireLab
