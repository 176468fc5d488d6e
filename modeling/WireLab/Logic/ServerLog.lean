import WireLab.Logic.EventStream
import WireLab.Model.ControlServer

/-!
# What the server enqueues

A client's log says what has been enqueued to it. Every step of the server does
one of three things to the log of a client that does not become congested:
nothing, append an event that goes to everyone, or append the answer to a
request of its own (`Gains`). `Tracks` is what all of them together keep: the
log's events run up to the service's counter without a gap, and every answer is
followed at once by the events of its request.
-/

namespace WireLab

open Base

/-- The event a message is. -/
def Message.published? : Message → Option ControlEvent
  | .answer _ => none
  | .event published => some published

/-- The events in a log. -/
def eventsOf (log : List Message) : List ControlEvent := log.filterMap Message.published?

/-- How many answers a log has. -/
def answers (log : List Message) : Nat := log.countP fun message => message.published?.isNone

/-- Every answer in a log is followed at once by the events of its request. -/
def Answered : List Message → Prop
  | [] => True
  | .event _ :: rest => Answered rest
  | .answer dispatch :: rest => dispatch.events.map .event <+: rest ∧ Answered rest

theorem eventsOf_append (xs ys : List Message) :
    eventsOf (xs ++ ys) = eventsOf xs ++ eventsOf ys :=
  List.filterMap_append

theorem eventsOf_events (events : List ControlEvent) : eventsOf (events.map .event) = events := by
  induction events with
  | nil => rfl
  | cons event events ih => exact congrArg (event :: ·) ih

theorem answers_append (xs ys : List Message) : answers (xs ++ ys) = answers xs + answers ys :=
  List.countP_append

theorem answers_events (events : List ControlEvent) : answers (events.map .event) = 0 := by
  rw [answers, List.countP_eq_zero]
  intro message hmem
  obtain ⟨event, _, rfl⟩ := List.mem_map.mp hmem
  exact Bool.false_ne_true

@[simp]
theorem eventsOf_answer (dispatch : ControlDispatch) (log : List Message) :
    eventsOf (.answer dispatch :: log) = eventsOf log :=
  rfl

theorem answers_answer (dispatch : ControlDispatch) (log : List Message) :
    answers (.answer dispatch :: log) = answers log + 1 :=
  List.countP_cons_of_pos rfl

theorem answered_events (events : List ControlEvent) : Answered (events.map .event) := by
  induction events with
  | nil => trivial
  | cons event events ih => exact ih

/-- Appending cannot separate an answer from its events. -/
theorem Answered.append {xs ys : List Message} (hxs : Answered xs) (hys : Answered ys) :
    Answered (xs ++ ys) := by
  induction xs with
  | nil => exact hys
  | cons message xs ih =>
      cases message with
      | event event => exact ih hxs
      | answer dispatch =>
          exact ⟨hxs.1.trans (List.prefix_append xs ys), ih hxs.2⟩

section
variable {σ : Type} {platform : Platform σ} {config : ControlServerConfig}

/-- A step that leaves a client uncongested found it uncongested, and appended
these messages to its log. -/
def Gains (messages : List Message) (before after : Client σ) : Prop :=
  after.congested = false →
    before.congested = false ∧ after.log = before.log ++ messages ∧ after.asked = before.asked

theorem Gains.refl (client : Client σ) : Gains [] client client :=
  fun h => ⟨h, (List.append_nil _).symm, rfl⟩

theorem Gains.trans {xs ys : List Message} {a b c : Client σ} (hab : Gains xs a b)
    (hbc : Gains ys b c) : Gains (xs ++ ys) a c := by
  intro h
  obtain ⟨hb, hlog, hasked⟩ := hbc h
  obtain ⟨ha, hlog', hasked'⟩ := hab hb
  exact ⟨ha, by rw [hlog, hlog', List.append_assoc], hasked.trans hasked'⟩

theorem gains_enqueue (platform : Platform σ) (config : ControlServerConfig) (message : Message) (client : Client σ) :
    Gains [message] client (client.enqueue platform config message) := by
  intro h
  unfold Client.enqueue at h ⊢
  split
  · next hcongested =>
      rw [if_pos hcongested, hcongested] at h
      exact absurd h (by simp)
  · next hlive =>
      rw [if_neg hlive] at h
      dsimp only at h ⊢
      split
      · next hfull =>
          rw [if_pos hfull] at h
          exact absurd h (by simp)
      · exact ⟨by simpa using hlive, rfl, rfl⟩

theorem gains_flushRounds (rounds : Nat) (client : Client σ) :
    Gains [] client (client.flushRounds platform rounds).2 := by
  induction rounds generalizing client with
  | zero => exact .refl client
  | succ rounds ih =>
      unfold Client.flushRounds
      split
      · exact .refl client
      · dsimp only
        split
        · exact .refl client
        · exact .refl client
        · exact ih _

theorem gains_push (event : ControlEvent) (client : Client σ) :
    Gains [.event event] client (client.push platform config event) := by
  unfold Client.push
  dsimp only
  split
  · exact gains_enqueue _ _ _ client
  · exact (gains_enqueue _ _ _ client).trans (gains_flushRounds _ _)

/-! ## Clients in step with the service -/

/-- A client's log: its events are consecutive and stop just short of `next`,
and its answers are in place, one for each request. -/
structure Tracks (next : UInt64) (client : Client σ) : Prop where
  gapFree : ∃ first, Consecutive (· + 1) first ((eventsOf client.log).map ControlEvent.sequence) ∧
    next = (· + 1)^[(eventsOf client.log).length] first
  answered : Answered client.log
  asked : answers client.log = client.asked.length

/-- Every client that is not congested tracks the counter. -/
def InStep (next : UInt64) (clients : List (Client σ)) : Prop :=
  ∀ client ∈ clients, client.congested = false → Tracks next client

/-- Messages whose events continue the count extend a log. -/
theorem Tracks.extend {next : UInt64} {before after : Client σ} (h : Tracks next before)
    (messages : List Message) (hlog : after.log = before.log ++ messages)
    (hnumbered : Consecutive (· + 1) next ((eventsOf messages).map ControlEvent.sequence))
    (hanswered : Answered messages)
    (hasked : after.asked.length = before.asked.length + answers messages) :
    Tracks ((· + 1)^[(eventsOf messages).length] next) after where
  gapFree := by
    obtain ⟨first, hfirst, hnext⟩ := h.gapFree
    refine ⟨first, ?_, ?_⟩
    · rw [hlog, eventsOf_append, List.map_append]
      refine hfirst.append ?_
      rwa [List.length_map, ← hnext]
    · rw [hlog, eventsOf_append, List.length_append, Nat.add_comm, Function.iterate_add_apply,
        ← hnext]
  answered := hlog ▸ h.answered.append hanswered
  asked := by rw [hlog, answers_append, h.asked, hasked]

/-- A client that gains events keeps track. -/
theorem Tracks.gain {next : UInt64} {before after : Client σ} (events : List ControlEvent)
    (h : before.congested = false → Tracks next before)
    (hgains : Gains (events.map .event) before after)
    (hnumbered : Consecutive (· + 1) next (events.map ControlEvent.sequence))
    (hlive : after.congested = false) :
    Tracks ((· + 1)^[events.length] next) after := by
  obtain ⟨hbefore, hlog, hasked⟩ := hgains hlive
  have htracks := (h hbefore).extend _ hlog (by rwa [eventsOf_events]) (answered_events events)
    (by rw [answers_events, hasked, Nat.add_zero])
  rwa [eventsOf_events] at htracks

/-- Fewer clients. -/
theorem InStep.of_subset {next : UInt64} {clients clients' : List (Client σ)}
    (h : InStep next clients) (hsubset : ∀ client ∈ clients', client ∈ clients) :
    InStep next clients' :=
  fun client hmem => h client (hsubset client hmem)

theorem mem_modify {α : Type*} {xs : List α} {i : Nat} {f : α → α} {y : α}
    (h : y ∈ xs.modify i f) : ∃ x ∈ xs, y = x ∨ y = f x := by
  obtain ⟨j, hj⟩ := List.mem_iff_getElem?.mp h
  rw [List.getElem?_modify] at hj
  cases hx : xs[j]? with
  | none => simp [hx] at hj
  | some x =>
      refine ⟨x, List.mem_of_getElem? hx, ?_⟩
      rw [hx, Option.map_eq_map, Option.map_some, Option.some.injEq] at hj
      split at hj
      · exact .inr hj.symm
      · exact .inl hj.symm

/-- A change that gains nothing. -/
theorem InStep.modify {next : UInt64} {clients : List (Client σ)} (h : InStep next clients)
    (index : Nat) {f : Client σ → Client σ} (hf : ∀ client ∈ clients, Gains [] client (f client)) :
    InStep next (clients.modify index f) := by
  intro client hmem hlive
  obtain ⟨before, hbefore, rfl | rfl⟩ := mem_modify hmem
  · exact h client hbefore hlive
  · exact Tracks.gain [] (h before hbefore) (hf before hbefore) trivial hlive

end

/-! ## Broadcasting -/

section
variable {σ β τ : Type} {platform : Platform σ} {server : ControlServer σ β τ}

/-- Broadcasting changes nothing but the clients. -/
theorem broadcastAll_service (events : List ControlEvent) :
    (server.broadcastAll platform events).service = server.service ∧
      (server.broadcastAll platform events).controller = server.controller ∧
      (server.broadcastAll platform events).config = server.config ∧
      (server.broadcastAll platform events).listening = server.listening ∧
      (server.broadcastAll platform events).clients.length = server.clients.length := by
  induction events generalizing server with
  | nil => exact ⟨rfl, rfl, rfl, rfl, rfl⟩
  | cons event events ih =>
      obtain ⟨hservice, hcontroller, hconfig, hlistening, hlength⟩ :=
        @ih (server.broadcast platform event)
      exact ⟨hservice, hcontroller, hconfig, hlistening, hlength.trans (List.length_map _)⟩

/-- Broadcasting events, every client gains them. -/
theorem mem_broadcastAll {events : List ControlEvent} {client : Client σ}
    (h : client ∈ (server.broadcastAll platform events).clients) :
    ∃ before ∈ server.clients, Gains (events.map .event) before client := by
  induction events generalizing server with
  | nil => exact ⟨client, h, .refl client⟩
  | cons event events ih =>
      obtain ⟨middle, hmiddle, hgains⟩ := @ih (server.broadcast platform event) h
      obtain ⟨before, hbefore, rfl⟩ := List.mem_map.mp hmiddle
      exact ⟨before, hbefore, (gains_push event before).trans hgains⟩

/-- **Broadcasting keeps everyone in step.** -/
theorem InStep.broadcastAll {next : UInt64} (h : InStep next server.clients)
    {events : List ControlEvent}
    (hnumbered : Consecutive (· + 1) next (events.map ControlEvent.sequence)) :
    InStep ((· + 1)^[events.length] next) (server.broadcastAll platform events).clients := by
  intro client hmem hlive
  obtain ⟨before, hbefore, hgains⟩ := mem_broadcastAll hmem
  exact .gain _ (h before hbefore) hgains hnumbered hlive

end
end WireLab
