import WireLab.Logic.Dispatch
import WireLab.Logic.PrintedMessages
import WireLab.Logic.ReplyText

/-!
# A conversation over one connection

The server's end of a connection, as far as its client can tell: it answers the
requests that arrive, in order and each with its id, and publishes events in
between. When it does so, and how much each call of the socket gets through, is up
to the schedule (`Turn`). A server answers as `Conversation.move` says by
`dispatch_requestId`.

`Holds` is what is known of a connection: the bytes that the client has not taken
yet are the messages it has not taken, and what its queries have acted on so far
is right. `Phase` says what else is known while a call runs.
-/

namespace WireLab

open Base Base.Json

/-- What the server sends: an event, or the reply to a request, by its number. -/
inductive Said
  | event (event : ControlEvent)
  | reply (request : Nat) (reply : ControlReply)

namespace Said

def message : Said → ControlMessage
  | .event value => .event value
  | .reply _ value => .reply value

def isEvent : Said → Bool
  | .event _ => true
  | .reply _ _ => false

/-- Its line on the wire. -/
def text (fixed : Float → Bytes) (said : Said) : Bytes := said.message.toJson fixed

end Said

/-- What the server may do: publish an event, or answer the oldest request. -/
inductive ServerMove
  | publish (event : ControlEvent)
  | answer (verdict : ControlReply)

/-- What becomes of a call of the socket: it transfers at least one byte and at
most `more` others, finds nothing to do for now, or meets the end or an error. -/
inductive Outcome
  | transfer (more : Nat)
  | pause
  | close
  | fail

/-- What the server does before a call of the socket, and what becomes of the call. -/
structure Turn where
  moves : List ServerMove := []
  outcome : Outcome := .pause

/-- The connection between a client and the server, with what is to happen on it. -/
structure Conversation where
  requests : List Bytes := []
  unfinishedRequest : Bytes := []
  answered : Nat := 0
  said : List Said := []
  incoming : Bytes := []
  turns : List Turn := []

/-- The id that the reply to a request carries. -/
def replyId (request : Bytes) : Bytes :=
  match controlRequestFromJson request with
  | .ok request => request.requestId
  | .error _ => []

namespace Conversation

/-- The server sends a message. -/
def say (fixed : Float → Bytes) (item : Said) (conversation : Conversation) : Conversation :=
  { conversation with
    said := conversation.said ++ [item]
    incoming := conversation.incoming ++ (item.text fixed ++ [newline]) }

def move (fixed : Float → Bytes) (conversation : Conversation) : ServerMove → Conversation
  | .publish event => conversation.say fixed (.event event)
  | .answer verdict =>
      match conversation.requests[conversation.answered]? with
      | none => conversation
      | some request =>
          { conversation.say fixed
              (.reply conversation.answered { verdict with requestId := replyId request }) with
            answered := conversation.answered + 1 }

/-- The next turn: the moves of the server, and the outcome. After the last turn
nothing happens any more. -/
def next (fixed : Float → Bytes) (conversation : Conversation) : Outcome × Conversation :=
  match conversation.turns with
  | [] => (.pause, conversation)
  | turn :: turns => (turn.outcome, turn.moves.foldl (move fixed) { conversation with turns })

def receive (fixed : Float → Bytes) (conversation : Conversation) : Received × Conversation :=
  match conversation.next fixed with
  | (.transfer more, conversation) =>
      match conversation.incoming with
      | [] => (.blocked, conversation)
      | first :: rest =>
          (.data first (rest.take more), { conversation with incoming := rest.drop more })
  | (.pause, conversation) => (.blocked, conversation)
  | (.close, conversation) => (.closed, conversation)
  | (.fail, conversation) => (.failed, conversation)

/-- What the socket takes joins the request that is under way. -/
def send (fixed : Float → Bytes) (conversation : Conversation) (text : Bytes) :
    Sent × Conversation :=
  match conversation.next fixed with
  | (.transfer more, conversation) =>
      let (requests, unfinishedRequest) :=
        takeMessages (conversation.unfinishedRequest ++ text.take (more + 1))
      (.taken more,
        { conversation with requests := conversation.requests ++ requests, unfinishedRequest })
  | (.pause, conversation) => (.blocked, conversation)
  | (.close, conversation) | (.fail, conversation) => (.failed, conversation)

end Conversation

/-- Sockets that are one end of a conversation. -/
def conversing (fixed : Float → Bytes) : Platform Conversation where
  receive := Conversation.receive fixed
  send := Conversation.send fixed
  fixed

/-- **A reply carries the id of its request**, if there is one to be read. -/
theorem dispatch_requestId {β τ : Type} {service : ControlService β τ}
    {controller : TopologyController} {env : Environment} {json : Bytes} {d : Dispatched β τ}
    (h : service.dispatch controller env json = some d) :
    d.1.reply.requestId = replyId json := by
  cases hparse : controlRequestFromJson json with
  | error e =>
      simp only [ControlService.dispatch, hparse, Option.some.injEq] at h
      simp only [replyId, hparse, ← h]
      rfl
  | ok request =>
      simp only [ControlService.dispatch, hparse] at h
      simp only [replyId, hparse]
      split at h
      · exact Option.some.inj h ▸ rfl
      · split at h
        · exact Option.some.inj h ▸ rfl
        · exact execute_requestId h

/-! ## What is known of a connection -/

/-- What else is known while a call runs: nothing; a request is under way, of which
`front` has been sent; or the reply to the last request is to come, with its id. -/
inductive Phase
  | any
  | sending (front : Bytes)
  | waiting (id : Bytes)

/-- What a phase says of a connection from which `taken` messages were taken. -/
def Phase.Holds (conversation : Conversation) (taken : Nat) : Phase → Prop
  | .any => True
  | .sending front =>
      conversation.unfinishedRequest = front ∧
        conversation.answered = conversation.requests.length ∧
        ∀ item ∈ conversation.said.drop taken, item.isEvent = true
  | .waiting id =>
      conversation.unfinishedRequest = [] ∧
        ((conversation.answered + 1 = conversation.requests.length ∧
            (∃ request, conversation.requests[conversation.answered]? = some request ∧
              replyId request = id) ∧
            ∀ item ∈ conversation.said.drop taken, item.isEvent = true) ∨
          (conversation.answered = conversation.requests.length ∧ ∃ before reply after,
            conversation.said.drop taken =
              before ++ .reply (conversation.requests.length - 1) reply :: after ∧
            reply.requestId = id ∧ (∀ item ∈ before, item.isEvent = true) ∧
            ∀ item ∈ after, item.isEvent = true))

/-- What a client has done with a connection: the requests it sent, the messages it
took, the replies its queries acted on, and the messages it handed on as events. -/
structure Account where
  asked : Nat
  taken : Nat
  acted : List (Nat × Nat)
  messages : List Bytes

/-- The account of a client whose caller was handed `messages`. -/
def ControlClient.account {σ : Type} (messages : List Bytes) (client : ControlClient σ) : Account :=
  ⟨client.asked, client.taken, client.acted, messages⟩

/-- What is known of a connection and of a client's buffer. -/
structure Holds (fixed : Float → Bytes) (phase : Phase) (account : Account) (inbox : Bytes)
    (conversation : Conversation) : Prop where
  unread : inbox ++ conversation.incoming =
    lines ((conversation.said.drop account.taken).map (Said.text fixed))
  within : account.taken ≤ conversation.said.length
  unfinished : newline ∉ conversation.unfinishedRequest
  numbered : conversation.requests.length = account.asked
  phase : phase.Holds conversation account.taken
  acted : ∀ p ∈ account.acted, ∃ reply, conversation.said[p.2]? = some (.reply p.1 reply)
  events : ∀ message ∈ account.messages, ∃ event,
    .event event ∈ conversation.said ∧ message = event.toJson fixed

section
variable {fixed : Float → Bytes} {phase : Phase} {account : Account} {inbox : Bytes}
  {conversation : Conversation}

/-- What is known without a phase. -/
theorem Holds.forget (h : Holds fixed phase account inbox conversation) :
    Holds fixed .any account inbox conversation :=
  { h with phase := trivial }

/-- What is known of more replies and messages is known of fewer. -/
theorem Holds.fewer (h : Holds fixed phase account inbox conversation) {acted : List (Nat × Nat)}
    {messages : List Bytes} (hacted : acted ⊆ account.acted) (hsub : messages ⊆ account.messages) :
    Holds fixed phase { account with acted, messages } inbox conversation :=
  { h with
    acted := fun p hp => h.acted p (hacted hp)
    events := fun message hmessage => h.events message (hsub hmessage) }

/-- One more message on the connection; the phase is the caller's to show. -/
private theorem Holds.say (h : Holds fixed phase account inbox conversation) (item : Said)
    {phase' : Phase} (hphase : phase'.Holds (conversation.say fixed item) account.taken) :
    Holds fixed phase' account inbox (conversation.say fixed item) where
  unread := by
    simp only [Conversation.say, List.drop_append_of_le_length h.within, List.map_append, lines,
      List.flatMap_append, List.map_cons, List.map_nil, List.flatMap_cons, List.flatMap_nil,
      List.append_nil]
    rw [← List.append_assoc, h.unread, lines]
  within := by
    have hwithin := h.within
    simp only [Conversation.say, List.length_append]
    omega
  unfinished := h.unfinished
  numbered := h.numbered
  phase := hphase
  acted p hp := by
    obtain ⟨reply, hreply⟩ := h.acted p hp
    exact ⟨reply, List.getElem?_append_left (List.getElem?_eq_some_iff.mp hreply).1 ▸ hreply⟩
  events message hmessage := by
    obtain ⟨event, hevent, htext⟩ := h.events message hmessage
    exact ⟨event, List.mem_append_left _ hevent, htext⟩

/-- **Nothing the server does unsettles what is known.** -/
theorem Holds.move (h : Holds fixed phase account inbox conversation) (move : ServerMove) :
    Holds fixed phase account inbox (conversation.move fixed move) := by
  have hdrop (item : Said) : (conversation.said ++ [item]).drop account.taken =
      conversation.said.drop account.taken ++ [item] := List.drop_append_of_le_length h.within
  cases move with
  | publish event =>
      refine h.say (.event event) ?_
      have hlater {items : List Said} (hitems : ∀ item ∈ items, item.isEvent = true) :
          ∀ item ∈ items ++ [.event event], item.isEvent = true :=
        List.forall_mem_append.mpr ⟨hitems, List.forall_mem_singleton.mpr rfl⟩
      cases phase with
      | any => trivial
      | sending front =>
          obtain ⟨hfront, hanswered, hevents⟩ := h.phase
          refine ⟨hfront, hanswered, ?_⟩
          simpa only [Conversation.say, hdrop] using hlater hevents
      | waiting id =>
          obtain ⟨hfront, ⟨hanswered, hrequest, hevents⟩ |
            ⟨hanswered, before, reply, after, hsplit, hid, hbefore, hafter⟩⟩ := h.phase
          · refine ⟨hfront, .inl ⟨hanswered, hrequest, ?_⟩⟩
            simpa only [Conversation.say, hdrop] using hlater hevents
          · refine ⟨hfront, .inr ⟨hanswered, before, reply, after ++ [.event event], ?_, hid,
              hbefore, hlater hafter⟩⟩
            simp only [Conversation.say, hdrop, hsplit, List.append_assoc, List.cons_append]
  | answer verdict =>
      unfold Conversation.move
      cases hrequest : conversation.requests[conversation.answered]? with
      | none => exact h
      | some request =>
          have hlt := (List.getElem?_eq_some_iff.mp hrequest).1
          let reply : ControlReply := { verdict with requestId := replyId request }
          have hsaid : Holds fixed .any account inbox
              (conversation.say fixed (.reply conversation.answered reply)) := h.say _ trivial
          refine { hsaid with phase := ?_ }
          cases phase with
          | any => trivial
          | sending front =>
              -- Every request has its answer.
              exact absurd h.phase.2.1 (Nat.ne_of_lt hlt)
          | waiting id =>
              obtain ⟨hfront, ⟨hanswered, ⟨request', hrequest', hid⟩, hevents⟩ | ⟨hanswered, _⟩⟩ :=
                h.phase
              · obtain rfl := Option.some.inj (hrequest'.symm.trans hrequest)
                refine ⟨hfront, .inr ⟨hanswered, conversation.said.drop account.taken, reply, [], ?_,
                  hid, hevents, by simp⟩⟩
                simp only [Conversation.say, hdrop, ← hanswered, Nat.add_sub_cancel]
                rfl
              · exact absurd hanswered (Nat.ne_of_lt hlt)

theorem Holds.next (h : Holds fixed phase account inbox conversation) :
    Holds fixed phase account inbox (conversation.next fixed).2 := by
  unfold Conversation.next
  split
  · exact h
  · next turn turns _ =>
      have hstart : Holds fixed phase account inbox { conversation with turns } := { h with }
      generalize turn.moves = moves
      generalize ({ conversation with turns } : Conversation) = current at hstart ⊢
      induction moves generalizing current with
      | nil => exact hstart
      | cons move moves ih => exact ih _ (hstart.move move)

/-! ## Reading -/

/-- **A read moves bytes into the buffer**, and nothing else of what is known. -/
theorem Holds.receive (h : Holds fixed phase account inbox conversation) :
    match conversation.receive fixed with
    | (.data first rest, conversation) =>
        Holds fixed phase account (inbox ++ first :: rest) conversation
    | (.closed, conversation) | (.blocked, conversation) | (.failed, conversation) =>
        Holds fixed phase account inbox conversation := by
  have hnext := h.next
  unfold Conversation.receive
  generalize conversation.next fixed = turn at hnext ⊢
  obtain ⟨outcome, current⟩ := turn
  cases outcome with
  | transfer more =>
      dsimp only at hnext ⊢
      cases hincoming : current.incoming with
      | nil => exact hnext
      | cons first rest =>
          refine { hnext with unread := ?_ }
          rw [← hnext.unread, hincoming, List.append_assoc, List.cons_append,
            List.take_append_drop]
  | pause => exact hnext
  | close => exact hnext
  | fail => exact hnext

theorem Holds.drain (h : Holds fixed phase account inbox conversation) (rounds : Nat) :
    Holds fixed phase account (drain (conversing fixed) none rounds conversation inbox).2.2
      (drain (conversing fixed) none rounds conversation inbox).2.1 := by
  induction rounds generalizing conversation inbox with
  | zero => exact h
  | succ rounds ih =>
      have hreceive := h.receive
      simp only [WireLab.drain, conversing]
      generalize conversation.receive fixed = answer at hreceive ⊢
      obtain ⟨received, current⟩ := answer
      cases received with
      | data first rest => exact ih hreceive
      | closed => exact hreceive
      | blocked => exact hreceive
      | failed => exact hreceive

/-- What is known once a message has been taken: it is the next one of the
connection, of which `before` was known until then. -/
structure Taken (fixed : Float → Bytes) (phase : Phase) (account : Account) (message inbox : Bytes)
    (conversation : Conversation) (item : Said) : Prop where
  before : ∃ inbox, Holds fixed phase account inbox conversation
  next : ∃ later, conversation.said.drop account.taken = item :: later
  text : message = item.text fixed
  unread : inbox ++ conversation.incoming =
    lines ((conversation.said.drop (account.taken + 1)).map (Said.text fixed))

/-- One message further. -/
private theorem Taken.advance {message : Bytes} {item : Said}
    (h : Taken fixed phase account message inbox conversation item) {phase' : Phase}
    {acted : List (Nat × Nat)} {messages : List Bytes}
    (hphase : phase'.Holds conversation (account.taken + 1))
    (hacted : ∀ p ∈ acted, ∃ reply, conversation.said[p.2]? = some (.reply p.1 reply))
    (hevents : ∀ message ∈ messages, ∃ event,
      .event event ∈ conversation.said ∧ message = event.toJson fixed) :
    Holds fixed phase' ⟨account.asked, account.taken + 1, acted, messages⟩ inbox conversation where
  unread := h.unread
  within := by
    obtain ⟨later, hnext⟩ := h.next
    have hlength := congrArg List.length hnext
    simp only [List.length_drop, List.length_cons] at hlength
    exact Nat.succ_le_of_lt (Nat.lt_of_sub_pos (by omega))
  unfinished := h.before.choose_spec.unfinished
  numbered := h.before.choose_spec.numbered
  phase := hphase
  acted := hacted
  events := hevents

/-- The item taken is the one at its number. -/
private theorem Taken.at {message : Bytes} {item : Said}
    (h : Taken fixed phase account message inbox conversation item) :
    conversation.said[account.taken]? = some item := by
  obtain ⟨later, hnext⟩ := h.next
  rw [← List.head?_drop, hnext]
  rfl

private theorem drop_next {α : Type} {items : List α} {n : Nat} {item : α} {later : List α}
    (h : items.drop n = item :: later) : items.drop (n + 1) = later := by
  rw [← List.drop_drop, h]
  rfl

/-- A message taken for the caller may be anything. -/
theorem Taken.forget {message : Bytes} {item : Said}
    (h : Taken fixed phase account message inbox conversation item) :
    Holds fixed .any { account with taken := account.taken + 1 } inbox conversation := by
  obtain ⟨_, hbefore⟩ := h.before
  have hany : Phase.any.Holds conversation (account.taken + 1) := trivial
  exact h.advance hany hbefore.acted hbefore.events

private theorem Taken.collect {message : Bytes} {event : ControlEvent}
    (h : Taken fixed phase account message inbox conversation (.event event)) {phase' : Phase}
    (hphase : phase'.Holds conversation (account.taken + 1)) :
    message = event.toJson fixed ∧
      Holds fixed phase' { account with
        taken := account.taken + 1
        messages := account.messages ++ [message] } inbox conversation := by
  obtain ⟨_, hbefore⟩ := h.before
  refine ⟨h.text, h.advance hphase hbefore.acted (List.forall_mem_append.mpr
    ⟨hbefore.events, List.forall_mem_singleton.mpr ⟨event, ?_, h.text⟩⟩)⟩
  exact List.mem_of_getElem? h.at

/-- Where no reply is to come, an event is taken. -/
theorem Taken.settled {front message : Bytes} {item : Said}
    (h : Taken fixed (.sending front) account message inbox conversation item) :
    ∃ event : ControlEvent, message = event.toJson fixed ∧
      Holds fixed (.sending front) { account with
        taken := account.taken + 1
        messages := account.messages ++ [message] } inbox conversation := by
  obtain ⟨_, hbefore⟩ := h.before
  obtain ⟨hfront, hanswered, hevents⟩ := hbefore.phase
  obtain ⟨later, hnext⟩ := h.next
  rw [hnext, List.forall_mem_cons] at hevents
  cases item with
  | event event =>
      refine ⟨event, h.collect ⟨hfront, hanswered, ?_⟩⟩
      rw [drop_next hnext]
      exact hevents.2
  | reply => exact absurd hevents.1 (by simp [Said.isEvent])

/-- **While a reply is to come, an event is taken, or that reply.** -/
theorem Taken.awaited {id message : Bytes} {item : Said}
    (h : Taken fixed (.waiting id) account message inbox conversation item) :
    (∃ event : ControlEvent, message = event.toJson fixed ∧
      Holds fixed (.waiting id) { account with
        taken := account.taken + 1
        messages := account.messages ++ [message] } inbox conversation) ∨
    ∃ reply : ControlReply, message = reply.toJson ∧ reply.requestId = id ∧
      Holds fixed (.sending []) { account with
        taken := account.taken + 1
        acted := account.acted ++ [(account.asked - 1, account.taken)] } inbox conversation := by
  obtain ⟨_, hbefore⟩ := h.before
  obtain ⟨later, hnext⟩ := h.next
  obtain ⟨hfront, ⟨hanswered, hrequest, hevents⟩ |
    ⟨hanswered, before, reply, after, hsplit, hid, hevents, hafter⟩⟩ := hbefore.phase
  · -- Its request has not been answered yet.
    rw [hnext, List.forall_mem_cons] at hevents
    cases item with
    | event event =>
        refine .inl ⟨event, h.collect ⟨hfront, .inl ⟨hanswered, hrequest, ?_⟩⟩⟩
        rw [drop_next hnext]
        exact hevents.2
    | reply => exact absurd hevents.1 (by simp [Said.isEvent])
  · cases before with
    | nil =>
        -- The reply is next.
        rw [hnext] at hsplit
        obtain ⟨rfl, rfl⟩ := List.cons_eq_cons.mp hsplit
        refine .inr ⟨reply, h.text, hid, h.advance ⟨hfront, hanswered, ?_⟩ ?_ hbefore.events⟩
        · rw [drop_next hnext]
          exact hafter
        · refine List.forall_mem_append.mpr ⟨hbefore.acted, List.forall_mem_singleton.mpr
            ⟨reply, ?_⟩⟩
          rw [h.at, hbefore.numbered]
    | cons first before =>
        rw [hnext, List.cons_append] at hsplit
        obtain ⟨rfl, rfl⟩ := List.cons_eq_cons.mp hsplit
        rw [List.forall_mem_cons] at hevents
        cases item with
        | event event =>
            refine .inl ⟨event, h.collect ⟨hfront, .inr ⟨hanswered, before, reply, after, ?_, hid,
              hevents.2, hafter⟩⟩⟩
            exact drop_next hnext
        | reply => exact absurd hevents.1 (by simp [Said.isEvent])

/-! ## Sending -/

/-- **What is sent of a request** is under way until its newline is sent, and then
its reply is to come. -/
theorem Holds.send {front json text : Bytes}
    (h : Holds fixed (.sending front) account inbox conversation) (hjson : Lined json)
    (htext : front ++ text = json ++ [newline]) :
    match conversation.send fixed text with
    | (.taken more, conversation) =>
        (text.drop (more + 1) = [] ∧
          Holds fixed (.waiting (replyId json)) { account with asked := account.asked + 1 } inbox
            conversation) ∨
        text.drop (more + 1) ≠ [] ∧
          Holds fixed (.sending (front ++ text.take (more + 1))) account inbox conversation
    | (.blocked, conversation) | (.failed, conversation) =>
        Holds fixed (.sending front) account inbox conversation := by
  have hnext := h.next
  unfold Conversation.send
  generalize conversation.next fixed = turn at hnext ⊢
  obtain ⟨outcome, current⟩ := turn
  cases outcome with
  | transfer more =>
      obtain ⟨hfront, hanswered, hevents⟩ := hnext.phase
      dsimp only at hfront hanswered hevents ⊢
      rw [hfront]
      by_cases hrest : text.drop (more + 1) = []
      · -- All of it: the request is complete.
        have htaken : text.take (more + 1) = text := by
          rw [← List.append_nil (text.take _), ← hrest, List.take_append_drop]
        have hsplit : takeMessages (front ++ text.take (more + 1)) = ([json], []) := by
          have hone : ∀ message ∈ [json], Lined message := List.forall_mem_singleton.mpr hjson
          have hwhole := takeMessages_lines hone []
          rw [List.append_nil, lines_cons] at hwhole
          rw [htaken, htext]
          exact hwhole
        rw [hsplit]
        refine .inl ⟨hrest, { hnext with
          unfinished := List.not_mem_nil
          numbered := ?_
          phase := ⟨rfl, .inl ⟨?_, ⟨json, ?_, rfl⟩, hevents⟩⟩ }⟩
        · simp only [List.length_append, List.length_singleton, hnext.numbered]
        · simp only [List.length_append, List.length_singleton, hanswered]
        · simp only [hanswered, List.getElem?_append_right le_rfl, Nat.sub_self,
            List.getElem?_cons_zero]
      · -- A part of it, and the newline is not in that part.
        have hunended : newline ∉ front ++ text.take (more + 1) := by
          intro hmem
          have hwhole : (front ++ text.take (more + 1)) ++ text.drop (more + 1) =
              json ++ [newline] := by
            rw [List.append_assoc, List.take_append_drop, htext]
          obtain ⟨start, last, hlast⟩ := (List.eq_nil_or_concat' _).resolve_left hrest
          rw [hlast, ← List.append_assoc] at hwhole
          obtain ⟨hjson', _⟩ := List.append_inj' hwhole rfl
          exact hjson.line (hjson' ▸ List.mem_append_left _ hmem)
        rw [takeMessages_unended hunended]
        refine .inr ⟨hrest, { hnext with
          unfinished := hunended
          numbered := ?_
          phase := ⟨rfl, ?_, hevents⟩ }⟩
        · simpa only [List.append_nil] using hnext.numbered
        · simpa only [List.append_nil] using hanswered
  | pause => exact hnext
  | close => exact hnext
  | fail => exact hnext

theorem Holds.sendRounds {front json text : Bytes} {rounds : Nat} {waits : List Wait} {sent : Bool}
    {conversation' : Conversation} (h : Holds fixed (.sending front) account inbox conversation)
    (hjson : Lined json) (htext : front ++ text = json ++ [newline]) (hnonempty : text ≠ [])
    (hsend : ControlClient.sendRounds (conversing fixed) rounds waits conversation text =
      some (sent, conversation')) :
    if sent then
      Holds fixed (.waiting (replyId json)) { account with asked := account.asked + 1 } inbox
        conversation'
    else Holds fixed .any account inbox conversation' := by
  induction rounds generalizing front text waits conversation with
  | zero =>
      cases text with
      | nil => exact absurd rfl hnonempty
      | cons c rest => exact absurd hsend (by simp [ControlClient.sendRounds])
  | succ rounds ih =>
      cases text with
      | nil => exact absurd rfl hnonempty
      | cons c rest =>
          have hone := h.send hjson htext
          simp only [ControlClient.sendRounds, conversing] at hsend
          generalize conversation.send fixed (c :: rest) = answer at hone hsend
          obtain ⟨outcome, current⟩ := answer
          cases outcome with
          | taken more =>
              rcases hone with ⟨hdone, hholds⟩ | ⟨hmore, hholds⟩
              · rw [List.drop_succ_cons] at hdone
                simp only [hdone, ControlClient.sendRounds, Option.some.injEq, Prod.mk.injEq] at hsend
                obtain ⟨rfl, rfl⟩ := hsend
                exact hholds
              · refine ih hholds ?_ hmore hsend
                rw [List.append_assoc, List.take_append_drop, htext]
          | blocked =>
              cases waits with
              | nil => exact absurd hsend (by simp)
              | cons wait waits =>
                  cases wait with
                  | ready => exact ih hone htext hnonempty hsend
                  | failed =>
                      obtain ⟨rfl, rfl⟩ := Prod.mk.inj (Option.some.inj hsend)
                      exact hone.forget
          | failed =>
              have hfailed : some (false, current) = some (sent, conversation') := by
                cases waits <;> exact hsend
              obtain ⟨rfl, rfl⟩ := Prod.mk.inj (Option.some.inj hfailed)
              exact hone.forget

end

section
variable {fixed : Float → Bytes}
  (hfixed : ∀ x : Float, x.isFinite = true ∨ x = 0.0 → FixedNotation (fixed x))
include hfixed

private theorem said_lined (items : List Said) :
    ∀ line ∈ items.map (Said.text fixed), Lined line := by
  have hlined := @message_lined _ hfixed (items.map Said.message)
  rwa [List.map_map] at hlined

variable {phase : Phase} {account : Account} {inbox : Bytes} {conversation : Conversation}

/-- **Taking a message takes the next one of the connection.** -/
theorem Holds.take (h : Holds fixed phase account inbox conversation) :
    (takeMessage inbox = (none, inbox)) ∨
      ∃ message inbox' item, takeMessage inbox = (some message, inbox') ∧
        Taken fixed phase account message inbox' conversation item := by
  obtain ⟨complete, later, partialBytes, hsplit, rfl, hbegins⟩ := lines_front h.unread
  have hlined := said_lined hfixed (conversation.said.drop account.taken)
  rw [hsplit] at hlined
  have hunended : newline ∉ partialBytes :=
    hbegins.line fun line hline => hlined line (List.mem_append_right _ hline)
  cases complete with
  | nil =>
      left
      exact takeMessage_unended hunended
  | cons line complete =>
      right
      have hline := hlined line (by simp)
      obtain ⟨item, items, hitems, rfl, hrest⟩ := List.map_eq_cons_iff.mp hsplit
      have htake : takeMessage (lines (item.text fixed :: complete) ++ partialBytes) =
          (some (item.text fixed), lines complete ++ partialBytes) := by
        rw [lines_cons, List.append_assoc, List.cons_append, takeMessage_line hline]
      refine ⟨_, _, item, htake, ⟨_, h⟩, ⟨items, hitems⟩, rfl, ?_⟩
      have hdrop : conversation.said.drop (account.taken + 1) = items := by
        rw [← List.drop_drop, hitems]
        rfl
      have hunread := h.unread
      rw [hitems, lines_cons, List.append_assoc, List.append_assoc, List.map_cons, lines_cons,
        List.cons_append] at hunread
      have hcancel := List.append_cancel_left hunread
      rw [hdrop]
      simpa only [List.append_assoc, List.cons.injEq, true_and] using hcancel

/-- What one call of `receive` can bring: a message, or none. -/
inductive Receives (fixed : Float → Bytes) (phase : Phase) (messages : List Bytes)
    (client : ControlClient Conversation) :
    Except ControlTransportError (Option Bytes) × ControlClient Conversation → Prop
  | message {message inbox conversation item}
      (h : Taken fixed phase (client.account messages) message inbox conversation item) :
      Receives fixed phase messages client
        (.ok (some message),
          { client with socket := some conversation, inbox, taken := client.taken + 1 })
  | other {result inbox conversation} (hresult : ∀ message, result ≠ .ok (some message))
      (h : Holds fixed phase (client.account messages) inbox conversation) :
      Receives fixed phase messages client
        (result, { client with socket := some conversation, inbox })

variable {messages : List Bytes} {client : ControlClient Conversation}

private theorem await_receives (rounds : Nat) (waits : List Wait)
    (h : Holds fixed phase (client.account messages) inbox conversation) :
    Receives fixed phase messages client
      (ControlClient.await (conversing fixed) rounds client waits conversation inbox) := by
  induction waits generalizing conversation inbox with
  | nil =>
      rcases h.take hfixed with htake | ⟨message, inbox', item, htake, htaken⟩
      · simp only [ControlClient.await, htake]
        exact .other (by simp) h
      · simp only [ControlClient.await, htake]
        exact .message htaken
  | cons wait waits ih =>
      rcases h.take hfixed with htake | ⟨message, inbox', item, htake, htaken⟩
      · cases wait with
        | failed =>
            simp only [ControlClient.await, htake]
            exact .other (by simp) h
        | ready =>
            simp only [ControlClient.await, htake]
            split
            · exact ih (h.drain rounds)
            · exact .other (by simp) (h.drain rounds)
      · simp only [ControlClient.await, htake]
        exact .message htaken

/-- What is known of a client's connection. -/
def Stands (fixed : Float → Bytes) (phase : Phase) (messages : List Bytes)
    (client : ControlClient Conversation) : Prop :=
  ∃ conversation, client.socket = some conversation ∧
    Holds fixed phase (client.account messages) client.inbox conversation

theorem Stands.receive (h : Stands fixed phase messages client) (rounds : Nat)
    (waits : List Wait) :
    Receives fixed phase messages client (client.receive (conversing fixed) rounds waits) := by
  obtain ⟨conversation, hsocket, hholds⟩ := h
  simp only [ControlClient.receive, hsocket]
  exact await_receives hfixed rounds waits hholds

end

end WireLab
