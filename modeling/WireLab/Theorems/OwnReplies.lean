import WireLab.Base.TSys
import WireLab.Logic.Conversation

/-!
# Own replies

`resync` numbers its requests anew in each call, and a reply that comes after its
call has given up stays on the stream. A later call takes it for its own answer, or
hands it to the caller among the events. `Quiet` says that no such reply is
outstanding; in every run whose calls all start so, each query acts on the reply to
the request it sent, and only events are handed on.
-/

namespace WireLab

open Base

/-! ## What a call leaves behind -/

/-- What a call leaves behind that collects events for the caller, who was handed
`handed` before: on an error nothing more is handed on. -/
def Leaves (fixed : Float → Bytes) (handed : List Bytes) {α : Type} :
    Option (Except ControlTransportError α × List Bytes × ControlClient Conversation) → Prop
  | none => True
  | some (.error _, _, client) => Stands fixed .any handed client
  | some (.ok _, events, client) => Stands fixed (.sending []) (handed ++ events) client

section
variable {fixed : Float → Bytes}
  (hfixed : ∀ x : Float, x.isFinite = true ∨ x = 0.0 → FixedNotation (fixed x))
  {phase : Phase} {front : Bytes} {handed messages : List Bytes}
  {client : ControlClient Conversation}

theorem Stands.forget (h : Stands fixed phase messages client) : Stands fixed .any messages client := by
  obtain ⟨conversation, hsocket, hholds⟩ := h
  exact ⟨conversation, hsocket, hholds.forget⟩

/-- A caller may have been handed less. -/
theorem Stands.fewer (h : Stands fixed phase messages client) (hsub : handed ⊆ messages) :
    Stands fixed phase handed client := by
  obtain ⟨conversation, hsocket, hholds⟩ := h
  exact ⟨conversation, hsocket, hholds.fewer (List.Subset.refl _) hsub⟩

include hfixed

/-- **Once a request has been sent whole, its reply is to come.** A part of an
earlier request that is still under way becomes a part of it. -/
private theorem Stands.send (h : Stands fixed (.sending front) messages client)
    (writes : List Wait) (request : ControlRequest) :
    match client.send (conversing fixed) writes request.toJson with
    | none => True
    | some (.error _, client) => Stands fixed .any messages client
    | some (.ok (), client) => ∃ id, Stands fixed (.waiting id) messages client := by
  obtain ⟨conversation, hsocket, hholds⟩ := h
  have hrequest : Lined request.toJson :=
    @message_lined _ hfixed [.request request] _ (List.mem_singleton_self _)
  have hfront : newline ∉ front := hholds.phase.1 ▸ hholds.unfinished
  have hline := hrequest.joined hfront
  simp only [ControlClient.send, hsocket]
  cases hrounds : ControlClient.sendRounds (conversing fixed)
      ((request.toJson ++ [newline]).length + writes.length) writes conversation
      (request.toJson ++ [newline]) with
  | none => trivial
  | some result =>
      obtain ⟨sent, conversation'⟩ := result
      have hsent := hholds.sendRounds hline (List.append_assoc ..).symm (by simp) hrounds
      cases sent with
      | false => exact ⟨conversation', rfl, hsent⟩
      | true => exact ⟨_, conversation', rfl, hsent⟩

/-- Where no reply is to come, waiting for one ends in an error. -/
private theorem Stands.awaitReply_error (h : Stands fixed (.sending front) handed client)
    (rounds : Nat) (id : Bytes) (passes : List (List Wait)) (events : List Bytes) :
    match client.awaitReply (conversing fixed) rounds id passes events with
    | (.error _, _, client) => Stands fixed .any handed client
    | (.ok _, _, _) => False := by
  induction passes generalizing client events with
  | nil => exact h.forget
  | cons waits passes ih =>
      have hreceive := h.receive hfixed rounds waits
      simp only [ControlClient.awaitReply]
      generalize client.receive (conversing fixed) rounds waits = answer at hreceive ⊢
      cases hreceive with
      | message hmessage =>
          obtain ⟨event, rfl, hholds⟩ := hmessage.settled
          simp only [parse_event]
          refine ih (Stands.fewer ⟨_, rfl, hholds⟩ ?_) _
          exact List.subset_append_left _ _
      | @other result _ _ hresult hholds =>
          cases result with
          | error => exact ⟨_, rfl, hholds.forget⟩
          | ok found =>
              cases found with
              | none => exact ⟨_, rfl, hholds.forget⟩
              | some message => exact absurd rfl (hresult message)

/-- **A query acts on the reply to come, or on none.** -/
private theorem Stands.awaitReply {id : Bytes} {events : List Bytes}
    (h : Stands fixed (.waiting id) (handed ++ events) client) (rounds : Nat) (requestId : Bytes)
    (passes : List (List Wait)) :
    Leaves fixed handed
      (some (client.awaitReply (conversing fixed) rounds requestId passes events)) := by
  induction passes generalizing client events with
  | nil => exact h.forget.fewer (List.subset_append_left _ _)
  | cons waits passes ih =>
      have hreceive := h.receive hfixed rounds waits
      simp only [ControlClient.awaitReply]
      generalize client.receive (conversing fixed) rounds waits = answer at hreceive ⊢
      cases hreceive with
      | @message _ inbox conversation _ hmessage =>
          rcases hmessage.awaited with ⟨event, rfl, hholds⟩ | ⟨reply, rfl, hid, hholds⟩
          · simp only [parse_event]
            refine ih ⟨_, rfl, ?_⟩
            rw [← List.append_assoc]
            exact hholds
          · obtain ⟨parsed, hparsed, _⟩ := parse_written reply
            simp only [hparsed]
            split
            · -- It goes by another id; no other reply is to come.
              have hnone : Stands fixed (.sending []) handed
                  { client with socket := some conversation, inbox, taken := client.taken + 1 } :=
                ⟨_, rfl, hholds.fewer (List.subset_append_left _ _)
                  (List.subset_append_left _ _)⟩
              have herror := hnone.awaitReply_error hfixed rounds requestId passes
                (events ++ [reply.toJson])
              generalize ControlClient.awaitReply _ _ _ _ _ _ = result at herror ⊢
              obtain ⟨outcome, collected, client'⟩ := result
              cases outcome with
              | error => exact herror
              | ok => exact herror.elim
            · exact ⟨_, rfl, hholds⟩
      | @other result _ _ hresult hholds =>
          have hnone := hholds.forget
          cases result with
          | error => exact Stands.fewer ⟨_, rfl, hnone⟩ (List.subset_append_left _ _)
          | ok found =>
              cases found with
              | none => exact Stands.fewer ⟨_, rfl, hnone⟩ (List.subset_append_left _ _)
              | some message => exact absurd rfl (hresult message)

private theorem Stands.query {events : List Bytes}
    (h : Stands fixed (.sending front) (handed ++ events) client) (rounds : Nat)
    (writes : List Wait) (passes : List (List Wait)) (command : ControlCommand)
    (requestId : Bytes) :
    Leaves fixed handed
      (client.query (conversing fixed) rounds writes passes command requestId events) := by
  have hsend := h.send hfixed writes
    { requestId, command, topologyRevision := client.topologyRevision }
  simp only [ControlClient.query]
  generalize ControlClient.send _ _ _ _ = sent at hsend ⊢
  match sent, hsend with
  | none, _ => trivial
  | some (.error _, client), hfailed => exact hfailed.fewer (List.subset_append_left _ _)
  | some (.ok (), client), ⟨id, hwaiting⟩ =>
      exact hwaiting.awaitReply hfixed rounds requestId passes

/-- The attempts of one command. -/
private theorem Stands.ask {events : List Bytes}
    (h : Stands fixed (.sending front) (handed ++ events) client) (rounds : Nat)
    (input : ResyncInput) (command : ControlCommand) {attempts : Nat}
    (hfirst : attempts = 0 → front = []) (sequence : Nat) :
    Leaves fixed handed
      (client.ask (conversing fixed) rounds input command attempts sequence events) := by
  induction attempts generalizing client events sequence front with
  | zero =>
      obtain rfl := hfirst rfl
      exact h
  | succ attempts ih =>
      have hquery := h.query hfixed rounds (input.writes (sequence + 1))
        (input.passes (sequence + 1)) command (bytes "resync-" ++ decimal (sequence + 1))
      simp only [ControlClient.ask]
      generalize ControlClient.query _ _ _ _ _ _ _ _ = answer at hquery ⊢
      match answer, hquery with
      | none, _ => trivial
      | some (.error _, events, client), herror => exact herror
      | some (.ok reply, events, client), hreply =>
          have hknown : Stands fixed (.sending []) (handed ++ events)
              { client with topologyRevision := reply.topologyRevision } := hreply
          dsimp only
          split
          · exact hknown
          · exact ih hknown (fun _ => rfl) _

private theorem Stands.askAll {events : List Bytes}
    (h : Stands fixed (.sending front) (handed ++ events) client) (rounds : Nat)
    (input : ResyncInput) {commands : List ControlCommand} (hfirst : commands = [] → front = [])
    (sequence : Nat) :
    Leaves fixed handed
      (client.askAll (conversing fixed) rounds input commands sequence events) := by
  induction commands generalizing client events sequence front with
  | nil =>
      obtain rfl := hfirst rfl
      exact h
  | cons command commands ih =>
      have htwo : 2 = 0 → front = [] := by simp
      have hask := h.ask hfixed rounds input command htwo sequence
      simp only [ControlClient.askAll]
      generalize ControlClient.ask _ _ _ _ _ _ _ _ = answer at hask ⊢
      match answer, hask with
      | none, _ => trivial
      | some (.error _, events, client), herror => exact herror
      | some (.ok sequence, events, client), hasked => exact ih hasked (fun _ => rfl) _

/-- **What is collected after the last reply are events.** -/
private theorem Stands.settle (h : Stands fixed (.sending []) (handed ++ messages) client)
    (rounds : Nat) (passes : List (List Wait)) :
    match client.settle (conversing fixed) rounds passes messages with
    | (.error _, client) => Stands fixed .any handed client
    | (.ok messages, client) => Stands fixed .any (handed ++ messages) client := by
  induction passes generalizing client messages with
  | nil => exact h.forget
  | cons waits passes ih =>
      have hreceive := h.receive hfixed rounds waits
      simp only [ControlClient.settle]
      generalize client.receive (conversing fixed) rounds waits = answer at hreceive ⊢
      cases hreceive with
      | message hmessage =>
          obtain ⟨event, rfl, hholds⟩ := hmessage.settled
          refine ih ⟨_, rfl, ?_⟩
          rw [← List.append_assoc]
          exact hholds
      | @other result _ _ hresult hholds =>
          cases result with
          | error => exact Stands.fewer ⟨_, rfl, hholds.forget⟩ (List.subset_append_left _ _)
          | ok found =>
              cases found with
              | none => exact ⟨_, rfl, hholds.forget⟩
              | some message => exact absurd rfl (hresult message)

/-- **A whole resynchronisation**, where no reply is outstanding at its start. -/
theorem Stands.resync (h : Stands fixed (.sending front) handed client) (rounds : Nat)
    (input : ResyncInput) :
    match client.resync (conversing fixed) rounds input with
    | none => True
    | some (.error _, client) => Stands fixed .any handed client
    | some (.ok resync, client) => Stands fixed .any (handed ++ resync.messages) client := by
  have hstart : Stands fixed (.sending front) (handed ++ []) client := by
    rw [List.append_nil]
    exact h
  have hsome : [ControlCommand.getSwitchState, .getActiveFaults, .getSupervisionState] = [] →
      front = [] := by simp
  have hasked := hstart.askAll hfixed rounds input hsome 0
  simp only [ControlClient.resync]
  generalize ControlClient.askAll _ _ _ _ _ _ _ = answer at hasked ⊢
  match answer, hasked with
  | none, _ => trivial
  | some (.error _, events, client), herror => exact herror
  | some (.ok (), events, client), hreplies =>
      have hsettle := hreplies.settle hfixed rounds input.settle
      dsimp only
      generalize ControlClient.settle _ _ _ _ _ = settled at hsettle ⊢
      obtain ⟨result, client'⟩ := settled
      cases result with
      | error => exact hsettle
      | ok => exact hsettle

end

/-! ## Calls on one connection -/

/-- A client, and the message list that each of its resynchronisations returned. -/
structure Resyncing where
  client : ControlClient Conversation
  handed : List (List Bytes) := []

inductive ClientCall
  | resync (input : ResyncInput)
  | receive (waits : List Wait)

/-- A client of a conversation, of which nothing has been said yet. -/
def resyncing (fixed : Float → Bytes) (rounds : Nat) : TSys Resyncing ClientCall where
  init world := ∃ turns topologyRevision,
    world = { client := { socket := some { turns }, topologyRevision } }
  step world
    | .resync input =>
        (world.client.resync (conversing fixed) rounds input).map fun (result, client) =>
          match result with
          | .ok resync => { client, handed := world.handed ++ [resync.messages] }
          | .error _ => { world with client }
    | .receive waits =>
        some { world with client := (world.client.receive (conversing fixed) rounds waits).2 }

/-- Each query acted on the server's reply to the request it sent, and what the
caller was handed are events. -/
def OwnReplies (fixed : Float → Bytes) (world : Resyncing) : Prop :=
  ∃ conversation, world.client.socket = some conversation ∧
    conversation.requests.length = world.client.asked ∧
    (∀ p ∈ world.client.acted, ∃ reply, conversation.said[p.2]? = some (.reply p.1 reply)) ∧
    ∀ messages ∈ world.handed, ∀ message ∈ messages, ∃ event,
      .event event ∈ conversation.said ∧ message = event.toJson fixed

/-- No reply is outstanding: every request has its answer, and the client has taken
all of the answers. -/
def Quiet (world : Resyncing) : Prop :=
  ∀ conversation, world.client.socket = some conversation →
    conversation.answered = conversation.requests.length ∧
      ∀ item ∈ conversation.said.drop world.client.taken, item.isEvent = true

instance (world : Resyncing) : Decidable (Quiet world) :=
  match h : world.client.socket with
  | none => .isTrue fun _ hsocket => absurd (h.symm.trans hsocket) (by simp)
  | some conversation =>
      decidable_of_iff
        (conversation.answered = conversation.requests.length ∧
          ∀ item ∈ conversation.said.drop world.client.taken, item.isEvent = true)
        ⟨fun hquiet _ hsocket => Option.some.inj (h.symm.trans hsocket) ▸ hquiet,
          fun hquiet => hquiet conversation h⟩

theorem Stands.sending {fixed : Float → Bytes} {messages : List Bytes} {world : Resyncing}
    (h : Stands fixed .any messages world.client) (hquiet : Quiet world) :
    ∃ front, Stands fixed (.sending front) messages world.client := by
  obtain ⟨conversation, hsocket, hholds⟩ := h
  obtain ⟨hanswered, hevents⟩ := hquiet conversation hsocket
  exact ⟨conversation.unfinishedRequest, conversation, hsocket,
    { hholds with phase := ⟨rfl, hanswered, hevents⟩ }⟩

theorem Stands.ownReplies {fixed : Float → Bytes} {world : Resyncing}
    (h : Stands fixed .any world.handed.flatten world.client) : OwnReplies fixed world := by
  obtain ⟨conversation, hsocket, hholds⟩ := h
  refine ⟨conversation, hsocket, hholds.numbered, hholds.acted, fun messages hmessages => ?_⟩
  exact fun message hmessage =>
    hholds.events message (List.mem_flatten.mpr ⟨messages, hmessages, hmessage⟩)

section
variable {fixed : Float → Bytes}
  (hfixed : ∀ x : Float, x.isFinite = true ∨ x = 0.0 → FixedNotation (fixed x))
include hfixed

/-- One call. -/
private theorem stands_step {rounds : Nat} {world world' : Resyncing} {call : ClientCall}
    (h : Stands fixed .any world.handed.flatten world.client)
    (hquiet : ∀ input, call = .resync input → Quiet world)
    (hstep : (resyncing fixed rounds).step world call = some world') :
    Stands fixed .any world'.handed.flatten world'.client := by
  cases call with
  | resync input =>
      obtain ⟨front, hsending⟩ := h.sending (hquiet input rfl)
      have hresync := hsending.resync hfixed rounds input
      obtain ⟨⟨result, client⟩, hresult, rfl⟩ := Option.map_eq_some_iff.mp hstep
      rw [hresult] at hresync
      cases result with
      | error => exact hresync
      | ok resync =>
          rw [List.flatten_append, List.flatten_singleton]
          exact hresync
  | receive waits =>
      obtain rfl := Option.some.inj hstep
      have hreceive := h.receive hfixed rounds waits
      dsimp only
      generalize world.client.receive (conversing fixed) rounds waits = answer at hreceive ⊢
      cases hreceive with
      | message hmessage => exact ⟨_, rfl, hmessage.forget⟩
      | other _ hholds => exact ⟨_, rfl, hholds⟩

/-- **A query is answered by its own reply**, in every run in which each
resynchronisation starts with no reply outstanding. -/
theorem queries_own_replies (rounds : Nat) (world : Resyncing) (calls : List ClientCall)
    (hinit : (resyncing fixed rounds).init world)
    (hquiet : (resyncing fixed rounds).Steps
      (fun world call _ => ∀ input, call = .resync input → Quiet world) world calls) :
    (resyncing fixed rounds).States (OwnReplies fixed) world calls := by
  refine TSys.States.of_inductive
    (I := fun world => Stands fixed .any world.handed.flatten world.client)
    (fun _ h => h.ownReplies) (fun _ _ _ h hquiet hstep => stands_step hfixed h hquiet hstep)
    calls world ?_ hquiet
  obtain ⟨turns, topologyRevision, rfl⟩ := hinit
  exact ⟨_, rfl, {
    unread := rfl
    within := le_rfl
    unfinished := List.not_mem_nil
    numbered := rfl
    phase := trivial
    acted := fun p hp => absurd hp List.not_mem_nil
    events := fun message hmessage => absurd hmessage List.not_mem_nil }⟩

end
/-! ## A reply that comes late -/

/-- Zeroes only. -/
def zeroes : Float → Bytes := fun _ => bytes "0.000000"

/-- A socket takes a request. -/
private def writing : Turn := { outcome := .transfer 200 }

/-- The server moves, and all of what it has sent can be read. -/
private def reading (moves : List ServerMove) : List Turn :=
  [{ moves, outcome := .transfer 400 }, {}]

private def accepting : ServerMove := .answer { accepted := true }

private def queried : List Turn := writing :: reading [accepting]

/-- Nothing comes before the deadline. -/
private def unanswered : List Turn := [writing, {}]

/-- Each wait of a query, two at most, finds something to read or the deadline. -/
private def shortly : ResyncInput where
  writes _ := []
  passes _ := [[.ready], [.ready]]
  settle := []

/-- The first reply is late: the client has given up, and receives it next. -/
def receivedLate : Resyncing where
  client := { socket := some {
    turns := unanswered ++ reading [accepting] ++ queried ++ queried ++ queried } }

theorem queries_own_replies_receivedLate :
    (resyncing zeroes 4).States (OwnReplies zeroes) receivedLate
      [.resync shortly, .receive [.ready], .resync shortly] := by
  have hzeroes : ∀ x : Float, x.isFinite = true ∨ x = 0.0 → FixedNotation (zeroes x) :=
    fun _ _ => fixedNotation_zero
  have hlast : ((resyncing zeroes 4).exec receivedLate [.resync shortly, .receive [.ready]]).map
      (fun world => decide (Quiet world)) = some true := by
    decide +kernel
  refine queries_own_replies hzeroes 4 receivedLate _ ⟨_, 0, rfl⟩ ?_
  intro first hfirst
  refine ⟨fun _ _ => by decide +kernel, fun second hsecond => ?_⟩
  refine ⟨fun _ hcall => absurd hcall (by simp), fun third _ => ⟨fun _ _ => ?_, trivial⟩⟩
  have hexec : (resyncing zeroes 4).exec receivedLate [.resync shortly, .receive [.ready]] =
      some second := by
    simp only [TSys.exec, hfirst, hsecond, Option.bind_some]
  rw [hexec] at hlast
  exact of_decide_eq_true (Option.some.inj hlast)

/-- The first reply is late, and the client asks again before it comes. -/
def askedAgain : Resyncing where
  client := { socket := some {
    turns := unanswered ++ writing :: reading [accepting, accepting] ++ queried ++ queried } }

/-- **A query takes the reply to another request for its own**, and the caller is
handed a reply: the request of the second call has the id of the first call's. -/
theorem query_takes_late_reply :
    (resyncing zeroes 4).init askedAgain ∧
    (∃ world conversation, (resyncing zeroes 4).exec askedAgain [.resync shortly, .resync shortly] =
        some world ∧ world.client.socket = some conversation ∧ (1, 0) ∈ world.client.acted ∧
      (∃ reply, conversation.said[0]? = some (.reply 0 reply)) ∧
      ∃ messages ∈ world.handed, ∃ message ∈ messages, ∃ reply,
        controlReplyFromJson message = .ok reply) ∧
    ¬ (resyncing zeroes 4).States (OwnReplies zeroes) askedAgain
      [.resync shortly, .resync shortly] := by
  have hrun : ((resyncing zeroes 4).exec askedAgain [.resync shortly, .resync shortly]).map
      (fun world => (world.client.acted,
        world.client.socket.bind fun conversation => conversation.said[0]?.bind fun
          | .reply request _ => some request
          | .event _ => none,
        world.handed.map (·.map fun message => (controlReplyFromJson message).toOption.isSome))) =
      some ([(1, 0), (2, 2), (3, 3)], some 0, [[true]]) := by
    decide +kernel
  obtain ⟨world, hexec, hread⟩ := Option.map_eq_some_iff.mp hrun
  obtain ⟨hacted, hread⟩ := Prod.mk.inj hread
  obtain ⟨hsaid, hhanded⟩ := Prod.mk.inj hread
  obtain ⟨conversation, hsocket, hsaid⟩ := Option.bind_eq_some_iff.mp hsaid
  obtain ⟨item, hitem, hnumber⟩ := Option.bind_eq_some_iff.mp hsaid
  have hpair : (1, 0) ∈ world.client.acted := hacted ▸ List.mem_cons_self
  obtain ⟨messages, hmessages, hone⟩ := List.map_eq_singleton_iff.mp hhanded
  obtain ⟨message, rfl, hreply⟩ := List.map_eq_singleton_iff.mp hone
  cases item with
  | event => exact absurd hnumber (by simp)
  | reply request reply =>
      obtain rfl := Option.some.inj hnumber
      refine ⟨⟨_, 0, rfl⟩, ⟨world, conversation, hexec, hsocket, hpair, ⟨reply, hitem⟩, [message],
        hmessages ▸ List.mem_singleton_self _, message, List.mem_singleton_self _, ?_⟩, ?_⟩
      · cases hparsed : controlReplyFromJson message with
        | error => exact absurd hreply (by simp [hparsed, Except.toOption])
        | ok parsed => exact ⟨parsed, rfl⟩
      · intro hstates
        obtain ⟨conversation', hsocket', -, hown, -⟩ := hstates.last hexec
        obtain rfl := Option.some.inj (hsocket.symm.trans hsocket')
        obtain ⟨reply', hother⟩ := hown (1, 0) hpair
        exact absurd (hitem.symm.trans hother) (by simp)

end WireLab
