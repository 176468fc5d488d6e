import WireLab.Logic.Framing
import WireLab.Logic.Connections
import WireLab.Logic.Lab

/-!
# Sockets that follow a script

What a connection's `recv` will answer, one answer after the other, is fixed when
it is made; how it sends is up to `send`. A statement about every way the bytes
of a stream reach the server is one about every script.

`Scripted.buffered` is what has piled up unsplit after some answers: a read goes
on until the socket has nothing more, and only then are the complete lines taken
out. `drain_scripted` says where a read stops.
-/

namespace WireLab

open Base

/-- A socket, how many answers it has given and how it sends. -/
structure Scripted (α : Type) where
  answers : Nat → Received
  position : Nat := 0
  sender : α

def Received.bytes : Received → Bytes
  | .data first rest => first :: rest
  | .closed | .blocked | .failed => []

/-- The answer that brings a text. -/
def Received.ofBytes : Bytes → Received
  | [] => .blocked
  | first :: rest => .data first rest

/-- A script that ends with an empty socket. -/
def script (answers : List Received) (n : Nat) : Received := answers.getD n .blocked

/-- What the first answers of a script bring. -/
def streamOf (answers : Nat → Received) : Nat → Bytes
  | 0 => []
  | n + 1 => streamOf answers n ++ (answers n).bytes

/-- What is buffered after some answers of a script. -/
def buffered (answers : Nat → Received) : Nat → Bytes
  | 0 => []
  | n + 1 =>
      match answers n with
      | .data first rest => buffered answers n ++ first :: rest
      | .closed | .blocked | .failed => unfinished (buffered answers n)

/-- Nothing among the first answers makes the buffer larger than `cap`. -/
def FitsUntil (cap : Nat) (answers : Nat → Received) (n : Nat) : Prop :=
  ∀ i < n, ∀ first rest, answers i = .data first rest →
    (buffered answers i ++ first :: rest).length ≤ cap

/-- Sockets that follow their scripts. -/
def scripted {α : Type} (send : α → Bytes → Sent × α) (fixed : Float → Bytes) :
    Platform (Scripted α) where
  receive socket := (socket.answers socket.position, { socket with position := socket.position + 1 })
  send socket text :=
    ((send socket.sender text).1, { socket with sender := (send socket.sender text).2 })
  fixed

section
variable {α : Type} {send : α → Bytes → Sent × α} {fixed : Float → Bytes} {cap : Nat}

theorem FitsUntil.mono {answers : Nat → Received} {m n : Nat} (h : FitsUntil cap answers n)
    (hle : m ≤ n) : FitsUntil cap answers m :=
  fun i hi => h i (by omega)

/-- One more answer fits if it is no data, or not too much. -/
theorem FitsUntil.succ {answers : Nat → Received} {n : Nat} (h : FitsUntil cap answers n)
    (hlast : ∀ first rest, answers n = .data first rest →
      (buffered answers n ++ first :: rest).length ≤ cap) : FitsUntil cap answers (n + 1) := by
  intro i hi first rest hdata
  rcases Nat.lt_succ_iff_lt_or_eq.mp hi with hlt | rfl
  · exact h i hlt first rest hdata
  · exact hlast first rest hdata

theorem length_buffered_le {answers : Nat → Received} {n : Nat} (h : FitsUntil cap answers n) :
    (buffered answers n).length ≤ cap := by
  induction n with
  | zero => exact Nat.zero_le _
  | succ n ih =>
      have hbefore := ih (h.mono (Nat.le_succ n))
      -- Splitting the lines off leaves a part of the buffer.
      have hsplit : (unfinished (buffered answers n)).length ≤ cap :=
        (List.rtakeWhile_suffix _ _).length_le.trans hbefore
      cases hanswer : answers n with
      | data first rest =>
          have hlast := h n (Nat.lt_succ_self n) first rest hanswer
          simpa only [buffered, hanswer] using hlast
      | closed => simpa only [buffered, hanswer] using hsplit
      | blocked => simpa only [buffered, hanswer] using hsplit
      | failed => simpa only [buffered, hanswer] using hsplit

/-- An answer without data brings nothing, and the lines there are get split off. -/
theorem streamOf_pause {answers : Nat → Received} {n : Nat}
    (hpause : ∀ first rest, answers n ≠ .data first rest) :
    streamOf answers (n + 1) = streamOf answers n ∧
      buffered answers (n + 1) = unfinished (buffered answers n) := by
  cases hanswer : answers n with
  | data first rest => exact absurd hanswer (hpause first rest)
  | closed | blocked | failed =>
      simp only [streamOf, buffered, hanswer, Received.bytes, List.append_nil, and_self]

/-- How a read from a socket can end: at a position of its script, with what came
until then; either the buffer did not fit, or all of it did and its lines are
about to be split off. -/
def ReadsTo (cap : Nat) (socket : Scripted α) (buffer : Bytes)
    (ending : Drained × Scripted α × Bytes) : Prop :=
  ∃ position more, ending.2 = ({ socket with position }, buffer ++ more) ∧
    streamOf socket.answers position = streamOf socket.answers socket.position ++ more ∧
    (ending.1 = .outgrown ∧ ¬ FitsUntil cap socket.answers position ∨
      ending.1 ≠ .outgrown ∧ FitsUntil cap socket.answers position ∧
        buffered socket.answers position = unfinished (buffer ++ more))

/-- A read that meets an answer without data is over. -/
private theorem readsTo_pause {socket : Scripted α} {buffer : Bytes} {drained : Drained}
    (hbuffer : buffered socket.answers socket.position = buffer)
    (hfits : FitsUntil cap socket.answers socket.position)
    (hpause : ∀ first rest, socket.answers socket.position ≠ .data first rest)
    (hdrained : drained ≠ .outgrown) :
    ReadsTo cap socket buffer
      (drained, { socket with position := socket.position + 1 }, buffer) := by
  obtain ⟨hstream, hsplit⟩ := streamOf_pause hpause
  refine ⟨socket.position + 1, [], by rw [List.append_nil], by rw [hstream, List.append_nil],
    .inr ⟨hdrained, hfits.succ fun first rest hdata => absurd hdata (hpause first rest), ?_⟩⟩
  rw [hsplit, hbuffer, List.append_nil]

/-- **Where a read stops**: at the first answer without data, unless the data
outgrows the buffer before. -/
theorem drain_scripted (send : α → Bytes → Sent × α) (fixed : Float → Bytes) (rounds : Nat) (socket : Scripted α) (buffer : Bytes)
    (hrounds : cap < rounds + buffer.length)
    (hbuffer : buffered socket.answers socket.position = buffer)
    (hfits : FitsUntil cap socket.answers socket.position) :
    ReadsTo cap socket buffer (drain (scripted send fixed) (some cap) rounds socket buffer) := by
  induction rounds generalizing socket buffer with
  | zero =>
      -- The buffer is within the cap, so there is a round.
      have hlength := length_buffered_le hfits
      rw [hbuffer] at hlength
      omega
  | succ rounds ih =>
      unfold drain
      dsimp only [scripted]
      cases hanswer : socket.answers socket.position with
      | data first rest =>
          dsimp only
          split
          · next hlong =>
              refine ⟨socket.position + 1, first :: rest, rfl, ?_, .inl ⟨rfl, fun hfits' => ?_⟩⟩
              · simp only [streamOf, hanswer, Received.bytes]
              · have hlast := hfits' socket.position (Nat.lt_succ_self _) first rest hanswer
                rw [hbuffer] at hlast
                simp only [Option.any_some, decide_eq_true_eq] at hlong
                omega
          · next hshort =>
              simp only [Option.any_some, decide_eq_true_eq] at hshort
              have hnext : buffered socket.answers (socket.position + 1) =
                  buffer ++ first :: rest := by
                simp only [buffered, hanswer, hbuffer]
              have hfits' : FitsUntil cap socket.answers (socket.position + 1) := by
                refine hfits.succ fun first' rest' hdata => ?_
                obtain ⟨rfl, rfl⟩ := Received.data.inj (hanswer.symm.trans hdata)
                rw [hbuffer]
                omega
              obtain ⟨position, more, hend, hstream, hcase⟩ := ih
                { socket with position := socket.position + 1 } (buffer ++ first :: rest)
                (by simp only [List.length_append, List.length_cons]; omega) hnext hfits'
              refine ⟨position, first :: rest ++ more, ?_, ?_, ?_⟩
              · rw [← List.append_assoc]
                exact hend
              · rw [hstream]
                simp only [streamOf, hanswer, Received.bytes, List.append_assoc]
              · rw [← List.append_assoc]
                exact hcase
      | closed => exact readsTo_pause hbuffer hfits (by simp [hanswer]) (by decide)
      | blocked => exact readsTo_pause hbuffer hfits (by simp [hanswer]) (by decide)
      | failed => exact readsTo_pause hbuffer hfits (by simp [hanswer]) (by decide)

/-- Sending leaves what a socket will answer as it is. -/
theorem flushRounds_script (send : α → Bytes → Sent × α) (fixed : Float → Bytes) (rounds : Nat) (client : Client (Scripted α)) :
    (client.flushRounds (scripted send fixed) rounds).2.socket.answers = client.socket.answers ∧
      (client.flushRounds (scripted send fixed) rounds).2.socket.position =
        client.socket.position := by
  induction rounds generalizing client with
  | zero => exact ⟨rfl, rfl⟩
  | succ rounds ih =>
      unfold Client.flushRounds
      split
      · exact ⟨rfl, rfl⟩
      · dsimp only [scripted]
        cases (send client.socket.sender client.outbox).1 with
        | taken more => exact ih _
        | blocked => exact ⟨rfl, rfl⟩
        | failed => exact ⟨rfl, rfl⟩

/-- Talking leaves what a socket will answer as it is. -/
theorem Talks.script {config : ControlServerConfig} {before after : Client (Scripted α)}
    {requests : List Bytes} (h : Talks (scripted send fixed) config before requests after) :
    after.socket.answers = before.socket.answers ∧
      after.socket.position = before.socket.position := by
  refine h.preserves (P := fun client => client.socket.answers = before.socket.answers ∧
    client.socket.position = before.socket.position) ?_ ?_ (fun _ _ => id) ⟨rfl, rfl⟩
  · intro message client hclient
    rw [(enqueue_frame message client).1]
    exact hclient
  · intro client hclient
    obtain ⟨hanswers, hposition⟩ := flushRounds_script send fixed
      client.outbox.length client
    exact ⟨hanswers.trans hclient.1, hposition.trans hclient.2⟩

end

/-! ## A lab whose clients follow scripts -/

/-- Sockets with a script that take everything they are given. -/
def scriptedLab : Platform (Scripted Unit) :=
  scripted (fun _ text => (.taken text.length, ())) fun _ => []

/-- A server of the loaded lab whose clients follow scripts. -/
def scriptedServer (maxRequestBytes : Nat) : ControlServer (Scripted Unit) Unit Unit where
  service := labService
  controller := ({} : TopologyController).load labTopology
  config := { maxRequestBytes }

/-- A client connects, and is read from once. -/
def connectAndRead (answers : Nat → Received) : List (ServerCall (Scripted Unit)) :=
  [.poll { listener := true, incoming := [{ socket := { answers, sender := () } }]
           env := fun _ => labEnv },
   .poll { revents := fun _ => { readable := true }, env := fun _ => labEnv }]

end WireLab
