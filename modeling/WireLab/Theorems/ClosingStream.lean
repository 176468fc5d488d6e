import WireLab.Logic.Framing

/-!
# What a client receives from a switch that closes

`receive` reads until its socket has nothing more; if that is because the stream
has ended it reports the end at once, and the messages that came with it stay in
the buffer. A caller sees the end first and those messages after it, should it
still ask. `plan` says what the calls report, whatever the reads and the waits.
-/

namespace WireLab

open Base

/-- Sockets of a connection that the peer has closed: a list of reads, of which
an empty one finds nothing for now, and then the end of the stream. -/
def closing (send : List Bytes → Bytes → Sent × List Bytes) (fixed : Float → Bytes) :
    Platform (List Bytes) where
  receive
    | [] => (.closed, [])
    | [] :: reads => (.blocked, reads)
    | (first :: rest) :: reads => (.data first rest, reads)
  send
  fixed

/-- The bytes that are read before the last pause, and those that are read along
with the end of the stream. -/
def atTheEnd : List Bytes → Bytes × Bytes
  | [] => ([], [])
  | chunk :: reads =>
      let (earlier, last) := atTheEnd reads
      if [] ∈ chunk :: reads then (chunk ++ earlier, last) else ([], chunk ++ last)

/-- What repeated calls return. -/
def ControlClient.receives {σ : Type} (platform : Platform σ) (rounds : Nat) :
    List (List Wait) → ControlClient σ → List (Except ControlTransportError (Option Bytes))
  | [], _ => []
  | waits :: calls, client =>
      let (result, client) := client.receive platform rounds waits
      result :: client.receives platform rounds calls

/-- The results other than a deadline that passed. -/
def reported (results : List (Except ControlTransportError (Option Bytes))) :
    List (Except ControlTransportError Bytes) :=
  results.filterMap fun
    | .ok message? => message?.map .ok
    | .error e => some (.error e)

/-- What is going to be reported: the messages before the last pause, the end of
the stream, the messages that came with it, and the end for as long as it is
asked. -/
def plan (reads : List Bytes) (inbox : Bytes) (ends : Nat) :
    List (Except ControlTransportError Bytes) :=
  let (earlier, last) := atTheEnd reads
  (takeMessages (inbox ++ earlier)).1.map .ok ++ .error .disconnected ::
    ((takeMessages (unfinished (inbox ++ earlier) ++ last)).1.map .ok ++
      List.replicate ends (.error .disconnected))

/-! ## Reading -/

section
variable {send : List Bytes → Bytes → Sent × List Bytes} {fixed : Float → Bytes}

theorem atTheEnd_pause {front : List Bytes} (rest : List Bytes) :
    atTheEnd (front ++ [] :: rest) = (front.flatten ++ (atTheEnd rest).1, (atTheEnd rest).2) := by
  induction front with
  | nil => simp only [List.nil_append, atTheEnd, List.mem_cons, true_or, if_true, List.flatten_nil]
  | cons chunk front ih =>
      have hmem : [] ∈ chunk :: (front ++ [] :: rest) := by simp
      simp only [List.cons_append, atTheEnd, if_pos hmem, ih, List.flatten_cons, List.append_assoc]

theorem atTheEnd_unpaused {reads : List Bytes} (hreads : [] ∉ reads) :
    atTheEnd reads = ([], reads.flatten) := by
  induction reads with
  | nil => rfl
  | cons chunk reads ih =>
      have hrest : [] ∉ reads := fun hmem => hreads (List.mem_cons_of_mem _ hmem)
      simp only [atTheEnd, if_neg hreads, ih hrest, List.flatten_cons]

/-- **A read takes everything up to the next pause**, or up to the end. -/
theorem drain_closing (rounds : Nat) (reads : List Bytes) (buffer : Bytes)
    (hrounds : reads.length < rounds) :
    (∃ front rest, reads = front ++ [] :: rest ∧ [] ∉ front ∧
        drain (closing send fixed) none rounds reads buffer =
          (.empty, rest, buffer ++ front.flatten)) ∨
      [] ∉ reads ∧ drain (closing send fixed) none rounds reads buffer =
        (.closed, [], buffer ++ reads.flatten) := by
  induction reads generalizing rounds buffer with
  | nil =>
      obtain ⟨rounds, rfl⟩ := Nat.exists_eq_succ_of_ne_zero (Nat.ne_of_gt hrounds)
      exact .inr ⟨List.not_mem_nil, by simp [drain, closing]⟩
  | cons chunk reads ih =>
      obtain ⟨rounds, rfl⟩ : ∃ n, rounds = n + 1 := ⟨rounds - 1, by simp at hrounds; omega⟩
      cases chunk with
      | nil => exact .inl ⟨[], reads, rfl, List.not_mem_nil, by simp [drain, closing]⟩
      | cons first more =>
          have hdrain : drain (closing send fixed) none (rounds + 1) ((first :: more) :: reads)
              buffer = drain (closing send fixed) none rounds reads (buffer ++ first :: more) := by
            simp [drain, closing]
          rw [hdrain]
          rcases ih rounds (buffer ++ first :: more) (by simpa using hrounds) with
            ⟨front, rest, rfl, hfront, hend⟩ | ⟨hreads, hend⟩
          · refine .inl ⟨(first :: more) :: front, rest, rfl, by simpa using hfront, ?_⟩
            rw [hend, List.flatten_cons, List.append_assoc]
          · refine .inr ⟨by simpa using hreads, ?_⟩
            rw [hend, List.flatten_cons, List.append_assoc]

/-! ## The plan -/

/-- With one message taken, the same bytes bring the same messages after it. -/
theorem takeMessages_taken (inbox more : Bytes) :
    takeMessages ((takeMessage inbox).2 ++ more) =
      ((takeMessages inbox).1.tail ++ (takeMessages ((takeMessages inbox).2 ++ more)).1,
        (takeMessages (inbox ++ more)).2) := by
  rw [takeMessages_append, (takeMessage_spec inbox).2, takeMessages_append inbox]

/-- Taking a message off the buffer takes a report off the plan. -/
theorem plan_message {inbox : Bytes} {message : Bytes} (reads : List Bytes) (ends : Nat)
    (htake : (takeMessage inbox).1 = some message) :
    plan reads inbox ends = .ok message :: plan reads (takeMessage inbox).2 ends := by
  obtain ⟨later, hmessages⟩ : ∃ later, (takeMessages inbox).1 = message :: later :=
    List.head?_eq_some_iff.mp ((takeMessage_spec inbox).1.symm.trans htake)
  simp only [plan, ← takeMessages_snd, takeMessages_taken, hmessages, List.tail_cons]
  rw [takeMessages_append inbox, hmessages]
  rfl

/-- Where there is no message to take, the plan stays. -/
theorem plan_idle {inbox : Bytes} (reads : List Bytes) (ends : Nat)
    (htake : (takeMessage inbox).1 = none) :
    plan reads (takeMessage inbox).2 ends = plan reads inbox ends := by
  have hnone : (takeMessages inbox).1 = [] :=
    List.head?_eq_none_iff.mp ((takeMessage_spec inbox).1.symm.trans htake)
  simp only [plan, ← takeMessages_snd, takeMessages_taken, hnone, List.tail_nil]
  rw [takeMessages_append inbox, hnone]

/-- A read up to a pause is as planned. -/
theorem plan_pause (front rest : List Bytes) (inbox : Bytes) (ends : Nat) :
    plan rest (inbox ++ front.flatten) ends = plan (front ++ [] :: rest) inbox ends := by
  simp only [plan, atTheEnd_pause, List.append_assoc]

/-- A read up to the end reports the end before what it brought. -/
theorem plan_closed {reads : List Bytes} {inbox : Bytes} (hreads : [] ∉ reads)
    (hinbox : (takeMessages inbox).1 = []) (ends : Nat) :
    plan reads inbox (ends + 1) =
      .error .disconnected :: plan [] (inbox ++ reads.flatten) ends := by
  have hjoined : takeMessages (inbox ++ reads.flatten) =
      takeMessages (unfinished inbox ++ reads.flatten) := by
    rw [takeMessages_append, hinbox, takeMessages_snd, List.nil_append]
  have hnone : (takeMessages (unfinished (inbox ++ reads.flatten))).1 = [] :=
    congrArg Prod.fst (takeMessages_unfinished _)
  simp only [plan, atTheEnd_unpaused hreads, atTheEnd, List.append_nil, hinbox, hjoined, hnone,
    List.map_nil, List.nil_append, List.replicate_succ]

/-! ## Receiving -/

/-- How a call can end, and what is left to report after it. -/
inductive Follows (reads : List Bytes) (inbox : Bytes) :
    Except ControlTransportError (Option Bytes) → List Bytes → Bytes → Prop
  | lapsed {reads' inbox'} (hplan : ∀ ends, plan reads' inbox' ends = plan reads inbox ends) :
      Follows reads inbox (.ok none) reads' inbox'
  | message {message reads' inbox'}
      (hplan : ∀ ends, plan reads inbox ends = .ok message :: plan reads' inbox' ends) :
      Follows reads inbox (.ok (some message)) reads' inbox'
  | closed {reads' inbox'} (hplan : ∀ ends, plan reads inbox (ends + 1) =
        .error .disconnected :: plan reads' inbox' ends) :
      Follows reads inbox (.error .disconnected) reads' inbox'

/-- What the plan does not distinguish ends the same way. -/
private theorem Follows.of_plan {reads reads₁ reads₂ : List Bytes} {inbox inbox₁ inbox₂ : Bytes}
    {result : Except ControlTransportError (Option Bytes)}
    (h : Follows reads₁ inbox₁ result reads₂ inbox₂)
    (hsame : ∀ ends, plan reads₁ inbox₁ ends = plan reads inbox ends) :
    Follows reads inbox result reads₂ inbox₂ := by
  cases h with
  | lapsed hplan => exact .lapsed fun ends => (hplan ends).trans (hsame ends)
  | message hplan => exact .message fun ends => (hsame ends).symm.trans (hplan ends)
  | closed hplan => exact .closed fun ends => (hsame (ends + 1)).symm.trans (hplan ends)

/-- **One call follows the plan**; with enough time it does not lapse. -/
theorem await_follows (rounds : Nat) (client : ControlClient (List Bytes)) (waits : List Wait)
    (reads : List Bytes) (inbox : Bytes) (hrounds : reads.length < rounds)
    (hwaits : .failed ∉ waits) :
    ∃ result reads' inbox' taken,
      ControlClient.await (closing send fixed) rounds client waits reads inbox =
        (result, { client with socket := some reads', inbox := inbox', taken }) ∧
      Follows reads inbox result reads' inbox' ∧ reads'.length ≤ reads.length ∧
      (reads.length < waits.length → result ≠ .ok none) := by
  induction waits generalizing reads inbox with
  | nil =>
      -- time is up: only what is buffered is looked at
      rcases htake : takeMessage inbox with ⟨_ | message, left⟩
      · refine ⟨.ok none, reads, left, client.taken, by simp only [ControlClient.await, htake],
          .lapsed fun ends => ?_, le_rfl, fun hlong => absurd hlong (by simp)⟩
        have hnone : (takeMessage inbox).1 = none := by rw [htake]
        have hplan := plan_idle reads ends hnone
        rwa [htake] at hplan
      · refine ⟨.ok (some message), reads, left, client.taken + 1,
          by simp only [ControlClient.await, htake], .message fun ends => ?_, le_rfl, fun hlong => absurd hlong (by simp)⟩
        have hsome : (takeMessage inbox).1 = some message := by rw [htake]
        have hplan := plan_message reads ends hsome
        rwa [htake] at hplan
  | cons wait waits ih =>
      have hready : wait = .ready := by
        cases wait with
        | ready => rfl
        | failed => exact absurd (List.mem_cons_self) hwaits
      subst hready
      rcases htake : takeMessage inbox with ⟨_ | message, left⟩
      · -- Nothing is buffered whole: the socket is read from.
        have hidle : ∀ ends, plan reads left ends = plan reads inbox ends := by
          intro ends
          have hnone : (takeMessage inbox).1 = none := by rw [htake]
          have hplan := plan_idle reads ends hnone
          rwa [htake] at hplan
        rcases @drain_closing send fixed rounds reads left hrounds with
          ⟨front, rest, rfl, _, hdrain⟩ | ⟨hreads, hdrain⟩
        · have hshorter : rest.length < (front ++ [] :: rest).length := by
            simp only [List.length_append, List.length_cons]
            omega
          obtain ⟨result, reads', inbox', taken, hawait, hfollows, hlength, hpatient⟩ := ih rest
            (left ++ front.flatten) (by omega) (fun hmem => hwaits (List.mem_cons_of_mem _ hmem))
          refine ⟨result, reads', inbox', taken, ?_, hfollows.of_plan fun ends => ?_, by omega, ?_⟩
          · simp only [ControlClient.await, htake, hdrain, Drained.isOpen, if_true]
            exact hawait
          · rw [plan_pause, hidle]
          · intro hlong
            exact hpatient (by simp only [List.length_cons] at hlong; omega)
        · refine ⟨.error .disconnected, [], left ++ reads.flatten, client.taken, ?_, ?_,
            Nat.zero_le _, fun _ => by simp⟩
          · simp only [ControlClient.await, htake, hdrain, Drained.isOpen, Bool.false_eq_true,
              if_false]
          · refine .closed fun ends => ?_
            have hleft : (takeMessages left).1 = [] := by
              have hspec := takeMessage_spec inbox
              rw [htake] at hspec
              rw [hspec.2, List.head?_eq_none_iff.mp hspec.1.symm]
              rfl
            rw [← hidle (ends + 1), plan_closed hreads hleft]
      · refine ⟨.ok (some message), reads, left, client.taken + 1, ?_, .message fun ends => ?_, le_rfl,
          fun _ => by simp⟩
        · simp only [ControlClient.await, htake]
        · have hsome : (takeMessage inbox).1 = some message := by rw [htake]
          have hplan := plan_message reads ends hsome
          rwa [htake] at hplan

theorem plan_prefix (reads : List Bytes) (inbox : Bytes) (ends : Nat) :
    plan reads inbox ends <+: plan reads inbox (ends + 1) := by
  refine (List.prefix_append_right_inj _).mpr (List.cons_prefix_cons.mpr ⟨rfl, ?_⟩)
  rw [List.replicate_succ', ← List.append_assoc]
  exact List.prefix_append _ _

/-- **Repeated calls follow the plan**, whatever the deadlines. -/
theorem receives_follow (rounds : Nat) (calls : List (List Wait))
    {client : ControlClient (List Bytes)} {reads : List Bytes} (hsocket : client.socket = some reads)
    (hrounds : reads.length < rounds) (hcalls : ∀ waits ∈ calls, .failed ∉ waits) :
    let results := client.receives (closing send fixed) rounds calls
    reported results <+: plan reads client.inbox calls.length ∧
      ((∀ waits ∈ calls, reads.length < waits.length) →
        (reported results).length = calls.length) := by
  induction calls generalizing client reads with
  | nil => exact ⟨List.nil_prefix, fun _ => rfl⟩
  | cons waits calls ih =>
      obtain ⟨result, reads', inbox', taken, hawait, hfollows, hlength, hpatient⟩ :=
        @await_follows send fixed rounds client waits reads client.inbox hrounds
          (hcalls waits List.mem_cons_self)
      let next : ControlClient (List Bytes) :=
        { client with socket := some reads', inbox := inbox', taken }
      have hnext : next.socket = some reads' := rfl
      obtain ⟨hrest, hall⟩ := ih hnext (by omega) fun waits hmem => hcalls waits (List.mem_cons_of_mem _ hmem)
      have hresults : client.receives (closing send fixed) rounds (waits :: calls) =
          result :: ControlClient.receives (closing send fixed) rounds calls
            { client with socket := some reads', inbox := inbox', taken } := by
        simp only [ControlClient.receives, ControlClient.receive, hsocket, hawait]
      have hlater : (∀ other ∈ waits :: calls, reads.length < other.length) →
          ∀ other ∈ calls, reads'.length < other.length :=
        fun hlong other hmem => hlength.trans_lt (hlong other (List.mem_cons_of_mem _ hmem))
      dsimp only at hrest hall ⊢
      rw [hresults]
      cases hfollows with
      | lapsed hplan =>
          refine ⟨hrest.trans ?_, fun hlong => absurd rfl (hpatient (hlong waits List.mem_cons_self))⟩
          rw [hplan]
          exact plan_prefix reads client.inbox calls.length
      | message hplan =>
          refine ⟨?_, fun hlong => congrArg (· + 1) (hall (hlater hlong))⟩
          rw [hplan]
          refine List.cons_prefix_cons.mpr ⟨rfl, hrest.trans ?_⟩
          exact plan_prefix reads' inbox' calls.length
      | closed hplan =>
          refine ⟨?_, fun hlong => congrArg (· + 1) (hall (hlater hlong))⟩
          rw [List.length_cons, hplan]
          exact List.cons_prefix_cons.mpr ⟨rfl, hrest⟩

/-- The two parts of the reads are all of them. -/
theorem atTheEnd_flatten (reads : List Bytes) :
    (atTheEnd reads).1 ++ (atTheEnd reads).2 = reads.flatten := by
  induction reads with
  | nil => rfl
  | cons chunk reads ih =>
      by_cases hmem : [] ∈ chunk :: reads
      · simp only [atTheEnd, if_pos hmem, List.append_assoc, ih, List.flatten_cons]
      · rw [atTheEnd_unpaused hmem, List.nil_append]

/-- The messages of the whole stream, by when they are read. -/
theorem takeMessages_reads (reads : List Bytes) :
    (takeMessages reads.flatten).1 = (takeMessages (atTheEnd reads).1).1 ++
      (takeMessages (unfinished (atTheEnd reads).1 ++ (atTheEnd reads).2)).1 := by
  rw [← atTheEnd_flatten, takeMessages_append, takeMessages_snd]

/-- Two lists with a prefix in common agree where it reaches. -/
private theorem eq_of_prefixes {α : Type} {xs front as bs : List α} {a b : α}
    (ha : xs <+: front ++ a :: as) (hb : xs <+: front ++ b :: bs) (hlonger : front.length < xs.length) :
    a = b := by
  obtain ⟨rest, hrest⟩ := ha
  obtain ⟨rest', hrest'⟩ := hb
  have hat : (xs ++ rest)[front.length]? = some a := by
    rw [hrest]
    simp
  have hat' : (xs ++ rest')[front.length]? = some b := by
    rw [hrest']
    simp
  rw [List.getElem?_append_left hlonger] at hat hat'
  exact Option.some.inj (hat.symm.trans hat')

/-- **When a closing switch loses no message to its client.** The calls report
every complete message of the stream, in order, and then the end of it, exactly
if the bytes that are read along with the end complete no message. -/
theorem closing_stream_received_iff (send : List Bytes → Bytes → Sent × List Bytes)
    (fixed : Float → Bytes) (reads : List Bytes) (rounds : Nat) (hrounds : reads.length < rounds) :
    (∀ calls : List (List Wait), (∀ waits ∈ calls, .failed ∉ waits) →
      let results := ControlClient.receives (closing send fixed) rounds calls
        { socket := some reads }
      (∃ ends, reported results <+: (takeMessages reads.flatten).1.map .ok ++
        List.replicate ends (.error .disconnected)) ∧
      ((∀ waits ∈ calls, reads.length < waits.length) →
        (reported results).length = calls.length)) ↔
    (takeMessages (unfinished (atTheEnd reads).1 ++ (atTheEnd reads).2)).1 = [] := by
  constructor
  · intro h
    -- One call more than there are messages before the last pause.
    let calls := List.replicate ((takeMessages (atTheEnd reads).1).1.length + 1)
      (List.replicate (reads.length + 1) Wait.ready)
    have hcalls : ∀ waits ∈ calls, Wait.failed ∉ waits ∧ reads.length < waits.length := by
      intro waits hmem
      obtain rfl := List.eq_of_mem_replicate hmem
      exact ⟨by simp [List.mem_replicate], by simp⟩
    obtain ⟨⟨ends, hclaimed⟩, hall⟩ := h calls fun waits hmem => (hcalls waits hmem).1
    obtain ⟨hplanned, _⟩ := @receives_follow send fixed rounds calls
      { socket := some reads } reads rfl hrounds fun waits hmem => (hcalls waits hmem).1
    have hlength := hall fun waits hmem => (hcalls waits hmem).2
    rcases hlate : (takeMessages (unfinished (atTheEnd reads).1 ++ (atTheEnd reads).2)).1 with
      _ | ⟨message, later⟩
    · rfl
    · -- There the plan has the end of the stream, and the claim a message.
      rw [takeMessages_reads, hlate, List.map_append, List.append_assoc] at hclaimed
      have hsame := eq_of_prefixes hplanned hclaimed (by
        rw [hlength, List.length_map, List.length_replicate]
        exact Nat.lt_succ_self _)
      exact absurd hsame (by simp)
  · intro hnone calls hcalls
    obtain ⟨hplanned, hall⟩ := @receives_follow send fixed rounds calls
      { socket := some reads } reads rfl hrounds hcalls
    refine ⟨⟨calls.length + 1, ?_⟩, hall⟩
    rw [takeMessages_reads, hnone, List.append_nil]
    simpa only [plan, List.nil_append, hnone, List.map_nil, ← List.replicate_succ] using hplanned

end

/-- Sockets of a closed connection that take what they are given. -/
def closedByPeer : Platform (List Bytes) :=
  closing (fun reads text => (.taken text.length, reads)) fun _ => []

/-- A pause before the end: both messages, then the end. -/
theorem closing_stream_received_paused :
    let reads := [bytes "one\ntw", bytes "o\n", [], bytes "th"]
    (takeMessages reads.flatten).1 = [bytes "one", bytes "two"] ∧
    ∃ ends, reported (ControlClient.receives closedByPeer 5 (List.replicate 4 (List.replicate 5 .ready))
        { socket := some reads }) <+:
      (takeMessages reads.flatten).1.map .ok ++ List.replicate ends (.error .disconnected) := by
  have hreceived := (closing_stream_received_iff (fun reads text => (.taken text.length, reads))
    (fun _ => []) [bytes "one\ntw", bytes "o\n", [], bytes "th"] 5 (by decide)).mpr (by decide)
  exact ⟨by decide, (hreceived _ (by decide)).1⟩

/-- **The end of the stream overtakes a message.** The last message and the end
are read together, and the first call reports the end. -/
theorem closing_stream_overtaken :
    (takeMessages [bytes "one\n"].flatten).1 = [bytes "one"] ∧
    reported (ControlClient.receives closedByPeer 2 (List.replicate 2 [.ready, .ready])
      { socket := some [bytes "one\n"] }) = [.error .disconnected, .ok (bytes "one")] := by
  exact ⟨by decide, by rfl⟩

end WireLab
