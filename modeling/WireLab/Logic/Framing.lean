import WireLab.Model.ControlClient

/-!
# How a buffer is split into messages

`takeMessages` is run on what has piled up since the last time, so what matters
is how it behaves as bytes arrive: cutting a stream anywhere and keeping the
partial line gives the messages of the whole stream (`takeMessages_append`), and
what it keeps is what follows the last newline (`takeMessages_snd`). Taking one
message at a time gives the same messages (`takeMessage_spec`).
-/

namespace WireLab

open Base

/-- What follows the last newline. -/
def unfinished (stream : Bytes) : Bytes := stream.rtakeWhile (· != newline)

theorem splitLines_cons_newline (rest : Bytes) :
    splitLines (newline :: rest) = ([] :: (splitLines rest).1, (splitLines rest).2) := by
  simp only [splitLines, if_true]

/-- Any other byte joins the first line there is, or the partial one. -/
theorem splitLines_cons_other {c : UInt8} (hc : c ≠ newline) (rest : Bytes) :
    splitLines (c :: rest) =
      match (splitLines rest).1 with
      | [] => ([], c :: (splitLines rest).2)
      | line :: lines => ((c :: line) :: lines, (splitLines rest).2) := by
  cases hfirst : (splitLines rest).1 with
  | nil => simp only [splitLines, if_neg hc, hfirst]
  | cons line lines => simp only [splitLines, if_neg hc, hfirst]

/-- Splitting may stop anywhere and go on with the partial line. -/
theorem splitLines_append (a b : Bytes) :
    splitLines (a ++ b) =
      ((splitLines a).1 ++ (splitLines ((splitLines a).2 ++ b)).1,
        (splitLines ((splitLines a).2 ++ b)).2) := by
  induction a with
  | nil => rfl
  | cons c rest ih =>
      rw [List.cons_append]
      by_cases hc : c = newline
      · subst hc
        rw [splitLines_cons_newline, splitLines_cons_newline, ih]
        rfl
      · rw [splitLines_cons_other hc, splitLines_cons_other hc, ih]
        rcases hlines : (splitLines rest).1 with _ | ⟨line, lines⟩
        · simp only [List.nil_append, List.cons_append, splitLines_cons_other hc]
        · rfl

/-- A line without a newline in it is split off whole. -/
theorem splitLines_line {line : Bytes} (hline : newline ∉ line) (rest : Bytes) :
    splitLines (line ++ newline :: rest) = (line :: (splitLines rest).1, (splitLines rest).2) := by
  induction line with
  | nil => exact splitLines_cons_newline rest
  | cons c line ih =>
      have hc : c ≠ newline := fun heq => hline (by simp [heq])
      rw [List.cons_append, splitLines_cons_other hc, ih fun hmem => hline (by simp [hmem])]

/-- Where there is no newline nothing is split off. -/
theorem splitLines_unended {tail : Bytes} (htail : newline ∉ tail) : splitLines tail = ([], tail) := by
  induction tail with
  | nil => rfl
  | cons c tail ih =>
      have hc : c ≠ newline := fun heq => htail (by simp [heq])
      rw [splitLines_cons_other hc, ih fun hmem => htail (by simp [hmem])]

/-- The partial line has no newline in it. -/
theorem newline_notMem_splitLines (stream : Bytes) : newline ∉ (splitLines stream).2 := by
  induction stream with
  | nil => exact List.not_mem_nil
  | cons c rest ih =>
      by_cases hc : c = newline
      · rw [hc, splitLines_cons_newline]
        exact ih
      · rw [splitLines_cons_other hc]
        split
        · exact fun hmem => (List.mem_cons.mp hmem).elim (fun heq => hc heq.symm) ih
        · exact ih

theorem splitLines_snd (stream : Bytes) : (splitLines stream).2 = unfinished stream := by
  induction stream using List.reverseRecOn with
  | nil => rfl
  | append_singleton stream c ih =>
      rw [splitLines_append]
      by_cases hc : c = newline
      · subst hc
        have hsplit := splitLines_line (newline_notMem_splitLines stream) []
        rw [hsplit, unfinished, List.rtakeWhile_concat_neg _ _ _ (by simp)]
        rfl
      · have hmem : newline ∉ (splitLines stream).2 ++ [c] := by
          simp only [List.mem_append, List.mem_singleton, not_or]
          exact ⟨newline_notMem_splitLines stream, Ne.symm hc⟩
        rw [splitLines_unended hmem, unfinished, List.rtakeWhile_concat_pos _ _ _ (by simpa using hc),
          ih, unfinished]

/-! ## Messages -/

theorem takeMessages_snd (buffer : Bytes) : (takeMessages buffer).2 = unfinished buffer :=
  splitLines_snd buffer

/-- **Messages do not depend on where a stream is cut**, if the partial one is
kept for what follows. -/
theorem takeMessages_append (a b : Bytes) :
    takeMessages (a ++ b) =
      ((takeMessages a).1 ++ (takeMessages ((takeMessages a).2 ++ b)).1,
        (takeMessages ((takeMessages a).2 ++ b)).2) := by
  simp only [takeMessages, splitLines_append a b, List.map_append, List.filter_append]

/-- Nothing is complete in a partial message. -/
theorem takeMessages_unended {tail : Bytes} (htail : newline ∉ tail) :
    takeMessages tail = ([], tail) := by
  simp only [takeMessages, splitLines_unended htail, List.map_nil, List.filter_nil]

theorem takeMessages_unfinished (buffer : Bytes) :
    takeMessages (unfinished buffer) = ([], unfinished buffer) :=
  takeMessages_unended (splitLines_snd buffer ▸ newline_notMem_splitLines buffer)

/-- A line is a message unless it is empty. -/
theorem takeMessages_line {line : Bytes} (hline : newline ∉ line) (rest : Bytes) :
    takeMessages (line ++ newline :: rest) =
      if (withoutReturn line).isEmpty then takeMessages rest
      else (withoutReturn line :: (takeMessages rest).1, (takeMessages rest).2) := by
  simp only [takeMessages, splitLines_line hline, List.map_cons]
  cases hmessage : (withoutReturn line).isEmpty with
  | true => rw [List.filter_cons_of_neg (by simp [hmessage])]; rfl
  | false => rw [List.filter_cons_of_pos (by simp [hmessage])]; rfl

private theorem takeMessageFrom_spec {line : Bytes} (hline : newline ∉ line) (rest : Bytes) :
    (takeMessageFrom line rest).1 = (takeMessages (line ++ rest)).1.head? ∧
      takeMessages (takeMessageFrom line rest).2 =
        ((takeMessages (line ++ rest)).1.tail, (takeMessages (line ++ rest)).2) := by
  induction rest generalizing line with
  | nil =>
      rw [List.append_nil, takeMessages_unended hline]
      exact ⟨rfl, takeMessages_unended hline⟩
  | cons c rest ih =>
      by_cases hc : c = newline
      · subst hc
        rw [takeMessages_line hline]
        simp only [takeMessageFrom, if_true]
        split
        · exact ih List.not_mem_nil
        · exact ⟨rfl, rfl⟩
      · have hlonger : newline ∉ line ++ [c] := by
          simp only [List.mem_append, List.mem_singleton, not_or]
          exact ⟨hline, Ne.symm hc⟩
        have hrest := ih hlonger
        rw [List.append_assoc, List.singleton_append] at hrest
        simpa only [takeMessageFrom, if_neg hc] using hrest

/-- **Taking one message takes the first**, and leaves the others. -/
theorem takeMessage_spec (buffer : Bytes) :
    (takeMessage buffer).1 = (takeMessages buffer).1.head? ∧
      takeMessages (takeMessage buffer).2 =
        ((takeMessages buffer).1.tail, (takeMessages buffer).2) :=
  takeMessageFrom_spec List.not_mem_nil buffer

/-- Where no message is taken, what stays is the partial one. -/
theorem takeMessage_none {buffer : Bytes} (h : (takeMessage buffer).1 = none) :
    (takeMessage buffer).2 = (takeMessages buffer).2 := by
  have hspec := takeMessage_spec buffer
  have hkept : ∀ {line rest : Bytes}, newline ∉ line → (takeMessageFrom line rest).1 = none →
      newline ∉ (takeMessageFrom line rest).2 := by
    intro line rest
    induction rest generalizing line with
    | nil => exact fun hline _ => hline
    | cons c rest ih =>
        intro hline hnone
        by_cases hc : c = newline
        · subst hc
          simp only [takeMessageFrom, if_true] at hnone ⊢
          split at hnone
          · next hempty =>
              rw [if_pos hempty]
              exact ih List.not_mem_nil hnone
          · exact absurd hnone (by simp)
        · simp only [takeMessageFrom, if_neg hc] at hnone ⊢
          refine ih ?_ hnone
          simp only [List.mem_append, List.mem_singleton, not_or]
          exact ⟨hline, Ne.symm hc⟩
  have hunended := takeMessages_unended (hkept List.not_mem_nil h)
  exact (congrArg Prod.snd (hunended.symm.trans hspec.2))

/-! ## Streams of messages -/

/-- A message that a line can carry. -/
structure Lined (message : Bytes) : Prop where
  nonempty : message ≠ []
  line : newline ∉ message
  noReturn : message.getLast? ≠ some 0x0D

/-- Messages on lines of their own. -/
def lines (messages : List Bytes) : Bytes := messages.flatMap fun message => message ++ [newline]

/-- The bytes of an unfinished message: some first ones of the next message. -/
def StartsNext (partialBytes : Bytes) : List Bytes → Prop
  | [] => partialBytes = []
  | message :: _ => partialBytes <+: message

theorem StartsNext.line {partialBytes : Bytes} {messages : List Bytes}
    (h : StartsNext partialBytes messages) (hmessages : ∀ message ∈ messages, Lined message) :
    newline ∉ partialBytes := by
  cases messages with
  | nil => exact h ▸ List.not_mem_nil
  | cons message _ =>
      exact fun hmem => (hmessages message List.mem_cons_self).line (h.subset hmem)

theorem lines_cons (message : Bytes) (messages : List Bytes) :
    lines (message :: messages) = message ++ newline :: lines messages := by
  simp only [lines, List.flatMap_cons, List.append_assoc, List.cons_append, List.nil_append]

theorem Lined.withoutReturn {message : Bytes} (h : Lined message) :
    withoutReturn message = message ∧ message.isEmpty = false :=
  ⟨if_neg h.noReturn, List.isEmpty_eq_false_iff.mpr h.nonempty⟩

/-- Bytes before a message on the same line join it. -/
theorem Lined.joined {front message : Bytes} (h : Lined message) (hfront : newline ∉ front) :
    Lined (front ++ message) where
  nonempty := List.append_ne_nil_of_right_ne_nil _ h.nonempty
  line := List.not_mem_append hfront h.line
  noReturn := by
    rw [List.getLast?_append_of_ne_nil _ h.nonempty]
    exact h.noReturn

/-- A message at the front is taken. -/
theorem takeMessage_line {message : Bytes} (h : Lined message) (rest : Bytes) :
    takeMessage (message ++ newline :: rest) = (some message, rest) := by
  have hfrom : ∀ {front back : Bytes}, front ++ back = message → newline ∉ back →
      takeMessageFrom front (back ++ newline :: rest) = (some message, rest) := by
    intro front back
    induction back generalizing front with
    | nil =>
        rintro rfl _
        rw [List.append_nil] at h
        simp [takeMessageFrom, h.withoutReturn]
    | cons c back ih =>
        intro hmessage hback
        rw [List.mem_cons, not_or] at hback
        simp only [List.cons_append, takeMessageFrom, if_neg (Ne.symm hback.1)]
        exact ih (by rw [List.append_assoc, List.singleton_append, hmessage]) hback.2
  exact hfrom (List.nil_append message) h.line

theorem takeMessage_unended {tail : Bytes} (htail : newline ∉ tail) :
    takeMessage tail = (none, tail) := by
  have hfrom : ∀ {front back : Bytes}, newline ∉ back →
      takeMessageFrom front back = (none, front ++ back) := by
    intro front back
    induction back generalizing front with
    | nil => intro _; rw [List.append_nil]; rfl
    | cons c back ih =>
        intro hback
        rw [List.mem_cons, not_or] at hback
        simp only [takeMessageFrom, if_neg (Ne.symm hback.1), ih hback.2, List.append_assoc,
          List.singleton_append]
  exact hfrom htail

theorem takeMessages_lines {messages : List Bytes} (h : ∀ message ∈ messages, Lined message)
    (rest : Bytes) :
    takeMessages (lines messages ++ rest) =
      (messages ++ (takeMessages rest).1, (takeMessages rest).2) := by
  induction messages with
  | nil => rfl
  | cons message messages ih =>
      have hmessage := h message List.mem_cons_self
      obtain ⟨hplain, hnonempty⟩ := hmessage.withoutReturn
      rw [lines_cons, List.append_assoc, List.cons_append, takeMessages_line hmessage.line, hplain,
        if_neg (by simp [hnonempty]), ih fun m hm => h m (List.mem_cons_of_mem _ hm)]
      rfl

/-- The front of a stream of messages: some complete messages and the beginning of
the next. -/
theorem lines_front {messages : List Bytes} {front rest : Bytes}
    (h : front ++ rest = lines messages) :
    ∃ complete later partialBytes, messages = complete ++ later ∧
      front = lines complete ++ partialBytes ∧ StartsNext partialBytes later := by
  induction messages generalizing front with
  | nil =>
      obtain ⟨rfl, _⟩ := List.append_eq_nil_iff.mp h
      exact ⟨[], [], [], rfl, rfl, rfl⟩
  | cons message messages ih =>
      have hstream : front ++ rest = (message ++ [newline]) ++ lines messages := h
      rcases List.append_eq_append_iff.mp hstream with ⟨more, hline, _⟩ | ⟨front', rfl, hrest⟩
      · -- The front ends within the first line: before its newline, or with it.
        rcases List.eq_nil_or_concat more with rfl | ⟨start, c, rfl⟩
        · rw [List.append_nil] at hline
          refine ⟨[message], messages, [], rfl, ?_, ?_⟩
          · simp only [← hline, lines, List.flatMap_cons, List.flatMap_nil, List.append_nil]
          · cases messages with
            | nil => rfl
            | cons later _ => exact List.nil_prefix
        · rw [List.concat_eq_append, ← List.append_assoc] at hline
          obtain ⟨hmessage, _⟩ := List.append_inj' hline rfl
          exact ⟨[], message :: messages, front, rfl, rfl, ⟨start, hmessage.symm⟩⟩
      · obtain ⟨complete, later, partialBytes, rfl, rfl, hbegins⟩ := ih hrest.symm
        refine ⟨message :: complete, later, partialBytes, rfl, ?_, hbegins⟩
        simp only [lines, List.flatMap_cons, List.append_assoc]

/-- At the end of the stream all of its messages are complete. -/
theorem lines_whole {complete later : List Bytes} {partialBytes : Bytes}
    (hlater : ∀ message ∈ later, Lined message) (hbegins : StartsNext partialBytes later)
    (h : lines complete ++ partialBytes = lines (complete ++ later)) : later = [] := by
  have hrest : partialBytes = lines later := by
    rw [lines, lines, List.flatMap_append] at h
    exact List.append_cancel_left h
  cases later with
  | nil => rfl
  | cons message later =>
      refine absurd ?_ (hbegins.line hlater)
      rw [hrest]
      simp [lines]

/-! ## However the bytes arrive -/

/-- Read by read, as the server does: append what has arrived, take the messages. -/
def feed (state : List Bytes × Bytes) (read : Bytes) : List Bytes × Bytes :=
  let (messages, inbox) := takeMessages (state.2 ++ read)
  (state.1 ++ messages, inbox)

theorem feed_reads (reads : List Bytes) :
    reads.foldl feed ([], []) = takeMessages reads.flatten := by
  induction reads using List.reverseRecOn with
  | nil => rfl
  | append_singleton reads read ih =>
      rw [List.foldl_append, ih, List.flatten_append, takeMessages_append]
      simp only [List.foldl_cons, List.foldl_nil, feed, List.flatten_cons, List.flatten_nil,
        List.append_nil]

/-- What a client does with its buffer. -/
inductive InboxCall
  | append (read : Bytes)
  | take

/-- Call by call, as the client does: append what has arrived, or take one message. -/
def InboxCall.run (state : List Bytes × Bytes) : InboxCall → List Bytes × Bytes
  | .append read => (state.1, state.2 ++ read)
  | .take =>
      let (message?, inbox) := takeMessage state.2
      (state.1 ++ message?.toList, inbox)

/-- What the calls have read. -/
def InboxCall.bytes : InboxCall → Bytes
  | .append read => read
  | .take => []

/-- What has been taken, and then what the buffer still has, are the messages of all
that has been read. -/
theorem takeMessages_calls (calls : List InboxCall) :
    takeMessages (calls.flatMap InboxCall.bytes) =
      ((calls.foldl InboxCall.run ([], [])).1 ++
          (takeMessages (calls.foldl InboxCall.run ([], [])).2).1,
        (takeMessages (calls.foldl InboxCall.run ([], [])).2).2) := by
  induction calls using List.reverseRecOn with
  | nil => rfl
  | append_singleton calls call ih =>
      rw [List.foldl_append, List.foldl_cons, List.foldl_nil, List.flatMap_append,
        List.flatMap_singleton, takeMessages_append, ih]
      generalize calls.foldl InboxCall.run ([], []) = state
      cases call with
      | append read =>
          simp only [InboxCall.run, InboxCall.bytes, takeMessages_append state.2 read,
            List.append_assoc]
      | take =>
          obtain ⟨hhead, hrest⟩ := takeMessage_spec state.2
          have hunfinished : takeMessages (takeMessages state.2).2 =
              ([], (takeMessages state.2).2) := by
            rw [takeMessages_snd]
            exact takeMessages_unfinished state.2
          simp only [InboxCall.run, InboxCall.bytes, List.append_nil, hunfinished, hhead, hrest,
            List.append_assoc]
          cases (takeMessages state.2).1 with
          | nil => rfl
          | cons message messages => rfl

end WireLab
