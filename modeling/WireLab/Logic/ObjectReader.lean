import WireLab.Logic.JsonScanner

/-!
# Reading the members of an object

Three parsers read objects with the same loop: a key, a colon, what the key asks
for, and a comma or the closing brace. `membersLoop` is that loop for any reader
of members. If the reader reads the members it knows, each while it is fresh
(`Implements`), the loop reads exactly the texts that list such members
(`membersLoop_complete`, `membersLoop_sound`), whatever its fuel beyond the
length of the text (`membersLoop_fuel`).
-/

namespace WireLab

open Base Base.Json JsonScanner

section
variable {S α : Type}

/-- The loop over the members of an object, after its brace. -/
def membersLoop (read : S → Bytes → Bytes → Except ControlParseError (S × Bytes)) :
    Nat → S → Bytes → Except ControlParseError (S × Bytes)
  | 0, _, _ => .error .malformedJson
  | fuel + 1, state, input => do
      let (key, rest) ← readString input
      let rest ← consume colon rest
      let (state, rest) ← read state key rest
      match consume closeBrace rest with
      | .ok rest => .ok (state, rest)
      | .error _ =>
          let rest ← consume comma rest
          membersLoop read fuel state rest

/-- A reader of members: it reads the value of a member that is fresh, and stores
it; it reads nothing else. -/
structure Implements (members : Members α) (fresh : S → α → Prop) (set : S → α → S)
    (read : S → Bytes → Bytes → Except ControlParseError (S × Bytes)) : Prop where
  complete : ∀ {state a w value rest}, fresh state a → members.Reads a value → Blank w →
    NoDigit rest → read state (members.name a) (w ++ (value ++ rest)) = .ok (set state a, rest)
  sound : ∀ {state key input state' rest}, read state key input = .ok (state', rest) →
    ∃ a w value, members.name a = key ∧ fresh state a ∧ members.Reads a value ∧ Blank w ∧
      state' = set state a ∧ input = w ++ (value ++ rest)

/-- Each member is fresh when it comes. -/
def FreshAll (fresh : S → α → Prop) (set : S → α → S) : S → List α → Prop
  | _, [] => True
  | state, a :: rest => fresh state a ∧ FreshAll fresh set (set state a) rest

variable {members : Members α} {fresh : S → α → Prop} {set : S → α → S}
  {read : S → Bytes → Bytes → Except ControlParseError (S × Bytes)}

variable (members)

/-- A member makes no other name stale: the members are fresh, whatever their order, if
each may be given and no two have one name. -/
theorem freshAll_iff
    (hset : ∀ state a b, fresh (set state b) a ↔ fresh state a ∧ members.name a ≠ members.name b)
    {state : S} {all : List α} :
    FreshAll fresh set state all ↔
      (∀ a ∈ all, fresh state a) ∧ (all.map members.name).Nodup := by
  induction all generalizing state with
  | nil => simp [FreshAll]
  | cons b rest ih =>
      simp only [FreshAll, ih, hset, List.forall_mem_cons, List.map_cons, List.nodup_cons,
        List.mem_map, not_exists, not_and]
      constructor
      · rintro ⟨hb, hrest, hnodup⟩
        exact ⟨⟨hb, fun a ha => (hrest a ha).1⟩, fun a ha => (hrest a ha).2, hnodup⟩
      · rintro ⟨⟨hb, hrest⟩, hne, hnodup⟩
        exact ⟨hb, fun a ha => ⟨hrest a ha, hne a ha⟩, hnodup⟩

/-- What may still be given after some members. -/
theorem fresh_foldl
    (hset : ∀ state a b, fresh (set state b) a ↔ fresh state a ∧ members.name a ≠ members.name b)
    {state : S} {all : List α} {a : α} :
    fresh (all.foldl set state) a ↔
      fresh state a ∧ ∀ b ∈ all, members.name a ≠ members.name b := by
  induction all generalizing state with
  | nil => simp
  | cons b all ih => rw [List.foldl_cons, ih, hset, List.forall_mem_cons, and_assoc]

/-- Members of different names are stored in any order. -/
theorem foldl_set_perm
    (hcomm : ∀ state a b, members.name a ≠ members.name b →
      set (set state a) b = set (set state b) a)
    {all all' : List α} (hperm : all.Perm all') (hnodup : (all.map members.name).Nodup)
    (state : S) : all.foldl set state = all'.foldl set state := by
  refine hperm.foldl_eq' (fun a ha b hb state => ?_) state
  by_cases hname : members.name a = members.name b
  · rw [List.inj_on_of_nodup_map hnodup ha hb hname]
  · exact (hcomm state b a (Ne.symm hname)).symm

/-- One of the members may as well come last. -/
theorem foldl_set_last
    (hcomm : ∀ state a b, members.name a ≠ members.name b →
      set (set state a) b = set (set state b) a)
    {all : List α} {a : α} (ha : a ∈ all) (hnodup : (all.map members.name).Nodup) (state : S) :
    ∃ rest : List α, all.foldl set state = set (rest.foldl set state) a := by
  obtain ⟨before, after, rfl⟩ := List.append_of_mem ha
  have hperm : (before ++ a :: after).Perm ((before ++ after) ++ [a]) :=
    List.perm_middle.trans (List.perm_append_singleton a _).symm
  refine ⟨before ++ after, ?_⟩
  rw [foldl_set_perm members hcomm hperm hnodup, List.foldl_append, List.foldl_cons, List.foldl_nil]

/-- One of the members may as well come first. -/
theorem foldl_set_first
    (hcomm : ∀ state a b, members.name a ≠ members.name b →
      set (set state a) b = set (set state b) a)
    {all : List α} {a : α} (ha : a ∈ all) (hnodup : (all.map members.name).Nodup) (state : S) :
    ∃ rest : List α, (∀ b ∈ rest, members.name b ≠ members.name a) ∧
      all.foldl set state = rest.foldl set (set state a) := by
  obtain ⟨before, after, rfl⟩ := List.append_of_mem ha
  have hperm : (before ++ a :: after).Perm (a :: (before ++ after)) := List.perm_middle
  refine ⟨before ++ after, fun b hb hname => ?_, foldl_set_perm members hcomm hperm hnodup state⟩
  have hnodup' := (hperm.map members.name).nodup_iff.mp hnodup
  rw [List.map_cons, List.nodup_cons] at hnodup'
  exact hnodup'.1 (List.mem_map.mpr ⟨b, hb, hname⟩)

variable {members}

/-- Blanks, and then a comma or a brace, are no digits. -/
theorem noDigit_blank {w : Bytes} {c : UInt8} (hw : Blank w) (hc : isDigit c = false)
    (rest : Bytes) : NoDigit (w ++ c :: rest) := by
  intro d hd
  cases w with
  | nil =>
      obtain rfl := Option.some.inj hd
      exact hc
  | cons e w =>
      obtain rfl := Option.some.inj hd
      have hspace := hw e List.mem_cons_self
      simp only [isSpace, Bool.or_eq_true, decide_eq_true_eq] at hspace
      rcases hspace with ((rfl | rfl) | rfl) | rfl <;> decide

private theorem isDigit_closeBrace : isDigit closeBrace = false := by decide

private theorem isDigit_comma : isDigit comma = false := by decide

/-- One member, read from its text. -/
private theorem memberText_read (h : Implements members fresh set read) {a : α} {text : Bytes}
    (htext : MemberText members a text) {state : S} (hfresh : fresh state a) {c : UInt8}
    (hc : isDigit c = false) (rest : Bytes) :
    ∃ left after, Blank after ∧ readString (text ++ c :: rest) = .ok (members.name a, left) ∧
      ∃ left', consume colon left = .ok left' ∧
        read state (members.name a) left' = .ok (set state a, after ++ c :: rest) := by
  obtain ⟨hbefore, hkey, hafterKey, hbeforeValue, hvalue, hafter⟩ := htext
  refine ⟨_, _, hafter, readString_iff.mpr ⟨_, _, hbefore, hkey, ?_⟩, _,
    (consume_iff (by decide)).mpr ⟨_, hafterKey, rfl⟩,
    h.complete hfresh hvalue hbeforeValue (noDigit_blank hafter hc rest)⟩
  simp only [List.append_assoc, List.cons_append]

/-- A member with another after it is one turn of the loop. -/
theorem membersLoop_more (h : Implements members fresh set read) {a : α} {text : Bytes}
    (htext : MemberText members a text) (fuel : Nat) {state : S} (hfresh : fresh state a)
    (rest : Bytes) :
    membersLoop read (fuel + 1) state (text ++ comma :: rest) =
      membersLoop read fuel (set state a) rest := by
  obtain ⟨left, after, hafter, hkey, left', hcolon, hread⟩ :=
    memberText_read h htext hfresh isDigit_comma rest
  have hopen : consume closeBrace (after ++ comma :: rest) = .error .malformedJson :=
    consume_other hafter (by decide) (by decide) _
  have hcomma : consume comma (after ++ comma :: rest) = .ok rest :=
    (consume_iff (by decide)).mpr ⟨after, hafter, rfl⟩
  simp only [membersLoop, hkey, hcolon, hread, hopen, hcomma, bind, Except.bind]

/-- What the reader refuses, the loop refuses. -/
theorem membersLoop_refused (fuel : Nat) {state : S} {key keyText value : Bytes}
    (hkey : Spells key keyText) {e : ControlParseError} (hread : read state key value = .error e) :
    membersLoop read (fuel + 1) state (quote :: (keyText ++ quote :: colon :: value)) =
      .error e := by
  have hstring : readString (quote :: (keyText ++ quote :: colon :: value)) =
      .ok (key, colon :: value) := readString_iff.mpr ⟨[], keyText, blank_nil, hkey, rfl⟩
  have hcolon : consume colon (colon :: value) = .ok value :=
    (consume_iff (by decide)).mpr ⟨[], blank_nil, rfl⟩
  simp only [membersLoop, hstring, hcolon, hread, bind, Except.bind]

/-- **The loop reads every text that lists fresh members.** -/
theorem membersLoop_complete (h : Implements members fresh set read) {all : List α} {body : Bytes}
    (htext : MembersText members all body) {fuel : Nat} (hfuel : all.length ≤ fuel) {state : S}
    (hfresh : FreshAll fresh set state all) (rest : Bytes) :
    membersLoop read fuel state (body ++ closeBrace :: rest) = .ok (all.foldl set state, rest) := by
  induction htext generalizing fuel state with
  | one htext =>
      obtain ⟨fuel, rfl⟩ : ∃ n, fuel = n + 1 := ⟨fuel - 1, by simp at hfuel; omega⟩
      obtain ⟨left, after, hafter, hkey, left', hcolon, hread⟩ :=
        memberText_read h htext hfresh.1 isDigit_closeBrace rest
      have hclose : consume closeBrace (after ++ closeBrace :: rest) = .ok rest :=
        (consume_iff (by decide)).mpr ⟨after, hafter, rfl⟩
      simp only [membersLoop, hkey, hcolon, hread, hclose, bind, Except.bind, List.foldl_cons,
        List.foldl_nil]
  | @more a later text texts htext _ ih =>
      obtain ⟨fuel, rfl⟩ : ∃ n, fuel = n + 1 := ⟨fuel - 1, by simp at hfuel; omega⟩
      rw [List.append_assoc, List.cons_append, membersLoop_more h htext fuel hfresh.1]
      exact ih (by simpa using hfuel) hfresh.2

/-- One round of the loop; the flag says whether another member follows. -/
private def memberRound (read : S → Bytes → Bytes → Except ControlParseError (S × Bytes))
    (state : S) (input : Bytes) : Except ControlParseError (Bool × S × Bytes) := do
  let (key, rest) ← readString input
  let rest ← consume colon rest
  let (state, rest) ← read state key rest
  match consume closeBrace rest with
  | .ok rest => .ok (false, state, rest)
  | .error _ =>
      let rest ← consume comma rest
      .ok (true, state, rest)

private theorem membersLoop_succ (fuel : Nat) (state : S) (input : Bytes) :
    membersLoop read (fuel + 1) state input =
      match memberRound read state input with
      | .error e => .error e
      | .ok (false, state, rest) => .ok (state, rest)
      | .ok (true, state, rest) => membersLoop read fuel state rest := by
  simp only [membersLoop, memberRound, bind, Except.bind]
  cases readString input with
  | error e => rfl
  | ok result =>
      dsimp only
      cases consume colon result.2 with
      | error e => rfl
      | ok afterColon =>
          dsimp only
          cases read state result.1 afterColon with
          | error e => rfl
          | ok result' =>
              dsimp only
              cases consume closeBrace result'.2 with
              | ok rest => rfl
              | error e =>
                  dsimp only
                  cases consume comma result'.2 with
                  | error e => rfl
                  | ok rest => rfl

/-- What one round reads. -/
private theorem memberRound_sound (h : Implements members fresh set read) {state state' : S}
    {input rest : Bytes} {more : Bool}
    (hround : memberRound read state input = .ok (more, state', rest)) :
    ∃ a text, MemberText members a text ∧ fresh state a ∧ state' = set state a ∧
      input = text ++ (if more then comma else closeBrace) :: rest := by
  obtain ⟨⟨key, afterKey⟩, hkey, hround₁⟩ := bind_ok.mp hround
  obtain ⟨afterColon, hcolon, hround₂⟩ := bind_ok.mp hround₁
  obtain ⟨⟨state₁, afterValue⟩, hread, hround₃⟩ := bind_ok.mp hround₂
  obtain ⟨before, keyText, hbefore, hspells, rfl⟩ := readString_iff.mp hkey
  obtain ⟨beforeColon, hbeforeColon, rfl⟩ := (consume_iff (by decide)).mp hcolon
  obtain ⟨a, beforeValue, value, rfl, hfresh, hreads, hblank, rfl, rfl⟩ := h.sound hread
  dsimp only at hround₃
  split at hround₃
  · next left hclose =>
      obtain ⟨after, hafter, rfl⟩ := (consume_iff (by decide)).mp hclose
      obtain ⟨rfl, rfl, rfl⟩ : false = more ∧ set state a = state' ∧ left = rest := by
        simpa using hround₃
      refine ⟨a, _, .mk hbefore hspells hbeforeColon hblank hreads hafter, hfresh, rfl, ?_⟩
      simp only [List.append_assoc, List.cons_append, Bool.false_eq_true, if_false]
  · obtain ⟨left, hcomma, hround₄⟩ := bind_ok.mp hround₃
    obtain ⟨after, hafter, rfl⟩ := (consume_iff (by decide)).mp hcomma
    obtain ⟨rfl, rfl, rfl⟩ : true = more ∧ set state a = state' ∧ left = rest := by
      simpa using hround₄
    refine ⟨a, _, .mk hbefore hspells hbeforeColon hblank hreads hafter, hfresh, rfl, ?_⟩
    simp only [List.append_assoc, List.cons_append, if_true]

/-- **What the loop reads lists fresh members.** -/
theorem membersLoop_sound (h : Implements members fresh set read) {fuel : Nat} {state state' : S}
    {input rest : Bytes} (hloop : membersLoop read fuel state input = .ok (state', rest)) :
    ∃ all body, MembersText members all body ∧ FreshAll fresh set state all ∧
      state' = all.foldl set state ∧ input = body ++ closeBrace :: rest := by
  induction fuel generalizing state input with
  | zero => exact absurd hloop (by simp [membersLoop])
  | succ fuel ih =>
      rw [membersLoop_succ] at hloop
      cases hround : memberRound read state input with
      | error e =>
          rw [hround] at hloop
          exact absurd hloop (by simp)
      | ok result =>
          obtain ⟨more, state₁, left⟩ := result
          obtain ⟨a, text, htext, hfresh, rfl, rfl⟩ := memberRound_sound h hround
          rw [hround] at hloop
          cases more with
          | false =>
              obtain ⟨rfl, rfl⟩ := Prod.mk.inj (Except.ok.inj hloop)
              exact ⟨[a], text, .one htext, ⟨hfresh, trivial⟩, rfl, rfl⟩
          | true =>
              obtain ⟨all, body, hbody, hall, hfold, rfl⟩ := ih hloop
              refine ⟨a :: all, _, .more htext hbody, ⟨hfresh, hall⟩, hfold, ?_⟩
              simp only [List.append_assoc, List.cons_append, if_true]

/-- **More fuel than the text is long changes nothing.** -/
theorem membersLoop_fuel (h : Implements members fresh set read) {fuel fuel' : Nat} (state : S)
    (input : Bytes) (hfuel : input.length ≤ fuel) (hfuel' : input.length ≤ fuel') :
    membersLoop read fuel state input = membersLoop read fuel' state input := by
  have hempty : ∀ state fuel, membersLoop read fuel state [] = .error .malformedJson := by
    intro state fuel
    cases fuel with
    | zero => rfl
    | succ fuel => rfl
  induction fuel generalizing fuel' state input with
  | zero =>
      obtain rfl := List.length_eq_zero_iff.mp (Nat.le_zero.mp hfuel)
      rw [hempty, hempty]
  | succ fuel ih =>
      cases fuel' with
      | zero =>
          obtain rfl := List.length_eq_zero_iff.mp (Nat.le_zero.mp hfuel')
          rw [hempty, hempty]
      | succ fuel' =>
          rw [membersLoop_succ, membersLoop_succ]
          cases hround : memberRound read state input with
          | error e => rfl
          | ok result =>
              obtain ⟨more, state₁, left⟩ := result
              cases more with
              | false => rfl
              | true =>
                  -- A round leaves less than it was given.
                  obtain ⟨a, text, _, _, _, rfl⟩ := memberRound_sound h hround
                  simp only [List.length_append, List.length_cons] at hfuel hfuel'
                  exact ih state₁ left (by omega) (by omega)

/-! ## Whole objects -/

/-- An object that may be empty. -/
def readObject (read : S → Bytes → Bytes → Except ControlParseError (S × Bytes)) (state : S)
    (input : Bytes) : Except ControlParseError (S × Bytes) := do
  let rest ← consume openBrace input
  match consume closeBrace rest with
  | .ok rest => .ok (state, rest)
  | .error _ => membersLoop read rest.length state rest

/-- Members do not read as the end of an object. -/
private theorem members_not_close {all : List α} {body : Bytes} (h : MembersText members all body)
    (rest : Bytes) : consume closeBrace (body ++ rest) = .error .malformedJson := by
  obtain ⟨w, text, hw, rfl⟩ := h.starts
  rw [List.append_assoc, List.cons_append]
  exact consume_other hw (by decide) (by decide) _

/-- **An object is read exactly if it lists fresh members.** -/
theorem readObject_iff (h : Implements members fresh set read) {state state' : S}
    {input rest : Bytes} :
    readObject read state input = .ok (state', rest) ↔ ∃ all w text, Blank w ∧
      ObjectText members all text ∧ FreshAll fresh set state all ∧ state' = all.foldl set state ∧
      input = w ++ (text ++ rest) := by
  unfold readObject
  rw [bind_ok]
  constructor
  · rintro ⟨left, hopen, hread⟩
    obtain ⟨w, hw, rfl⟩ := (consume_iff (by decide)).mp hopen
    split at hread
    · next left' hclose =>
        obtain ⟨blank, hblank, rfl⟩ := (consume_iff (by decide)).mp hclose
        obtain ⟨rfl, rfl⟩ := Prod.mk.inj (Except.ok.inj hread)
        refine ⟨[], w, _, hw, .empty hblank, trivial, rfl, ?_⟩
        simp only [List.cons_append, List.append_assoc, List.nil_append]
    · obtain ⟨all, body, hbody, hall, hfold, rfl⟩ := membersLoop_sound h hread
      refine ⟨all, w, _, hw, .filled hbody, hall, hfold, ?_⟩
      simp only [List.cons_append, List.append_assoc, List.nil_append]
  · rintro ⟨all, w, text, hw, htext, hall, rfl, rfl⟩
    cases htext with
    | @empty blank hblank =>
        refine ⟨blank ++ closeBrace :: rest, (consume_iff (by decide)).mpr ⟨w, hw, ?_⟩, ?_⟩
        · simp only [List.cons_append, List.append_assoc, List.nil_append]
        · have hclose : consume closeBrace (blank ++ closeBrace :: rest) = .ok rest :=
            (consume_iff (by decide)).mpr ⟨blank, hblank, rfl⟩
          rw [hclose]
          rfl
    | @filled _ body hbody =>
        refine ⟨body ++ closeBrace :: rest, (consume_iff (by decide)).mpr ⟨w, hw, ?_⟩, ?_⟩
        · simp only [List.cons_append, List.append_assoc, List.nil_append]
        · rw [members_not_close hbody]
          refine membersLoop_complete h hbody ?_ hall rest
          have hlength := hbody.length_le
          simp only [List.length_append]
          omega

/-- A text that is one object with at least one member, and nothing after it. -/
def parseObject {β : Type} (read : S → Bytes → Bytes → Except ControlParseError (S × Bytes))
    (finish : S → Except ControlParseError β) (init : S) (input : Bytes) :
    Except ControlParseError β := do
  let rest ← consume openBrace input
  match consume closeBrace rest with
  | .ok _ => .error .missingRequiredField
  | .error _ =>
      let (state, rest) ← membersLoop read rest.length init rest
      if skipWhitespace rest ≠ [] then .error .malformedJson
      else finish state

/-- An object without members may as well be read, where nothing is complete yet. -/
private theorem parseObject_eq {β : Type} {finish : S → Except ControlParseError β} {init : S}
    (hinit : ∀ b, finish init ≠ .ok b) {input : Bytes} {b : β} :
    parseObject read finish init input = .ok b ↔ ∃ state rest,
      readObject read init input = .ok (state, rest) ∧ skipWhitespace rest = [] ∧
        finish state = .ok b := by
  unfold parseObject readObject
  rw [bind_ok]
  constructor
  · rintro ⟨left, hopen, h⟩
    split at h
    · exact absurd h (by simp)
    · next hclose =>
        obtain ⟨⟨state, rest⟩, hmembers, h⟩ := bind_ok.mp h
        rcases ite_eq_iff.mp h with ⟨_, h⟩ | ⟨hend, h⟩
        · exact absurd h (by simp)
        · refine ⟨state, rest, bind_ok.mpr ⟨left, hopen, ?_⟩, not_not.mp hend, h⟩
          rw [hclose]
          exact hmembers
  · rintro ⟨state, rest, hread, hend, hfinish⟩
    obtain ⟨left, hopen, h⟩ := bind_ok.mp hread
    refine ⟨left, hopen, ?_⟩
    split at h
    · obtain ⟨rfl, rfl⟩ := Prod.mk.inj (Except.ok.inj h)
      exact absurd hfinish (hinit b)
    · exact bind_ok.mpr ⟨(state, rest), h, (if_neg (not_not.mpr hend)).trans hfinish⟩

/-- **What a parser of objects accepts**: the texts that list fresh members which
together are complete, with blanks around them. -/
theorem parseObject_iff (h : Implements members fresh set read) {β : Type}
    {finish : S → Except ControlParseError β} {init : S} (hinit : ∀ b, finish init ≠ .ok b)
    {input : Bytes} {b : β} :
    parseObject read finish init input = .ok b ↔ ∃ all before text after, Blank before ∧
      Blank after ∧ ObjectText members all text ∧ FreshAll fresh set init all ∧
      finish (all.foldl set init) = .ok b ∧ input = before ++ (text ++ after) := by
  rw [parseObject_eq hinit]
  constructor
  · rintro ⟨state, rest, hread, hend, hfinish⟩
    obtain ⟨all, w, text, hw, htext, hall, rfl, rfl⟩ := (readObject_iff h).mp hread
    exact ⟨all, w, text, rest, hw, skipWhitespace_nil.mp hend, htext, hall, hfinish, rfl⟩
  · rintro ⟨all, before, text, after, hbefore, hafter, htext, hall, hfinish, rfl⟩
    exact ⟨_, after, (readObject_iff h).mpr ⟨all, before, text, hbefore, htext, hall, rfl, rfl⟩,
      skipWhitespace_nil.mpr hafter, hfinish⟩

end

/-! ## Readers of one value -/

/-- `scan` reads the texts `Text` says, after blanks, and nothing else. -/
structure Scans {β : Type} (scan : Bytes → Except ControlParseError (β × Bytes))
    (Text : β → Bytes → Prop) : Prop where
  complete : ∀ {value w text rest}, Blank w → Text value text → NoDigit rest →
    scan (w ++ (text ++ rest)) = .ok (value, rest)
  sound : ∀ {value input rest}, scan input = .ok (value, rest) →
    ∃ w text, Blank w ∧ Text value text ∧ input = w ++ (text ++ rest)

theorem scans_string : Scans readString StringText where
  complete hw htext _ := readString_text_iff.mpr ⟨_, _, hw, htext, rfl⟩
  sound h := readString_text_iff.mp h

theorem scans_uint32 : Scans readUInt32 fun value text => Numeral value.toNat text where
  complete hw htext hrest := readUInt32_iff.mpr ⟨_, _, hw, htext, hrest, rfl⟩
  sound h := by
    obtain ⟨w, text, hw, htext, _, hinput⟩ := readUInt32_iff.mp h
    exact ⟨w, text, hw, htext, hinput⟩

theorem scans_uint64 : Scans readUInt64 fun value text => Numeral value.toNat text where
  complete hw htext hrest := readUInt64_iff.mpr ⟨_, _, hw, htext, hrest, rfl⟩
  sound h := by
    obtain ⟨w, text, hw, htext, _, hinput⟩ := readUInt64_iff.mp h
    exact ⟨w, text, hw, htext, hinput⟩

theorem scans_bool : Scans readBool BoolText where
  complete hw htext _ := readBool_iff.mpr ⟨_, hw, by rw [htext]⟩
  sound h := by
    obtain ⟨w, hw, hinput⟩ := readBool_iff.mp h
    exact ⟨w, _, hw, rfl, hinput⟩

/-- The branch of a reader that asks for one kind of member: under its key, if it
is fresh, a value is scanned and stored. -/
theorem branch_sound {S α β : Type} {scan : Bytes → Except ControlParseError (β × Bytes)}
    {Text : β → Bytes → Prop} (hscan : Scans scan Text) {members : Members α}
    {fresh : S → α → Prop} {set : S → α → S} {state state' : S} {key key' input rest : Bytes}
    {free : Prop} (hbranch : key = key' ∧ free) (mk : β → α)
    (h : (do
      let (value, rest) ← scan input
      .ok (set state (mk value), rest)) =
        (.ok (state', rest) : Except ControlParseError (S × Bytes)))
    (hmk : ∀ value, members.name (mk value) = key' ∧ (free → fresh state (mk value)) ∧
      ∀ text, Text value text → members.Reads (mk value) text) :
    ∃ a w value, members.name a = key ∧ fresh state a ∧ members.Reads a value ∧ Blank w ∧
      state' = set state a ∧ input = w ++ (value ++ rest) := by
  obtain ⟨⟨value, left⟩, hread, hstore⟩ := bind_ok.mp h
  obtain ⟨rfl, rfl⟩ := Prod.mk.inj (Except.ok.inj hstore)
  obtain ⟨w, text, hw, htext, rfl⟩ := hscan.sound hread
  obtain ⟨hname, hfresh, hreads⟩ := hmk value
  exact ⟨mk value, w, text, hname.trans hbranch.1.symm, hfresh hbranch.2,
    hreads text htext, hw, rfl, rfl⟩

/-- A branch whose value is there. -/
theorem branch_complete {S β : Type} {scan : Bytes → Except ControlParseError (β × Bytes)}
    {Text : β → Bytes → Prop} (hscan : Scans scan Text) {w text rest : Bytes} {value : β}
    (hw : Blank w) (htext : Text value text) (hrest : NoDigit rest) (store : β → S) :
    (do
      let (value, rest) ← scan (w ++ (text ++ rest))
      .ok (store value, rest)) =
        (.ok (store value, rest) : Except ControlParseError (S × Bytes)) :=
  bind_ok.mpr ⟨_, hscan.complete hw htext hrest, rfl⟩

end WireLab
