import WireLab.Base.JsonSyntax

/-!
# What a JSON text stands for

A JSON text is the text of a tree, with whatever blanks between its tokens
(`Tree.Text`). The grammar is unambiguous: a text that no value goes on with is the
text of one tree (`Tree.unambiguous`), so that whoever reads it reads that tree.
-/

namespace Base.Json

/-! ## Lists between brackets -/

section
variable {α : Type} (R : α → Bytes → Prop)

/-- Texts with commas between them, and blanks around each. -/
inductive Separated : List α → Bytes → Prop
  | one {a : α} {before text after : Bytes} (hbefore : Blank before) (h : R a text)
      (hafter : Blank after) : Separated [a] (before ++ (text ++ after))
  | more {a : α} {rest : List α} {before text after texts : Bytes} (hbefore : Blank before)
      (h : R a text) (hafter : Blank after) (hrest : Separated rest texts) :
      Separated (a :: rest) (before ++ (text ++ (after ++ comma :: texts)))

/-- What stands between two brackets. -/
inductive Listing : List α → Bytes → Prop
  | none {blank : Bytes} (h : Blank blank) : Listing [] blank
  | some {all : List α} {body : Bytes} (h : Separated R all body) : Listing all body

/-- A name between quotes, a colon and a text. -/
inductive Named : Bytes × α → Bytes → Prop
  | mk {name : Bytes} {a : α} {key afterKey beforeText text : Bytes} (hkey : Spells name key)
      (hafterKey : Blank afterKey) (hbeforeText : Blank beforeText) (h : R a text) :
      Named (name, a) (quote :: (key ++ quote :: (afterKey ++ colon :: (beforeText ++ text))))

end

/-! ## Trees -/

/-- A JSON value. A number and the words `true`, `false` and `null` stand as they are
spelled, the members of an object in the order in which they are written. -/
inductive Tree
  | word (text : Bytes)
  | string (value : Bytes)
  | array (items : List Tree)
  | object (members : List (Bytes × Tree))

namespace Tree

/-- A number, or one of the three words. -/
def WordText (text : Bytes) : Prop :=
  text ∈ [bytes "true", bytes "false", bytes "null"] ∨ NumberText text

/-- The texts of a tree. -/
inductive Text : Tree → Bytes → Prop
  | word {text : Bytes} (h : WordText text) : Text (.word text) text
  | string {value body : Bytes} (h : Spells value body) :
      Text (.string value) (quote :: (body ++ [quote]))
  | array {items : List Tree} {body : Bytes} (h : Listing Text items body) :
      Text (.array items) (openBracket :: (body ++ [closeBracket]))
  | object {members : List (Bytes × Tree)} {body : Bytes} (h : Listing (Named Text) members body) :
      Text (.object members) (openBrace :: (body ++ [closeBrace]))

end Tree

/-! ## Where a text ends -/

/-- The bytes of numbers and words. -/
def isWordByte (c : UInt8) : Bool := isDigit c || inNumber c || (0x61 ≤ c && c ≤ 0x7A)

/-- The first byte of `text`, if it has one, is not of this kind. -/
def Stops (p : UInt8 → Bool) (text : Bytes) : Prop := ∀ c, text.head? = some c → p c = false

/-- A run of bytes of a kind ends where the first byte of another kind is. -/
theorem run_unique {p : UInt8 → Bool} {v w r s : Bytes} (hv : ∀ c ∈ v, p c = true)
    (hw : ∀ c ∈ w, p c = true) (hr : Stops p r) (hs : Stops p s) (h : v ++ r = w ++ s) :
    v = w ∧ r = s := by
  induction v generalizing w with
  | nil =>
      cases w with
      | nil => exact ⟨rfl, h⟩
      | cons c w =>
          have hc := hr c (by rw [show r = c :: (w ++ s) from h]; rfl)
          rw [hw c List.mem_cons_self] at hc
          contradiction
  | cons c v ih =>
      cases w with
      | nil =>
          have hc := hs c (by rw [show s = c :: (v ++ r) from h.symm]; rfl)
          rw [hv c List.mem_cons_self] at hc
          contradiction
      | cons d w =>
          obtain ⟨rfl, htail⟩ := List.cons.inj h
          obtain ⟨rfl, hrest⟩ := ih (fun c hc => hv c (List.mem_cons_of_mem _ hc))
            (fun c hc => hw c (List.mem_cons_of_mem _ hc)) htail
          exact ⟨rfl, hrest⟩

private theorem isPlain_ne {c : UInt8} (hc : isPlain c = true) : c ≠ quote ∧ c ≠ backslash := by
  simp only [isPlain, Bool.and_eq_true, decide_eq_true_eq] at hc
  exact ⟨hc.1.2, hc.2⟩

private theorem short_ne {c d : UInt8} (h : (d, c) ∈ shortEscapes) : d ≠ 0x75 := by
  rintro rfl
  simp [shortEscapes] at h

/-- A letter stands for one byte. -/
private theorem short_unique {c d e : UInt8} (hc : (e, c) ∈ shortEscapes)
    (hd : (e, d) ∈ shortEscapes) : c = d := by
  have hnodup : (shortEscapes.map Prod.fst).Nodup := by simp [shortEscapes]
  have hsame := List.inj_on_of_nodup_map hnodup hc hd rfl
  exact (Prod.mk.inj hsame).2

/-- A character is no half of a pair. -/
private theorem isHigh_char (character : Char) : isHigh character.toNat = false := by
  have hvalid : character.toNat < 0xD800 ∨ 0xDFFF < character.toNat ∧ character.toNat < 0x110000 :=
    character.valid
  simp only [isHigh, Bool.and_eq_false_iff, decide_eq_false_iff_not]
  omega

/-- A string ends with the first quote that is no part of an escape. -/
theorem Spells.unique {a b v w r s : Bytes} (hv : Spells a v) (hw : Spells b w)
    (h : v ++ quote :: r = w ++ quote :: s) : a = b ∧ v = w ∧ r = s := by
  induction hv generalizing b w with
  | nil =>
      cases hw with
      | nil => exact ⟨rfl, rfl, (List.cons.inj h).2⟩
      | plain hc => exact absurd (List.cons.inj h).1.symm (isPlain_ne hc).1
      | short => exact absurd (List.cons.inj h).1 (by decide)
      | code => exact absurd (List.cons.inj h).1 (by decide)
      | pair => exact absurd (List.cons.inj h).1 (by decide)
  | plain hc _ ih =>
      cases hw with
      | nil => exact absurd (List.cons.inj h).1 (isPlain_ne hc).1
      | plain _ hw =>
          obtain ⟨rfl, hrest⟩ := List.cons.inj h
          obtain ⟨rfl, rfl, rfl⟩ := ih hw hrest
          exact ⟨rfl, rfl, rfl⟩
      | short => exact absurd (List.cons.inj h).1 (isPlain_ne hc).2
      | code => exact absurd (List.cons.inj h).1 (isPlain_ne hc).2
      | pair => exact absurd (List.cons.inj h).1 (isPlain_ne hc).2
  | short he _ ih =>
      cases hw with
      | nil => exact absurd (List.cons.inj h).1 (by decide)
      | plain hc => exact absurd (List.cons.inj h).1.symm (isPlain_ne hc).2
      | short he' hw =>
          obtain ⟨rfl, hrest⟩ := List.cons.inj (List.cons.inj h).2
          obtain ⟨rfl, rfl, rfl⟩ := ih hw hrest
          obtain rfl := short_unique he he'
          exact ⟨rfl, rfl, rfl⟩
      | code => exact absurd (List.cons.inj (List.cons.inj h).2).1 (short_ne he)
      | pair => exact absurd (List.cons.inj (List.cons.inj h).2).1 (short_ne he)
  | code hhex _ ih =>
      cases hw with
      | nil => exact absurd (List.cons.inj h).1 (by decide)
      | plain hc => exact absurd (List.cons.inj h).1.symm (isPlain_ne hc).2
      | short he => exact absurd (List.cons.inj (List.cons.inj h).2).1.symm (short_ne he)
      | code hhex' hw =>
          simp only [List.cons_append, List.cons.injEq, true_and] at h
          obtain ⟨rfl, rfl, rfl, rfl, hrest⟩ := h
          obtain ⟨rfl, rfl, rfl⟩ := ih hw hrest
          have hsame := Char.toNat_inj.mp (Option.some.inj (hhex.symm.trans hhex'))
          exact ⟨by rw [hsame], rfl, rfl⟩
      | pair hhigh _ hranges =>
          simp only [List.cons_append, List.cons.injEq, true_and] at h
          obtain ⟨rfl, rfl, rfl, rfl, -⟩ := h
          obtain rfl := Option.some.inj (hhex.symm.trans hhigh)
          rw [isHigh_char, Bool.false_and] at hranges
          contradiction
  | pair hhigh hlow hranges hcharacter _ ih =>
      cases hw with
      | nil => exact absurd (List.cons.inj h).1 (by decide)
      | plain hc => exact absurd (List.cons.inj h).1.symm (isPlain_ne hc).2
      | short he => exact absurd (List.cons.inj (List.cons.inj h).2).1.symm (short_ne he)
      | code hhex' =>
          simp only [List.cons_append, List.cons.injEq, true_and] at h
          obtain ⟨rfl, rfl, rfl, rfl, -⟩ := h
          obtain rfl := Option.some.inj (hhex'.symm.trans hhigh)
          rw [isHigh_char, Bool.false_and] at hranges
          contradiction
      | pair hhigh' hlow' _ hcharacter' hw =>
          simp only [List.cons_append, List.cons.injEq, true_and] at h
          obtain ⟨rfl, rfl, rfl, rfl, rfl, rfl, rfl, rfl, hrest⟩ := h
          obtain ⟨rfl, rfl, rfl⟩ := ih hw hrest
          obtain rfl := Option.some.inj (hhigh.symm.trans hhigh')
          obtain rfl := Option.some.inj (hlow.symm.trans hlow')
          have hsame := Char.toNat_inj.mp (hcharacter.trans hcharacter'.symm)
          exact ⟨by rw [hsame], rfl, rfl⟩

/-! ## One tree -/

/-- No two texts of at most `n` bytes, and of different values, are ever taken for one
another by a reader who stops where `Follow` allows. -/
def Unambiguous {α : Type} (n : Nat) (Follow : Bytes → Prop) (R : α → Bytes → Prop) : Prop :=
  ∀ {a b : α} {v w r s : Bytes}, R a v → R b w → v.length ≤ n → Follow r → Follow s →
    v ++ r = w ++ s → a = b ∧ v = w ∧ r = s

/-- What follows a value: nothing that goes on with a number or a word. -/
abbrev Ends : Bytes → Prop := Stops isWordByte

/-- What follows a listing. -/
def Closes (text : Bytes) : Prop :=
  ∃ c rest, text = c :: rest ∧ (c = closeBracket ∨ c = closeBrace)

/-- A text that begins with none of the bytes that stand between texts. -/
def Begins (text : Bytes) : Prop :=
  ∃ c rest, text = c :: rest ∧ isSpace c = false ∧ c ≠ closeBracket ∧ c ≠ closeBrace

theorem Begins.stops {text : Bytes} (h : Begins text) (rest : Bytes) :
    Stops isSpace (text ++ rest) := by
  obtain ⟨c, later, rfl, hc, -⟩ := h
  intro d hd
  obtain rfl := Option.some.inj hd
  exact hc

private theorem stops_cons {p : UInt8 → Bool} {c : UInt8} (hc : p c = false) (rest : Bytes) :
    Stops p (c :: rest) := by
  intro d hd
  obtain rfl := Option.some.inj hd
  exact hc

/-- Blanks and a byte that is no part of a value. -/
private theorem ends_blank {after : Bytes} (hafter : Blank after) {rest : Bytes}
    (hrest : Ends rest) : Ends (after ++ rest) := by
  cases after with
  | nil => exact hrest
  | cons c after =>
      have hspace := hafter c List.mem_cons_self
      refine stops_cons ?_ _
      simp only [isSpace, Bool.or_eq_true, decide_eq_true_eq, or_assoc] at hspace
      rcases hspace with rfl | rfl | rfl | rfl <;> decide

private theorem Closes.ends {text : Bytes} (h : Closes text) : Ends text := by
  obtain ⟨c, rest, rfl, rfl | rfl⟩ := h
  · exact stops_cons (by decide) rest
  · exact stops_cons (by decide) rest

private theorem Closes.stops {text : Bytes} (h : Closes text) : Stops isSpace text := by
  obtain ⟨c, rest, rfl, rfl | rfl⟩ := h
  · exact stops_cons (by decide) rest
  · exact stops_cons (by decide) rest

section
variable {α : Type} {R : α → Bytes → Prop} {n : Nat}

/-- A text of `R`, with blanks around it, before the end of a value. -/
private theorem padded_unique (hbegins : ∀ {a text}, R a text → Begins text)
    (hR : Unambiguous n Ends R) {a b : α} {before v after before' w after' r s : Bytes}
    (hbefore : Blank before) (hv : R a v) (hafter : Blank after) (hbefore' : Blank before')
    (hw : R b w) (hafter' : Blank after') (hlength : v.length ≤ n) (hr : Ends r) (hs : Ends s)
    (hr' : Stops isSpace r) (hs' : Stops isSpace s)
    (h : before ++ (v ++ (after ++ r)) = before' ++ (w ++ (after' ++ s))) :
    a = b ∧ before = before' ∧ v = w ∧ after = after' ∧ r = s := by
  obtain ⟨rfl, hvalue⟩ :=
    run_unique hbefore hbefore' ((hbegins hv).stops _) ((hbegins hw).stops _) h
  obtain ⟨rfl, rfl, hrest⟩ :=
    hR hv hw hlength (ends_blank hafter hr) (ends_blank hafter' hs) hvalue
  obtain ⟨rfl, rfl⟩ := run_unique hafter hafter' hr' hs' hrest
  exact ⟨rfl, rfl, rfl, rfl, rfl⟩

private theorem comma_stops (rest : Bytes) :
    Ends (comma :: rest) ∧ Stops isSpace (comma :: rest) :=
  ⟨stops_cons (by decide) rest, stops_cons (by decide) rest⟩

/-- After a text comes a comma, or what closes the listing, and never both. -/
private theorem not_closes_comma {rest : Bytes} : ¬Closes (comma :: rest) := by
  rintro ⟨c, later, hc, rfl | rfl⟩
  · exact absurd (List.cons.inj hc).1 (by decide)
  · exact absurd (List.cons.inj hc).1 (by decide)

theorem Separated.unambiguous (hbegins : ∀ {a text}, R a text → Begins text)
    (hR : Unambiguous n Ends R) : Unambiguous n Closes (Separated R) := by
  intro all all' v w r s hv hw hlength hr hs h
  induction hv generalizing all' w with
  | one hbefore ha hafter =>
      simp only [List.length_append] at hlength
      cases hw with
      | one hbefore' hb hafter' =>
          simp only [List.append_assoc] at h
          obtain ⟨rfl, rfl, rfl, rfl, rfl⟩ := padded_unique hbegins hR hbefore ha hafter hbefore'
            hb hafter' (by omega) hr.ends hs.ends hr.stops hs.stops h
          exact ⟨rfl, rfl, rfl⟩
      | @more _ _ _ _ _ texts hbefore' hb hafter' _ =>
          simp only [List.append_assoc, List.cons_append] at h
          obtain ⟨hends, hstops⟩ := comma_stops (texts ++ s)
          obtain ⟨-, -, -, -, rfl⟩ := padded_unique hbegins hR hbefore ha hafter hbefore' hb
            hafter' (by omega) hr.ends hends hr.stops hstops h
          exact absurd hr not_closes_comma
  | @more _ _ _ _ _ texts hbefore ha hafter _ ih =>
      simp only [List.length_append, List.length_cons] at hlength
      obtain ⟨hends, hstops⟩ := comma_stops (texts ++ r)
      cases hw with
      | one hbefore' hb hafter' =>
          simp only [List.append_assoc, List.cons_append] at h
          obtain ⟨-, -, -, -, rfl⟩ := padded_unique hbegins hR hbefore ha hafter hbefore' hb
            hafter' (by omega) hends hs.ends hstops hs.stops h
          exact absurd hs not_closes_comma
      | @more _ _ _ _ _ texts' hbefore' hb hafter' hrest =>
          obtain ⟨hends', hstops'⟩ := comma_stops (texts' ++ s)
          simp only [List.append_assoc, List.cons_append] at h
          obtain ⟨rfl, rfl, rfl, rfl, hlater⟩ := padded_unique hbegins hR hbefore ha hafter
            hbefore' hb hafter' (by omega) hends hends' hstops hstops' h
          obtain ⟨rfl, rfl, rfl⟩ := ih hrest (by omega) (List.cons.inj hlater).2
          exact ⟨rfl, rfl, rfl⟩

/-- A listing that is not empty begins with its first text. -/
private theorem Separated.begins (hbegins : ∀ {a text}, R a text → Begins text) {all : List α}
    {body : Bytes} (h : Separated R all body) :
    ∃ before later, Blank before ∧ Begins later ∧ body = before ++ later := by
  have hmore {text : Bytes} (h : Begins text) (rest : Bytes) : Begins (text ++ rest) := by
    obtain ⟨c, later, rfl, hc⟩ := h
    exact ⟨c, later ++ rest, rfl, hc⟩
  cases h with
  | one hbefore h => exact ⟨_, _, hbefore, hmore (hbegins h) _, rfl⟩
  | more hbefore h => exact ⟨_, _, hbefore, hmore (hbegins h) _, rfl⟩

/-- What closes a listing is no first text of it. -/
private theorem not_empty_and_filled (hbegins : ∀ {a text}, R a text → Begins text)
    {all : List α} {blank body r s : Bytes} (hblank : Blank blank) (hbody : Separated R all body)
    (hr : Closes r) : blank ++ r ≠ body ++ s := by
  intro h
  obtain ⟨before, later, hbefore, hlater, rfl⟩ := hbody.begins hbegins
  rw [List.append_assoc] at h
  obtain ⟨-, rfl⟩ := run_unique hblank hbefore hr.stops (hlater.stops s) h
  obtain ⟨c, rest, rfl, -, hbracket, hbrace⟩ := hlater
  obtain ⟨d, rest', heq, hd⟩ := hr
  obtain ⟨rfl, -⟩ := List.cons.inj heq
  exact hd.elim hbracket hbrace

theorem Listing.unambiguous (hbegins : ∀ {a text}, R a text → Begins text)
    (hR : Unambiguous n Ends R) : Unambiguous n Closes (Listing R) := by
  intro all all' v w r s hv hw hlength hr hs h
  cases hv with
  | none hblank =>
      cases hw with
      | none hblank' =>
          obtain ⟨rfl, rfl⟩ := run_unique hblank hblank' hr.stops hs.stops h
          exact ⟨rfl, rfl, rfl⟩
      | some hbody => exact absurd h (not_empty_and_filled hbegins hblank hbody hr)
  | some hbody =>
      cases hw with
      | none hblank => exact absurd h.symm (not_empty_and_filled hbegins hblank hbody hs)
      | some hbody' => exact Separated.unambiguous hbegins hR hbody hbody' hlength hr hs h

theorem Named.begins {a : Bytes × α} {text : Bytes} (h : Named R a text) : Begins text := by
  cases h with
  | mk => exact ⟨quote, _, rfl, by decide, by decide, by decide⟩

theorem Named.unambiguous (hbegins : ∀ {a text}, R a text → Begins text)
    (hR : Unambiguous n Ends R) : Unambiguous n Ends (Named R) := by
  intro a b v w r s hv hw hlength hr hs h
  cases hv with
  | mk hkey hafterKey hbeforeText ha =>
      cases hw with
      | mk hkey' hafterKey' hbeforeText' hb =>
          simp only [List.cons_append, List.append_assoc, List.cons.injEq, true_and] at h
          simp only [List.length_cons, List.length_append] at hlength
          have hcolon (rest : Bytes) : Stops isSpace (colon :: rest) := stops_cons (by decide) rest
          obtain ⟨rfl, rfl, hafter⟩ := hkey.unique hkey' h
          obtain ⟨rfl, hvalue⟩ := run_unique hafterKey hafterKey' (hcolon _) (hcolon _) hafter
          obtain ⟨rfl, htext⟩ := run_unique hbeforeText hbeforeText' ((hbegins ha).stops r)
            ((hbegins hb).stops s) (List.cons.inj hvalue).2
          obtain ⟨rfl, rfl, rfl⟩ := hR ha hb (by omega) hr hs htext
          exact ⟨rfl, rfl, rfl⟩

end

namespace Tree

/-! ### Of texts of trees -/

private theorem word_bytes {text : Bytes} (h : WordText text) :
    text ≠ [] ∧ ∀ c ∈ text, isWordByte c = true := by
  have hdigit {c : UInt8} (hc : isDigit c = true) : isWordByte c = true := by
    simp only [isWordByte, hc, Bool.true_or]
  rcases h with hword | ⟨sign, integer, fraction, exponent, hsign, hinteger, hfraction, hexponent,
    rfl⟩
  · simp only [List.mem_cons, List.not_mem_nil, or_false] at hword
    rcases hword with rfl | rfl | rfl
    · decide +kernel
    · decide +kernel
    · decide +kernel
  · obtain ⟨⟨hne, hdigits⟩, -⟩ := hinteger
    refine ⟨by simp [hne], fun c hc => ?_⟩
    simp only [List.mem_append] at hc
    rcases hc with hc | hc | hc | hc
    · simp only [List.mem_cons, List.not_mem_nil, or_false] at hsign
      rcases hsign with rfl | rfl
      · exact absurd hc List.not_mem_nil
      · obtain rfl := List.mem_singleton.mp hc
        decide
    · exact hdigit (hdigits c hc)
    · rcases hfraction with rfl | ⟨digits, ⟨-, hdigits⟩, rfl⟩
      · exact absurd hc List.not_mem_nil
      · rcases List.mem_cons.mp hc with rfl | hc
        · decide
        · exact hdigit (hdigits c hc)
    · rcases hexponent with rfl | ⟨e, sign, digits, he, hsign, ⟨-, hdigits⟩, rfl⟩
      · exact absurd hc List.not_mem_nil
      · simp only [List.mem_cons, List.mem_append] at hc
        rcases hc with rfl | hc | hc
        · rcases he with rfl | rfl <;> decide
        · simp only [List.mem_cons, List.not_mem_nil, or_false] at hsign
          rcases hsign with rfl | rfl | rfl
          · exact absurd hc List.not_mem_nil
          · obtain rfl := List.mem_singleton.mp hc
            decide
          · obtain rfl := List.mem_singleton.mp hc
            decide
        · exact hdigit (hdigits c hc)

/-- Which kind of tree a text is of, its first byte tells. -/
inductive Kind
  | word
  | string
  | array
  | object
  deriving DecidableEq

def kind : Tree → Kind
  | .word _ => .word
  | .string _ => .string
  | .array _ => .array
  | .object _ => .object

def kindOf (c : UInt8) : Kind :=
  if c = quote then .string
  else if c = openBracket then .array
  else if c = openBrace then .object
  else .word

private theorem word_facts {c : UInt8} (hc : isWordByte c = true) :
    kindOf c = .word ∧ isSpace c = false ∧ c ≠ closeBracket ∧ c ≠ closeBrace := by
  have hne {d : UInt8} (hd : isWordByte d = false) : c ≠ d := by
    rintro rfl
    rw [hc] at hd
    contradiction
  refine ⟨?_, ?_, hne (by decide), hne (by decide)⟩
  · rw [kindOf, if_neg (hne (by decide)), if_neg (hne (by decide)), if_neg (hne (by decide))]
  · simp only [isSpace, Bool.or_eq_false_iff, decide_eq_false_iff_not]
    exact ⟨⟨⟨hne (by decide), hne (by decide)⟩, hne (by decide)⟩, hne (by decide)⟩

theorem Text.first {t : Tree} {text : Bytes} (h : Text t text) :
    ∃ c rest, text = c :: rest ∧ kindOf c = t.kind ∧ isSpace c = false ∧ c ≠ closeBracket ∧
      c ≠ closeBrace := by
  cases h with
  | word h =>
      obtain ⟨hne, hbytes⟩ := word_bytes h
      obtain ⟨c, rest, rfl⟩ := List.exists_cons_of_ne_nil hne
      exact ⟨c, rest, rfl, word_facts (hbytes c List.mem_cons_self)⟩
  | string => exact ⟨quote, _, rfl, rfl, by decide, by decide, by decide⟩
  | array => exact ⟨openBracket, _, rfl, rfl, by decide, by decide, by decide⟩
  | object => exact ⟨openBrace, _, rfl, rfl, by decide, by decide, by decide⟩

theorem Text.begins {t : Tree} {text : Bytes} (h : Text t text) : Begins text := by
  obtain ⟨c, rest, htext, -, hc⟩ := h.first
  exact ⟨c, rest, htext, hc⟩

private theorem kind_eq {t u : Tree} {v w r s : Bytes} (hv : Text t v) (hw : Text u w)
    (h : v ++ r = w ++ s) : t.kind = u.kind := by
  obtain ⟨c, rest, rfl, hc, -⟩ := hv.first
  obtain ⟨d, rest', rfl, hd, -⟩ := hw.first
  obtain ⟨rfl, -⟩ := List.cons.inj h
  exact hc.symm.trans hd

/-- **The grammar is unambiguous.** -/
theorem unambiguous (n : Nat) : Unambiguous n Ends Text := by
  induction n with
  | zero =>
      intro t u v w r s hv _ hlength
      obtain ⟨c, rest, rfl, -⟩ := hv.first
      exact absurd hlength (by simp)
  | succ n ih =>
      intro t u v w r s hv hw hlength hr hs h
      have hkind := kind_eq hv hw h
      cases hv with
      | word hv =>
          cases hw with
          | word hw =>
              obtain ⟨rfl, rfl⟩ := run_unique (word_bytes hv).2 (word_bytes hw).2 hr hs h
              exact ⟨rfl, rfl, rfl⟩
          | _ => cases hkind
      | string hv =>
          cases hw with
          | string hw =>
              simp only [List.cons_append, List.append_assoc, List.nil_append, List.cons.injEq,
                true_and] at h
              obtain ⟨rfl, rfl, rfl⟩ := hv.unique hw h
              exact ⟨rfl, rfl, rfl⟩
          | _ => cases hkind
      | array hv =>
          cases hw with
          | array hw =>
              simp only [List.cons_append, List.append_assoc, List.nil_append, List.cons.injEq,
                true_and] at h
              simp only [List.length_cons, List.length_append] at hlength
              obtain ⟨rfl, rfl, hrest⟩ := Listing.unambiguous Text.begins ih hv hw (by omega)
                ⟨_, _, rfl, .inl rfl⟩ ⟨_, _, rfl, .inl rfl⟩ h
              exact ⟨rfl, rfl, (List.cons.inj hrest).2⟩
          | _ => cases hkind
      | object hv =>
          cases hw with
          | object hw =>
              simp only [List.cons_append, List.append_assoc, List.nil_append, List.cons.injEq,
                true_and] at h
              simp only [List.length_cons, List.length_append] at hlength
              obtain ⟨rfl, rfl, hrest⟩ := Listing.unambiguous Named.begins
                (Named.unambiguous Text.begins ih) hv hw (by omega) ⟨_, _, rfl, .inr rfl⟩
                ⟨_, _, rfl, .inr rfl⟩ h
              exact ⟨rfl, rfl, (List.cons.inj hrest).2⟩
          | _ => cases hkind

/-- A document: a value with blanks around it. -/
inductive Document (t : Tree) : Bytes → Prop
  | mk {before text after : Bytes} (hbefore : Blank before) (h : Text t text)
      (hafter : Blank after) : Document t (before ++ (text ++ after))

/-- **A document is read in one way.** -/
theorem Document.unique {t u : Tree} {text : Bytes} (ht : Document t text)
    (hu : Document u text) : t = u := by
  have hnothing (p : UInt8 → Bool) : Stops p [] := fun c hc => absurd hc (by simp)
  obtain ⟨hbefore, hv, hafter⟩ := ht
  rename_i before v after
  generalize hsame : before ++ (v ++ after) = text at hu
  obtain ⟨hbefore', hw, hafter'⟩ := hu
  rename_i before' w after'
  obtain ⟨htree, -⟩ := padded_unique (r := []) (s := []) Text.begins (unambiguous v.length) hbefore
    hv hafter hbefore' hw hafter' le_rfl (hnothing _) (hnothing _) (hnothing _) (hnothing _)
    (by simpa only [List.append_nil] using hsame)
  exact htree

end Tree
end Base.Json
