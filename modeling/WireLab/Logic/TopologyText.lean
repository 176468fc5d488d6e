import WireLab.Model.SessionDetail
import WireLab.Model.TopologyYaml
import WireLab.Base.JsonText

/-!
# The text of a topology file

What the reader's text helpers do to the text the writer makes. A helper only
takes bytes away (`mem_withoutCommentFrom`, `mem_trim`, `mem_splitField`,
`mem_splitPieces`), so a byte that a text lacks is in no value read from it. An
escaped text stands between its quotes (`withoutCommentFrom_escaped`), whatever
it spells.
-/

namespace WireLab

open Base SessionDetail

/-! ## Pieces -/

/-- The pieces of a text have the text's bytes, and no separator. -/
theorem mem_splitPieces {separator c : UInt8} {text piece : Bytes}
    (hpiece : piece ∈ splitPieces separator text) (hc : c ∈ piece) :
    c ∈ text ∧ c ≠ separator := by
  induction text generalizing piece with
  | nil => simp [splitPieces] at hpiece
  | cons b rest ih =>
      unfold splitPieces at hpiece
      split at hpiece
      · rcases List.mem_cons.mp hpiece with rfl | htail
        · simp at hc
        · exact ⟨List.mem_cons_of_mem _ (ih htail hc).1, (ih htail hc).2⟩
      · next hb =>
          split at hpiece
          · obtain rfl := List.mem_singleton.mp hpiece
            obtain rfl := List.mem_singleton.mp hc
            exact ⟨List.mem_cons_self, hb⟩
          · next first others hrest =>
              rcases List.mem_cons.mp hpiece with rfl | htail
              · rcases List.mem_cons.mp hc with rfl | hmem
                · exact ⟨List.mem_cons_self, hb⟩
                · have := ih (hrest ▸ List.mem_cons_self) hmem
                  exact ⟨List.mem_cons_of_mem _ this.1, this.2⟩
              · have := ih (hrest ▸ List.mem_cons_of_mem _ htail) hc
                exact ⟨List.mem_cons_of_mem _ this.1, this.2⟩

/-- A piece ends at the first separator. -/
theorem splitPieces_append {separator : UInt8} {piece : Bytes} (h : separator ∉ piece)
    (rest : Bytes) :
    splitPieces separator (piece ++ separator :: rest) = piece :: splitPieces separator rest := by
  induction piece with
  | nil => simp [splitPieces]
  | cons c piece ih =>
      have hc : c ≠ separator := fun heq => h (heq ▸ List.mem_cons_self)
      have hrest : separator ∉ piece := fun hmem => h (List.mem_cons_of_mem _ hmem)
      rw [List.cons_append, splitPieces, if_neg hc, ih hrest]

/-- The last piece needs no separator behind it. -/
theorem splitPieces_last {separator : UInt8} {piece : Bytes} (h : separator ∉ piece)
    (hne : piece ≠ []) : splitPieces separator piece = [piece] := by
  induction piece with
  | nil => exact absurd rfl hne
  | cons c piece ih =>
      have hc : c ≠ separator := fun heq => h (heq ▸ List.mem_cons_self)
      have hrest : separator ∉ piece := fun hmem => h (List.mem_cons_of_mem _ hmem)
      rw [splitPieces, if_neg hc]
      rcases eq_or_ne piece [] with rfl | hpiece
      · rfl
      · rw [ih hrest hpiece]

/-- Lines that are written one below the other are read back. -/
theorem splitPieces_lines {separator : UInt8} {lines : List Bytes}
    (h : ∀ line ∈ lines, separator ∉ line) :
    splitPieces separator (lines.flatMap (· ++ [separator])) = lines := by
  induction lines with
  | nil => rfl
  | cons line lines ih =>
      rw [List.flatMap_cons, List.append_assoc, List.singleton_append,
        splitPieces_append (h _ List.mem_cons_self),
        ih fun line hmem => h line (List.mem_cons_of_mem _ hmem)]

/-! ## Escapes -/

/-- A text that is its own escaped form: nothing in it is escaped. -/
theorem flatMap_yamlEscape_eq_self {text : Bytes} :
    text.flatMap yamlEscape = text ↔ ∀ c ∈ text, c ≠ 0x5C ∧ c ≠ 0x22 := by
  have hlonger : ∀ text : Bytes, text.length ≤ (text.flatMap yamlEscape).length := by
    intro text
    induction text with
    | nil => simp
    | cons c text ih =>
        rw [List.flatMap_cons, List.length_append, List.length_cons]
        have : 1 ≤ (yamlEscape c).length := by
          rw [yamlEscape]
          split <;> simp
        omega
  induction text with
  | nil => simp
  | cons c text ih =>
      rw [List.flatMap_cons, List.forall_mem_cons]
      by_cases hc : c = 0x5C ∨ c = 0x22
      · refine iff_of_false (fun heq => ?_) fun h => hc.elim h.1.1 h.1.2
        have hlength := congrArg List.length heq
        rw [yamlEscape, if_pos hc, List.length_append, List.length_cons, List.length_cons] at hlength
        have := hlonger text
        simp only [List.length_nil, List.length_cons] at hlength
        omega
      · rw [yamlEscape, if_neg hc, List.singleton_append]
        have hrest := (List.cons_inj_right c).trans ih
        exact hrest.trans ⟨fun h => ⟨not_or.mp hc, h⟩, fun h => h.2⟩

/-- Escaping adds nothing but backslashes. -/
theorem notMem_flatMap_yamlEscape {c : UInt8} {text : Bytes} (hc : c ≠ 0x5C) (h : c ∉ text) :
    c ∉ text.flatMap yamlEscape := by
  intro hmem
  obtain ⟨d, hd, hcd⟩ := List.mem_flatMap.mp hmem
  rw [yamlEscape] at hcd
  split at hcd
  · rcases List.mem_cons.mp hcd with rfl | hrest
    · exact hc rfl
    · exact h (List.mem_singleton.mp hrest ▸ hd)
  · exact h (List.mem_singleton.mp hcd ▸ hd)

theorem notMem_yamlQuote {c : UInt8} {text : Bytes} (hback : c ≠ 0x5C) (hquote : c ≠ 0x22)
    (h : c ∉ text) : c ∉ yamlQuote text := by
  simp only [yamlQuote, List.cons_append, List.mem_cons, List.mem_append, List.not_mem_nil,
    or_false, hquote, false_or]
  exact notMem_flatMap_yamlEscape hback h

/-- A latency is digits, and a sign in front of a negative one. -/
theorem notMem_jsonInt {c : UInt8} (hdigit : isDigit c = false) (hminus : c ≠ 0x2D) (value : Int) :
    c ∉ jsonInt value := by
  have hdecimal : ∀ n, c ∉ decimal n := fun n hmem => by
    rw [isDigit_of_mem_decimal hmem] at hdigit
    cases hdigit
  unfold jsonInt
  split
  · simp [hminus, hdecimal]
  · exact hdecimal _

/-! ## Comments -/

theorem mem_withoutCommentFrom {line : Bytes} {quote previous : Option UInt8} {c : UInt8}
    (h : c ∈ withoutCommentFrom line quote previous) : c ∈ line := by
  induction line generalizing quote previous with
  | nil => simp [withoutCommentFrom] at h
  | cons b rest ih =>
      unfold withoutCommentFrom at h
      split at h
      · rcases List.mem_cons.mp h with rfl | htail
        · exact List.mem_cons_self
        · exact List.mem_cons_of_mem _ (ih htail)
      · split at h
        · simp at h
        · rcases List.mem_cons.mp h with rfl | htail
          · exact List.mem_cons_self
          · exact List.mem_cons_of_mem _ (ih htail)

/-- Without a `#` nothing is a comment. -/
theorem withoutCommentFrom_noHash {line : Bytes} (h : 0x23 ∉ line) (quote previous : Option UInt8) :
    withoutCommentFrom line quote previous = line := by
  induction line generalizing quote previous with
  | nil => rfl
  | cons c rest ih =>
      have hc : c ≠ 0x23 := fun heq => h (heq ▸ List.mem_cons_self)
      have hrest : 0x23 ∉ rest := fun hmem => h (List.mem_cons_of_mem _ hmem)
      simp only [withoutCommentFrom, ih hrest, hc, decide_false, Bool.false_and, Bool.false_eq_true,
        if_false, ite_self]

/-- Text with neither quotes nor `#` stands as it is, and opens no quote. -/
theorem withoutCommentFrom_plain (text : Bytes) (h : ∀ c ∈ text, isQuote c = false ∧ c ≠ 0x23)
    (rest : Bytes) (quote previous : Option UInt8) :
    withoutCommentFrom (text ++ rest) quote previous =
      text ++ withoutCommentFrom rest quote (text.getLast?.or previous) := by
  induction text generalizing previous with
  | nil => simp
  | cons c text ih =>
      obtain ⟨hquote, hhash⟩ := h c List.mem_cons_self
      have hstep : withoutCommentFrom (c :: (text ++ rest)) quote previous =
          c :: withoutCommentFrom (text ++ rest) quote (some c) := by
        simp [withoutCommentFrom, hquote, hhash]
      rw [List.cons_append, hstep, ih fun c hmem => h c (List.mem_cons_of_mem _ hmem),
        List.getLast?_cons]
      cases text.getLast? <;> rfl

/-- Between double quotes an escaped text stands as it is, and closes no quote:
each double quote in it comes behind a backslash. -/
theorem withoutCommentFrom_escaped (text rest : Bytes) (previous : Option UInt8) :
    ∃ last, withoutCommentFrom (text.flatMap yamlEscape ++ rest) (some 0x22) previous =
      text.flatMap yamlEscape ++ withoutCommentFrom rest (some 0x22) last := by
  induction text generalizing previous with
  | nil => exact ⟨previous, rfl⟩
  | cons c text ih =>
      rw [List.flatMap_cons, List.append_assoc]
      by_cases hc : c = 0x5C ∨ c = 0x22
      · -- The backslash in front keeps the byte from being read as a quote.
        obtain ⟨last, hlast⟩ := ih (some c)
        have hback : isQuote 0x5C = false := rfl
        refine ⟨last, ?_⟩
        rw [yamlEscape, if_pos hc, List.cons_append, List.singleton_append, withoutCommentFrom]
        simp only [hback, Bool.false_and, Bool.false_eq_true, if_false, Option.isNone_some,
          Bool.and_false]
        rw [withoutCommentFrom]
        simp only [ne_eq, not_true_eq_false, decide_false, Bool.and_false, Bool.false_eq_true,
          if_false, Option.isNone_some]
        rw [hlast]
        rfl
      · obtain ⟨last, hlast⟩ := ih (some c)
        have hquote : c ≠ 0x22 := fun heq => hc (.inr heq)
        refine ⟨last, ?_⟩
        rw [yamlEscape, if_neg hc, List.singleton_append, withoutCommentFrom]
        simp only [Option.isNone_some, Bool.and_false, Bool.false_eq_true, if_false,
          Ne.symm hquote, hlast]
        split <;> rfl

/-- A quoted text stands as it is, and what follows has no `#`. -/
theorem withoutCommentFrom_yamlQuote (text rest : Bytes) (hrest : 0x23 ∉ rest)
    {previous : Option UInt8} (hprevious : previous ≠ some 0x5C) :
    withoutCommentFrom (yamlQuote text ++ rest) none previous = yamlQuote text ++ rest := by
  have hquote : isQuote 0x22 = true := rfl
  have htail : 0x23 ∉ 0x22 :: rest := by simpa using hrest
  obtain ⟨last, hlast⟩ := withoutCommentFrom_escaped text (0x22 :: rest) (some 0x22)
  have hsplit : yamlQuote text ++ rest = 0x22 :: (text.flatMap yamlEscape ++ 0x22 :: rest) := by
    simp [yamlQuote]
  rw [withoutCommentFrom_noHash htail] at hlast
  rw [hsplit]
  simp [withoutCommentFrom, hquote, hprevious, hlast]

/-- A text without quotes and backslashes ends at the quote behind it. -/
theorem withoutCommentFrom_quoted {text : Bytes} (h : ∀ c ∈ text, c ≠ 0x5C ∧ c ≠ 0x22)
    (rest : Bytes) {previous : Option UInt8} (hprevious : previous ≠ some 0x5C) :
    withoutCommentFrom (text ++ 0x22 :: rest) (some 0x22) previous =
      text ++ 0x22 :: withoutCommentFrom rest none (some 0x22) := by
  induction text generalizing previous with
  | nil =>
      have hquote : isQuote 0x22 = true := rfl
      simp [withoutCommentFrom, hquote, hprevious]
  | cons c text ih =>
      obtain ⟨hback, hquote⟩ := h c List.mem_cons_self
      have hafter : some c ≠ some 0x5C := fun heq => hback (Option.some.inj heq)
      have hrest := ih (fun c hmem => h c (List.mem_cons_of_mem _ hmem)) hafter
      rw [List.cons_append, withoutCommentFrom]
      simp only [Option.isNone_some, Bool.and_false, Bool.false_eq_true, if_false,
        Ne.symm hquote, hrest]
      split <;> rfl

/-! ## Fields -/

theorem mem_trim {value : Bytes} {c : UInt8} (h : c ∈ trim value) : c ∈ value := by
  have hreverse : c ∈ (value.dropWhile isBlank).reverse :=
    (List.dropWhile_suffix _).subset (List.mem_reverse.mp h)
  exact (List.dropWhile_suffix _).subset (List.mem_reverse.mp hreverse)

/-- `trim` leaves something of a text that is not all blank. -/
theorem trim_ne_nil {value : Bytes} {c : UInt8} (hc : c ∈ value) (hblank : isBlank c = false) :
    trim value ≠ [] := by
  intro hnil
  have hall := List.dropWhile_eq_nil_iff.mp (List.reverse_eq_nil_iff.mp hnil)
  rw [← List.takeWhile_append_dropWhile (p := isBlank) (l := value)] at hc
  rcases List.mem_append.mp hc with hfront | hrest
  · exact absurd (List.mem_takeWhile_imp hfront) (by simp [hblank])
  · exact absurd (hall c (List.mem_reverse.mpr hrest)) (by simp [hblank])

/-- `trim` takes the blanks at both ends of a text that has none there itself. -/
theorem trim_padded (front value back : Bytes) {first last : UInt8}
    (hfront : ∀ c ∈ front, isBlank c = true) (hback : ∀ c ∈ back, isBlank c = true)
    (hfirst : value.head? = some first) (hlast : value.getLast? = some last)
    (hfirstBlank : isBlank first = false) (hlastBlank : isBlank last = false) :
    trim (front ++ (value ++ back)) = value := by
  have hdrop : ∀ {blanks text : Bytes} {c : UInt8}, (∀ b ∈ blanks, isBlank b = true) →
      text.head? = some c → isBlank c = false →
      (blanks ++ text).dropWhile isBlank = text := by
    intro blanks text c hblanks hhead hc
    rw [List.dropWhile_append_of_pos hblanks]
    cases text with
    | nil => simp at hhead
    | cons b rest =>
        obtain rfl : b = c := by simpa using hhead
        rw [List.dropWhile_cons_of_neg (by simp [hc])]
  have hvalue : value ≠ [] := fun hnil => by simp [hnil] at hfirst
  have hhead : (value ++ back).head? = some first := by
    rw [List.head?_append, hfirst]
    rfl
  have htail : value.reverse.head? = some last := by rw [List.head?_reverse, hlast]
  rw [trim, hdrop hfront hhead hfirstBlank, List.reverse_append,
    hdrop (fun b hb => hback b (List.mem_reverse.mp hb)) htail hlastBlank, List.reverse_reverse]

/-- A blank in front of a quoted text is taken away. -/
theorem trim_yamlQuote (text : Bytes) : trim (0x20 :: yamlQuote text) = yamlQuote text := by
  have h := trim_padded [0x20] (yamlQuote text) [] (by simp [isBlank]) (by simp) rfl
    List.getLast?_concat rfl rfl
  rwa [List.append_nil] at h

theorem mem_splitField {text key value : Bytes} {c : UInt8}
    (h : splitField text = some (key, value)) (hc : c ∈ value) : c ∈ text := by
  -- What is behind the colon, trimmed, and without its quotes.
  have hbehind : ∀ {d : UInt8}, d ∈ trim ((text.dropWhile (· ≠ colon)).drop 1) → d ∈ text :=
    fun hd => (List.dropWhile_suffix _).subset (List.mem_of_mem_drop (mem_trim hd))
  unfold splitField at h
  split at h
  · cases h
  · dsimp only at h
    split at h
    · cases h
    · split at h
      · split at h
        · split at h
          · cases h
          · split at h
            · cases h
            · obtain ⟨-, rfl⟩ := Prod.mk.inj (Option.some.inj h)
              exact hbehind (List.mem_of_mem_drop (List.mem_of_mem_dropLast hc))
        · obtain ⟨-, rfl⟩ := Prod.mk.inj (Option.some.inj h)
          exact hbehind hc
      · cases h

section
variable {front key value behind : Bytes}

/-- The first colon divides a field, so what is behind it may have more. -/
private theorem splitField_divides (hfront : colon ∉ front) (hkey : trim front = key) :
    colon ∈ front ++ colon :: behind ∧
      trim ((front ++ colon :: behind).takeWhile (· ≠ colon)) = key ∧
      ((front ++ colon :: behind).dropWhile (· ≠ colon)).drop 1 = behind := by
  have hpass : ∀ c ∈ front, decide (c ≠ colon) = true := fun c hc =>
    decide_eq_true fun heq => hfront (heq ▸ hc)
  refine ⟨by simp, ?_, ?_⟩
  · rw [List.takeWhile_append_of_pos hpass, List.takeWhile_cons_of_neg (by simp),
      List.append_nil, hkey]
  · rw [List.dropWhile_append_of_pos hpass, List.dropWhile_cons_of_neg (by simp), List.drop_one,
      List.tail_cons]

/-- A field whose value is not quoted. -/
theorem splitField_bare (front key : Bytes) (hfront : colon ∉ front) (hkey : trim front = key) (hne : key ≠ [])
    (hvalue : trim behind = value) {first : UInt8} (hfirst : value.head? = some first)
    (hquote : isQuote first = false) :
    splitField (front ++ colon :: behind) = some (key, value) := by
  obtain ⟨hcolon, hbefore, hbehind⟩ := @splitField_divides front key behind hfront hkey
  have hvalueNe : value ≠ [] := fun hnil => by simp [hnil] at hfirst
  unfold splitField
  rw [if_neg (not_not.mpr hcolon)]
  simp only [hbefore, hbehind, hvalue, hfirst, hquote]
  simp [hne, hvalueNe]

/-- A quoted value is read with its escapes as they are. -/
theorem splitField_quoted (front key : Bytes) {text : Bytes} (hfront : colon ∉ front) (hkey : trim front = key)
    (hne : key ≠ []) (hvalue : trim behind = yamlQuote text) (htext : text ≠ []) :
    splitField (front ++ colon :: behind) = some (key, text.flatMap yamlEscape) := by
  obtain ⟨hcolon, hbefore, hbehind⟩ := @splitField_divides front key behind hfront hkey
  have hescaped : text.flatMap yamlEscape ≠ [] := by
    obtain ⟨c, rest, rfl⟩ := List.exists_cons_of_ne_nil htext
    rw [List.flatMap_cons, yamlEscape]
    split <;> simp
  have hquote : isQuote 0x22 = true := rfl
  have hlast : (yamlQuote text).getLast? = some 0x22 := List.getLast?_concat
  unfold splitField
  rw [if_neg (not_not.mpr hcolon)]
  simp only [hbefore, hbehind, hvalue, hlast]
  simp [hne, hescaped, hquote, yamlQuote]

end

/-! ## Latencies -/

/-- A digit is neither blank nor a quote. -/
theorem isDigit_plain {c : UInt8} (h : isDigit c = true) : isBlank c = false ∧ isQuote c = false := by
  constructor
  · by_contra hblank
    simp only [isBlank, Bool.not_eq_false, Bool.or_eq_true, decide_eq_true_eq] at hblank
    rcases hblank with (rfl | rfl) | rfl <;> exact absurd h (by decide)
  · by_contra hquote
    simp only [isQuote, Bool.not_eq_false, Bool.or_eq_true, decide_eq_true_eq] at hquote
    rcases hquote with rfl | rfl <;> exact absurd h (by decide)

/-- Digits whose value fits 64 bits are read as that value. -/
theorem digitsValue_eq {digits : Bytes} (hdigits : ∀ c ∈ digits, isDigit c = true) {value : Nat}
    (hfits : digitsFrom value digits < 2 ^ 64) :
    digitsValue digits value = some (digitsFrom value digits) := by
  induction digits generalizing value with
  | nil => rfl
  | cons c digits ih =>
      have hlarge := Json.le_digitsFrom (value * 10 + (c.toNat - 0x30)) digits
      have hhere : value * 10 + (c.toNat - 0x30) < 2 ^ 64 := lt_of_le_of_lt hlarge hfits
      unfold digitsValue
      rw [if_pos (hdigits c List.mem_cons_self)]
      dsimp only
      rw [if_pos hhere]
      exact ih (fun d hd => hdigits d (List.mem_cons_of_mem _ hd)) hfits

/-- A latency that a 64-bit count holds is read back. -/
theorem parseLatency_decimal {n : Nat} (h : n < 2 ^ 63) : parseLatency (decimal n) = some (n : Int) := by
  have hfits : digitsFrom 0 (decimal n) < 2 ^ 64 := by
    rw [digitsFrom_decimal]
    omega
  have hvalue := digitsValue_eq (fun _ => isDigit_of_mem_decimal) hfits
  have hne : (decimal n).isEmpty = false := by simpa using decimal_ne_nil n
  have hsame : Int.bmod (n : Int) (2 ^ 64) = n := Int.bmod_eq_of_le (by omega) (by omega)
  unfold parseLatency
  rw [if_neg (by simp [hne]), hvalue, digitsFrom_decimal]
  exact congrArg some hsame

/-- A number stands between its blanks. -/
theorem trim_decimal (n : Nat) :
    trim (0x20 :: (decimal n ++ [0x20])) = decimal n ∧
      ∃ first, (decimal n).head? = some first ∧ isQuote first = false := by
  obtain ⟨first, hfirst⟩ : ∃ first, (decimal n).head? = some first :=
    Option.isSome_iff_exists.mp (by simpa using decimal_ne_nil n)
  obtain ⟨last, hlast⟩ : ∃ last, (decimal n).getLast? = some last :=
    Option.isSome_iff_exists.mp (by simpa using decimal_ne_nil n)
  have hfirstPlain := isDigit_plain (isDigit_of_mem_decimal (List.mem_of_mem_head? hfirst))
  have hlastPlain := isDigit_plain (isDigit_of_mem_decimal (List.mem_of_getLast? hlast))
  exact ⟨trim_padded [0x20] (decimal n) [0x20] (by simp [isBlank]) (by simp [isBlank]) hfirst hlast
    hfirstPlain.1 hlastPlain.1, first, hfirst, hfirstPlain.2⟩

end WireLab
