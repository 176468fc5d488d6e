import WireLab.Base.JsonText
import WireLab.Model.ControlJson

/-!
# What the scanner reads

One lemma for each token: the scanner returns a value exactly if the text begins,
after blanks, with a text of that value, and what it leaves is what follows
(`consume_iff`, `readString_iff`, `readUInt_iff`, `readBool_iff`).
-/

namespace WireLab

open Base Base.Json

/-- A reader that reads twice. -/
theorem bind_ok {ε α β : Type} {first : Except ε α} {next : α → Except ε β} {b : β} :
    first >>= next = .ok b ↔ ∃ a, first = .ok a ∧ next a = .ok b := by
  cases first with
  | error e => simp [bind, Except.bind]
  | ok a => simp [bind, Except.bind]

namespace JsonScanner

/-! ## Blanks -/

theorem skipWhitespace_blank {w : Bytes} (hw : Blank w) (rest : Bytes) :
    skipWhitespace (w ++ rest) = skipWhitespace rest := by
  induction w with
  | nil => rfl
  | cons c w ih =>
      have hc : isWhitespace c = true := hw c List.mem_cons_self
      have hrest := ih fun d hd => hw d (List.mem_cons_of_mem _ hd)
      simpa only [skipWhitespace, List.cons_append, List.dropWhile_cons, hc, if_true] using hrest

theorem skipWhitespace_cons {c : UInt8} (hc : isSpace c = false) (rest : Bytes) :
    skipWhitespace (c :: rest) = c :: rest := by
  have hc' : isWhitespace c = false := hc
  simp only [skipWhitespace, List.dropWhile_cons, hc', Bool.false_eq_true, if_false]

/-- What is skipped is blank. -/
theorem skipWhitespace_spec (input : Bytes) :
    ∃ w, Blank w ∧ input = w ++ skipWhitespace input := by
  refine ⟨input.takeWhile isWhitespace, fun c hc => ?_, (List.takeWhile_append_dropWhile).symm⟩
  exact List.mem_takeWhile_imp hc

/-- Nothing but blanks is left. -/
theorem skipWhitespace_nil {input : Bytes} : skipWhitespace input = [] ↔ Blank input :=
  List.dropWhile_eq_nil_iff

/-- **One expected character.** -/
theorem consume_iff {expected : UInt8} {input rest : Bytes} (hexpected : isSpace expected = false) :
    consume expected input = .ok rest ↔ ∃ w, Blank w ∧ input = w ++ expected :: rest := by
  constructor
  · intro h
    obtain ⟨w, hw, hinput⟩ := skipWhitespace_spec input
    unfold consume at h
    split at h
    · exact absurd h (by simp)
    · next c left hskipped =>
        split at h
        · next hc =>
            obtain rfl := Except.ok.inj h
            exact ⟨w, hw, by rw [hinput, hskipped, hc]⟩
        · exact absurd h (by simp)
  · rintro ⟨w, hw, rfl⟩
    simp only [consume, skipWhitespace_blank hw, skipWhitespace_cons hexpected, if_true]

/-- Where another character comes first, an expected one is refused. -/
theorem consume_other {expected c : UInt8} {w : Bytes} (hw : Blank w) (hc : isSpace c = false)
    (hne : c ≠ expected) (rest : Bytes) :
    consume expected (w ++ c :: rest) = .error .malformedJson := by
  simp only [consume, skipWhitespace_blank hw, skipWhitespace_cons hc, if_neg hne]

/-! ## Strings -/

theorem prepend_ok {decoded value rest : Bytes}
    {read : Except ControlParseError (Bytes × Bytes)} :
    prepend decoded read = .ok (value, rest) ↔
      ∃ output, read = .ok (output, rest) ∧ value = decoded ++ output := by
  cases read with
  | error e => simp [prepend]
  | ok result =>
      obtain ⟨output, left⟩ := result
      simp only [prepend, Except.ok.injEq, Prod.mk.injEq]
      constructor
      · rintro ⟨rfl, rfl⟩
        exact ⟨output, ⟨rfl, rfl⟩, rfl⟩
      · rintro ⟨_, ⟨rfl, rfl⟩, rfl⟩
        exact ⟨rfl, rfl⟩

theorem readHex_eq (a b c d : UInt8) : readHex a b c d = hex4 a b c d := rfl

/-- The scanner's encoding is UTF-8. -/
theorem utf8_char (character : Char) :
    utf8 character.toNat = String.utf8EncodeChar character := by
  have hbound : character.toNat < 0x110000 := by
    rcases character.valid with h | ⟨_, h⟩
    · exact h.trans (by decide)
    · exact h
  have hval : character.val.toNat = character.toNat := rfl
  have hbyte : ∀ m n : Nat, m = n → m.toUInt8 = UInt8.ofNat n := fun m n h => h ▸ rfl
  unfold utf8 String.utf8EncodeChar
  simp only [hval]
  split
  · rfl
  · split
    · refine List.cons_eq_cons.mpr ⟨hbyte _ _ (by omega), List.cons_eq_cons.mpr
        ⟨hbyte _ _ (by omega), rfl⟩⟩
    · split
      · refine List.cons_eq_cons.mpr ⟨hbyte _ _ (by omega), List.cons_eq_cons.mpr
          ⟨hbyte _ _ (by omega), List.cons_eq_cons.mpr ⟨hbyte _ _ (by omega), rfl⟩⟩⟩
      · refine List.cons_eq_cons.mpr ⟨hbyte _ _ (by omega), List.cons_eq_cons.mpr
          ⟨hbyte _ _ (by omega), List.cons_eq_cons.mpr ⟨hbyte _ _ (by omega),
            List.cons_eq_cons.mpr ⟨hbyte _ _ (by omega), rfl⟩⟩⟩⟩

/-- The escapes of one letter are those of the grammar. -/
theorem simpleEscape_iff {e c : UInt8} : simpleEscape e = some c ↔ (e, c) ∈ shortEscapes := by
  constructor
  · intro h
    unfold simpleEscape at h
    split at h
    · next hself =>
        obtain rfl := Option.some.inj h
        rcases hself with rfl | rfl | rfl <;> decide
    · repeat' split at h
      all_goals first
        | (obtain rfl := Option.some.inj h; subst_vars; decide)
        | exact absurd h (by simp)
  · intro h
    simp only [shortEscapes, List.mem_cons, Prod.mk.injEq, List.not_mem_nil, or_false] at h
    rcases h with ⟨rfl, rfl⟩ | ⟨rfl, rfl⟩ | ⟨rfl, rfl⟩ | ⟨rfl, rfl⟩ | ⟨rfl, rfl⟩ | ⟨rfl, rfl⟩ |
      ⟨rfl, rfl⟩ | ⟨rfl, rfl⟩ <;> rfl

theorem readCharacters_sound {input value rest : Bytes}
    (h : readCharacters input = .ok (value, rest)) :
    ∃ text, Spells value text ∧ input = text ++ quote :: rest := by
  fun_induction readCharacters input generalizing value rest with
  | case1 | case3 | case5 | case7 | case8 | case9 | case10 | case11 | case13 | case14 | case16 =>
      exact absurd h (by simp)
  | case2 left =>
      simp only [Except.ok.injEq, Prod.mk.injEq] at h
      obtain ⟨rfl, rfl⟩ := h
      exact ⟨[], .nil, rfl⟩
  | case4 c left hquote hcontrol hplain ih =>
      obtain ⟨output, hread, rfl⟩ := prepend_ok.mp h
      obtain ⟨text, hspells, rfl⟩ := ih hread
      have hc : isPlain c = true := by
        simp only [isPlain, Bool.and_eq_true, decide_eq_true_eq]
        exact ⟨⟨by simpa using hcontrol, hquote⟩, hplain⟩
      exact ⟨c :: text, .plain hc hspells, rfl⟩
  | case6 c hquote hcontrol hbackslash escape left decoded hescape ih =>
      obtain rfl : c = backslash := by simpa using hbackslash
      obtain ⟨output, hread, rfl⟩ := prepend_ok.mp h
      obtain ⟨text, hspells, rfl⟩ := ih hread
      exact ⟨backslash :: escape :: text, .short (simpleEscape_iff.mp hescape) hspells, rfl⟩
  | case12 c hquote hcontrol hbackslash escape hescape hu a b c' d high hhigh hrange
      backslash' u' e f g i left hsecond low hlow hlowRange ih =>
      obtain rfl : c = backslash := by simpa using hbackslash
      obtain rfl : escape = 0x75 := by simpa using hu
      obtain ⟨rfl, rfl⟩ : backslash' = backslash ∧ u' = 0x75 := by simpa using hsecond
      obtain ⟨output, hread, hvalue⟩ := prepend_ok.mp h
      obtain ⟨text, hspells, rfl⟩ := ih hread
      obtain ⟨character, hcharacter⟩ := exists_char
        (n := 0x10000 + (high - 0xD800) * 1024 + (low - 0xDC00)) (by omega) (by omega)
      rw [hvalue, ← hcharacter, utf8_char]
      refine ⟨_, .pair hhigh hlow ?_ hcharacter hspells, rfl⟩
      simp only [isHigh, isLow, Bool.and_eq_true, decide_eq_true_eq]
      omega
  | case15 c hquote hcontrol hbackslash escape hescape hu a b c' d left n hhex hhigh hlow ih =>
      obtain rfl : c = backslash := by simpa using hbackslash
      obtain rfl : escape = 0x75 := by simpa using hu
      obtain ⟨output, hread, rfl⟩ := prepend_ok.mp h
      obtain ⟨text, hspells, rfl⟩ := ih hread
      have hbound := hex4_lt hhex
      obtain ⟨character, hcharacter⟩ := exists_char (n := n) (by omega) (by omega)
      rw [← hcharacter, utf8_char]
      exact ⟨_, .code (hcharacter ▸ hhex) hspells, rfl⟩

/-- A high half and a low half are no other characters. -/
private theorem surrogate_free (character : Char) :
    ¬ (0xD800 ≤ character.toNat ∧ character.toNat ≤ 0xDBFF) ∧
      ¬ (0xDC00 ≤ character.toNat ∧ character.toNat ≤ 0xDFFF) := by
  have hvalid : character.toNat < 0xD800 ∨ 0xDFFF < character.toNat ∧ character.toNat < 0x110000 :=
    character.valid
  omega

theorem readCharacters_complete {value text : Bytes} (h : Spells value text) (rest : Bytes) :
    readCharacters (text ++ quote :: rest) = .ok (value, rest) := by
  induction h with
  | nil =>
      rw [List.nil_append, readCharacters.eq_def]
      rfl
  | @plain c value text hc _ ih =>
      simp only [isPlain, Bool.and_eq_true, decide_eq_true_eq] at hc
      obtain ⟨⟨hcontrol, hquote⟩, hbackslash⟩ := hc
      have hcontrol' : ¬ c < 0x20 := by simpa using hcontrol
      rw [List.cons_append, readCharacters.eq_def]
      simp only [if_neg hquote, if_neg hcontrol', if_pos hbackslash]
      exact prepend_ok.mpr ⟨value, ih, rfl⟩
  | @short e c value text he _ ih =>
      have hescape := simpleEscape_iff.mpr he
      rw [List.cons_append, List.cons_append, readCharacters.eq_def]
      simp only [hescape]
      exact prepend_ok.mpr ⟨value, ih, rfl⟩
  | @code a b c d character value text hhex _ ih =>
      obtain ⟨hhigh, hlow⟩ := surrogate_free character
      have hu : simpleEscape 0x75 = none := by decide
      simp only [List.cons_append]
      rw [readCharacters.eq_def]
      simp only [hu, readHex_eq, hhex, if_neg hhigh, if_neg hlow]
      exact prepend_ok.mpr ⟨value, ih, by rw [utf8_char]⟩
  | @pair a b c d e f g i high low character value text hhigh hlow hranges hcharacter _ ih =>
      simp only [isHigh, isLow, Bool.and_eq_true, decide_eq_true_eq] at hranges
      have hu : simpleEscape 0x75 = none := by decide
      have hlow' : ¬ (low < 0xDC00 ∨ 0xDFFF < low) := by omega
      simp only [List.cons_append]
      rw [readCharacters.eq_def]
      simp only [hu, readHex_eq, hhigh, if_pos hranges.1, hlow, if_neg hlow', ← hcharacter]
      exact prepend_ok.mpr ⟨value, ih, by rw [utf8_char]⟩

/-- **A string.** -/
theorem readString_iff {input value rest : Bytes} :
    readString input = .ok (value, rest) ↔ ∃ w text, Blank w ∧ Spells value text ∧
      input = w ++ quote :: (text ++ quote :: rest) := by
  unfold readString
  rw [bind_ok]
  constructor
  · rintro ⟨left, hconsume, hread⟩
    obtain ⟨w, hw, rfl⟩ := (consume_iff (by decide)).mp hconsume
    obtain ⟨text, hspells, rfl⟩ := readCharacters_sound hread
    exact ⟨w, text, hw, hspells, rfl⟩
  · rintro ⟨w, text, hw, hspells, rfl⟩
    exact ⟨_, (consume_iff (by decide)).mpr ⟨w, hw, rfl⟩, readCharacters_complete hspells rest⟩

theorem readString_text_iff {value input rest : Bytes} :
    readString input = .ok (value, rest) ↔
      ∃ w text, Blank w ∧ StringText value text ∧ input = w ++ (text ++ rest) := by
  rw [readString_iff]
  constructor
  · rintro ⟨w, body, hw, hbody, rfl⟩
    refine ⟨w, _, hw, ⟨body, hbody, rfl⟩, ?_⟩
    simp only [List.cons_append, List.append_assoc, List.nil_append]
  · rintro ⟨w, _, hw, ⟨body, hbody, rfl⟩, rfl⟩
    refine ⟨w, body, hw, hbody, ?_⟩
    simp only [List.cons_append, List.append_assoc, List.nil_append]

/-! ## Numbers -/

theorem digit_le {c : UInt8} (hc : isDigit c = true) : 0x30 ≤ c.toNat ∧ c.toNat ≤ 0x39 := by
  simp only [isDigit, Bool.and_eq_true, decide_eq_true_eq] at hc
  exact ⟨UInt8.le_iff_toNat_le.mp hc.1, UInt8.le_iff_toNat_le.mp hc.2⟩

/-- The digits at the front of a text, after some of value `value`. -/
def DigitsOf (value n : Nat) (input rest : Bytes) : Prop :=
  ∃ digits, (∀ c ∈ digits, isDigit c = true) ∧ NoDigit rest ∧ input = digits ++ rest ∧
    digitsFrom value digits = n

theorem digitsOf_digit {c : UInt8} (hc : isDigit c = true) {value n : Nat} {input rest : Bytes} :
    DigitsOf value n (c :: input) rest ↔
      DigitsOf (value * 10 + (c.toNat - 0x30)) n input rest := by
  constructor
  · rintro ⟨digits, hdigits, hrest, hinput, hn⟩
    cases digits with
    | nil =>
        -- The text cannot begin with a digit that is not of the numeral.
        have hhead : rest.head? = some c := by rw [← hinput.trans (List.nil_append rest)]; rfl
        rw [hrest c hhead] at hc
        exact absurd hc (by decide)
    | cons d digits =>
        obtain ⟨rfl, rfl⟩ := List.cons_eq_cons.mp hinput
        exact ⟨digits, fun e he => hdigits e (List.mem_cons_of_mem _ he), hrest, rfl, hn⟩
  · rintro ⟨digits, hdigits, hrest, rfl, hn⟩
    refine ⟨c :: digits, fun e he => ?_, hrest, rfl, hn⟩
    rcases List.mem_cons.mp he with rfl | hmem
    · exact hc
    · exact hdigits e hmem

theorem digitsOf_other {c : UInt8} (hc : isDigit c = false) {value n : Nat} {input rest : Bytes} :
    DigitsOf value n (c :: input) rest ↔ value = n ∧ c :: input = rest := by
  constructor
  · rintro ⟨digits, hdigits, hrest, hinput, hn⟩
    cases digits with
    | nil => exact ⟨hn, hinput⟩
    | cons d digits =>
        obtain ⟨rfl, _⟩ := List.cons_eq_cons.mp hinput
        rw [hdigits _ List.mem_cons_self] at hc
        exact absurd hc (by decide)
  · rintro ⟨rfl, rfl⟩
    refine ⟨[], by simp, fun d hd => ?_, rfl, rfl⟩
    obtain rfl := Option.some.inj hd
    exact hc

/-- **Digits**, as long as the value stays within the maximum. -/
theorem readDigits_iff {maximum value n : Nat} {input rest : Bytes} (hmaximum : 9 ≤ maximum)
    (hvalue : value ≤ maximum) :
    readDigits maximum input value = .ok (n, rest) ↔ DigitsOf value n input rest ∧ n ≤ maximum := by
  induction input generalizing value with
  | nil =>
      simp only [readDigits, Except.ok.injEq, Prod.mk.injEq]
      constructor
      · rintro ⟨rfl, rfl⟩
        exact ⟨⟨[], by simp, by simp [NoDigit], rfl, rfl⟩, hvalue⟩
      · rintro ⟨⟨digits, _, _, hinput, hn⟩, _⟩
        obtain ⟨rfl, rfl⟩ := List.append_eq_nil_iff.mp hinput.symm
        exact ⟨hn, rfl⟩
  | cons c input ih =>
      by_cases hc : isDigit c = true
      · have hdigit := digit_le hc
        rw [digitsOf_digit hc]
        simp only [readDigits, hc, if_true]
        -- The check refuses exactly the values beyond the maximum.
        by_cases hover : value > (maximum - (c.toNat - 0x30)) / 10
        · simp only [if_pos hover, reduceCtorEq, false_iff, not_and]
          rintro ⟨digits, _, _, _, rfl⟩
          have hlarge := le_digitsFrom (value * 10 + (c.toNat - 0x30)) digits
          omega
        · rw [if_neg hover]
          exact ih (by omega)
      · have hc' : isDigit c = false := by simpa using hc
        rw [digitsOf_other hc']
        simp only [readDigits, hc', Bool.false_eq_true, if_false, Except.ok.injEq, Prod.mk.injEq]
        constructor
        · rintro ⟨rfl, rfl⟩
          exact ⟨⟨rfl, rfl⟩, hvalue⟩
        · exact fun h => h.1

/-- **An unsigned integer**, within the maximum. -/
theorem readUInt_iff {maximum n : Nat} {input rest : Bytes} (hmaximum : 9 ≤ maximum) :
    readUInt maximum input = .ok (n, rest) ↔ ∃ w text, Blank w ∧ Numeral n text ∧ n ≤ maximum ∧
      NoDigit rest ∧ input = w ++ (text ++ rest) := by
  have hspace : ∀ c : UInt8, isDigit c = true → isSpace c = false := by
    intro c hc
    have hdigit := digit_le hc
    have hne : ∀ d : UInt8, d.toNat < 0x30 → c ≠ d := by
      rintro d hd rfl
      omega
    simp only [isSpace, Bool.or_eq_false_iff, decide_eq_false_iff_not]
    exact ⟨⟨⟨hne _ (by decide), hne _ (by decide)⟩, hne _ (by decide)⟩, hne _ (by decide)⟩
  constructor
  · intro h
    obtain ⟨w, hw, hinput⟩ := skipWhitespace_spec input
    unfold readUInt at h
    split at h
    · exact absurd h (by simp)
    · next c left hskipped =>
        split at h
        · next hc =>
            obtain ⟨⟨digits, hdigits, hrest, hsplit, hn⟩, hle⟩ :=
              (readDigits_iff hmaximum (Nat.zero_le _)).mp h
            refine ⟨w, digits, hw, ⟨?_, hdigits, hn⟩, hle, hrest, by rw [hinput, hskipped, hsplit]⟩
            rintro rfl
            have hhead : rest.head? = some c := by
              rw [← hsplit.trans (List.nil_append rest)]
              rfl
            rw [hrest c hhead] at hc
            exact absurd hc (by decide)
        · exact absurd h (by simp)
  · rintro ⟨w, text, hw, ⟨hsome, hdigits, hn⟩, hle, hrest, rfl⟩
    obtain ⟨c, text, rfl⟩ := List.exists_cons_of_ne_nil hsome
    have hc := hdigits c List.mem_cons_self
    simp only [readUInt, skipWhitespace_blank hw, List.cons_append, skipWhitespace_cons (hspace c hc),
      hc, if_true]
    exact (readDigits_iff hmaximum (Nat.zero_le _)).mpr ⟨⟨c :: text, hdigits, hrest, rfl, hn⟩, hle⟩

theorem readUInt32_iff {value : UInt32} {input rest : Bytes} :
    readUInt32 input = .ok (value, rest) ↔ ∃ w text, Blank w ∧ Numeral value.toNat text ∧
      NoDigit rest ∧ input = w ++ (text ++ rest) := by
  unfold readUInt32
  rw [bind_ok]
  constructor
  · rintro ⟨⟨n, left⟩, hread, hvalue⟩
    obtain ⟨rfl, rfl⟩ := Prod.mk.inj (Except.ok.inj hvalue)
    obtain ⟨w, text, hw, hnumeral, hle, hrest, hinput⟩ := (readUInt_iff (by decide)).mp hread
    refine ⟨w, text, hw, ?_, hrest, hinput⟩
    rwa [UInt32.toNat_ofNat_of_lt' (by simp only [UInt32.size]; omega)]
  · rintro ⟨w, text, hw, hnumeral, hrest, hinput⟩
    have hbound := value.toNat_lt
    exact ⟨(value.toNat, rest), (readUInt_iff (by decide)).mpr
      ⟨w, text, hw, hnumeral, by omega, hrest, hinput⟩, by simp⟩

theorem readUInt64_iff {value : UInt64} {input rest : Bytes} :
    readUInt64 input = .ok (value, rest) ↔ ∃ w text, Blank w ∧ Numeral value.toNat text ∧
      NoDigit rest ∧ input = w ++ (text ++ rest) := by
  unfold readUInt64
  rw [bind_ok]
  constructor
  · rintro ⟨⟨n, left⟩, hread, hvalue⟩
    obtain ⟨rfl, rfl⟩ := Prod.mk.inj (Except.ok.inj hvalue)
    obtain ⟨w, text, hw, hnumeral, hle, hrest, hinput⟩ := (readUInt_iff (by decide)).mp hread
    refine ⟨w, text, hw, ?_, hrest, hinput⟩
    rwa [UInt64.toNat_ofNat_of_lt' (by simp only [UInt64.size]; omega)]
  · rintro ⟨w, text, hw, hnumeral, hrest, hinput⟩
    have hbound := value.toNat_lt
    exact ⟨(value.toNat, rest), (readUInt_iff (by decide)).mpr
      ⟨w, text, hw, hnumeral, by omega, hrest, hinput⟩, by simp⟩

/-- **A truth value.** -/
theorem readBool_iff {value : Bool} {input rest : Bytes} :
    readBool input = .ok (value, rest) ↔ ∃ w, Blank w ∧
      input = w ++ ((if value then bytes "true" else bytes "false") ++ rest) := by
  constructor
  · intro h
    obtain ⟨w, hw, hinput⟩ := skipWhitespace_spec input
    simp only [readBool] at h
    split at h
    · next htrue =>
        obtain ⟨rfl, rfl⟩ := Prod.mk.inj (Except.ok.inj h)
        refine ⟨w, hw, ?_⟩
        rw [if_pos rfl, ← htrue, List.take_append_drop]
        exact hinput
    · split at h
      · next hfalse =>
          obtain ⟨rfl, rfl⟩ := Prod.mk.inj (Except.ok.inj h)
          refine ⟨w, hw, ?_⟩
          rw [if_neg Bool.false_ne_true, ← hfalse, List.take_append_drop]
          exact hinput
      · exact absurd h (by simp)
  · rintro ⟨w, hw, rfl⟩
    cases value with
    | true =>
        have hskip : skipWhitespace (bytes "true" ++ rest) = bytes "true" ++ rest :=
          skipWhitespace_cons (by decide) _
        simp only [readBool, skipWhitespace_blank hw, if_true, hskip]
        rfl
    | false =>
        have hskip : skipWhitespace (bytes "false" ++ rest) = bytes "false" ++ rest :=
          skipWhitespace_cons (by decide) _
        simp only [readBool, skipWhitespace_blank hw, Bool.false_eq_true, if_false, hskip]
        rfl

end JsonScanner
end WireLab
