import WireLab.Model.ControlJsonWriter
import WireLab.Model.EthernetFrame

/-!
# Addresses as text

An address that is written is read back. What is read is six groups of two
characters, each through a number reader that takes more than two digits of a pair
for a number: `ReadLeniently` names the texts that are read as an address and are
not one (`mac_text_exact_iff`, `mac_text_lenient`).
-/

namespace WireLab

open Base Base.Json

/-! ## Texts -/

/-- The two characters of an address's text that stand for its byte at `i`. -/
def macGroup (str : Bytes) (i : Nat) : Bytes := (str.drop (i * 3)).take 2

/-- Seventeen characters, with one and the same delimiter between the groups. -/
def LaidOut (str : Bytes) : Prop :=
  str.length = 17 ∧ ∃ delimiter, (delimiter = colon ∨ delimiter = dash) ∧
    ∀ i < 5, str[i * 3 + 2]? = some delimiter

/-- The text says the address: six groups of two hexadecimal digits, joined by one
delimiter, are its bytes. -/
def SaysAddress (str : Bytes) (mac : MacAddress) : Prop :=
  LaidOut str ∧ ∀ i < macAddressSize, (∀ c ∈ macGroup str i, isHexDigit c = true) ∧
    mac.bytes[i]? = some (UInt8.ofNat (hexNumber (macGroup str i)))

/-- A group that passes for a number: a digit comes first, or behind one white space
or sign. -/
def PassesForNumber (group : Bytes) : Prop :=
  ∃ first second, group = [first, second] ∧
    (isHexDigit first = true ∨
      (isWhiteSpace first = true ∨ first = plusSign ∨ first = minusSign) ∧
        isHexDigit second = true)

/-- A text that is read as an address without being one: it is laid out as one, every
group passes for a number, some group has a character that is no digit, and some digit
is not zero. -/
structure ReadLeniently (str : Bytes) : Prop where
  laidOut : LaidOut str
  numbers : ∀ i < macAddressSize, PassesForNumber (macGroup str i)
  lenient : ∃ i < macAddressSize, ∃ c ∈ macGroup str i, isHexDigit c = false
  nonzero : ∃ i < macAddressSize, ∃ c ∈ macGroup str i, ∃ n, hexValue c = some n ∧ n ≠ 0

/-! ## One group -/

/-- The value of a digit. -/
private theorem exists_value {c : UInt8} (h : isHexDigit c = true) :
    ∃ n < 16, hexValue c = some n := by
  obtain ⟨n, hn⟩ := Option.isSome_iff_exists.mp h
  exact ⟨n, hexValue_lt hn, hn⟩

/-- What is no digit has no value. -/
private theorem no_value {c : UInt8} (h : isHexDigit c = false) : hexValue c = none :=
  Option.not_isSome_iff_eq_none.mp (Bool.eq_false_iff.mp h)

private theorem hexNumber_digit {c : UInt8} {n : Nat} (h : hexValue c = some n) :
    hexNumber [c] = n := by
  simp only [hexNumber, List.foldl_cons, List.foldl_nil, h, Option.getD_some, Nat.zero_mul,
    Nat.zero_add]

private theorem hexNumber_pair {first second : UInt8} {high low : Nat}
    (hfirst : hexValue first = some high) (hsecond : hexValue second = some low) :
    hexNumber [first, second] = high * 16 + low := by
  simp only [hexNumber, List.foldl_cons, List.foldl_nil, hfirst, hsecond, Option.getD_some,
    Nat.zero_mul, Nat.zero_add]

/-- A digit is neither white space nor a sign. -/
private theorem digit_plain {c : UInt8} (h : isHexDigit c = true) :
    isWhiteSpace c = false ∧ c ≠ plusSign ∧ c ≠ minusSign := by
  have hall : ∀ n < 256, isHexDigit (UInt8.ofNat n) = true →
      isWhiteSpace (UInt8.ofNat n) = false ∧ UInt8.ofNat n ≠ plusSign ∧
        UInt8.ofNat n ≠ minusSign := by
    decide +kernel
  have hc := hall c.toNat c.toNat_lt
  rw [UInt8.ofNat_toNat] at hc
  exact hc h

/-- A number of at most two digits is an `int`, and zero as a byte only if it is
zero. -/
private theorem small_int {n : Nat} (hn : n < 256) :
    (-2 ^ 31 ≤ (n : Int) ∧ (n : Int) < 2 ^ 31) ∧ (-2 ^ 31 ≤ -(n : Int) ∧ -(n : Int) < 2 ^ 31) ∧
      (UInt8.ofInt n = 0 ↔ n = 0) ∧ (UInt8.ofInt (-n) = 0 ↔ n = 0) := by
  have hzero : ∀ value : Int, UInt8.ofInt value = 0 ↔ value % 2 ^ 8 = 0 := by
    intro value
    rw [UInt8.ofInt, ← UInt8.toNat_inj, UInt8.toNat_ofNat']
    show (value % 2 ^ 8).toNat % 2 ^ 8 = 0 ↔ _
    omega
  refine ⟨by omega, by omega, ?_, ?_⟩
  · rw [hzero]
    omega
  · rw [hzero]
    omega

/-- A number that is not negative is stored by its lowest byte. -/
private theorem ofInt_natCast (n : Nat) : UInt8.ofInt n = UInt8.ofNat n := by
  rw [UInt8.ofInt, ← UInt8.toNat_inj, UInt8.toNat_ofNat', UInt8.toNat_ofNat']
  omega

/-- The digits that are read decide the number. -/
private theorem stoi_of_digits (digits : Bytes) {text rest : Bytes} {negative : Bool}
    (hsign : readSign (text.dropWhile isWhiteSpace) = (negative, rest))
    (hdigits : (skipPrefix rest).takeWhile isHexDigit = digits) (hne : digits ≠ [])
    (hsmall : hexNumber digits < 256) :
    stoi text = some (if negative then -(hexNumber digits : Int) else hexNumber digits) := by
  have hempty : digits.isEmpty = false := List.isEmpty_eq_false_iff.mpr hne
  obtain ⟨hplus, hminus, _⟩ := small_int hsmall
  simp only [stoi, hsign, hdigits, hempty, Bool.false_eq_true, if_false]
  refine if_pos ?_
  cases negative with
  | false => exact hplus
  | true => exact hminus

/-- Without a digit there is no number. -/
private theorem stoi_without_digits {text rest : Bytes} {negative : Bool}
    (hsign : readSign (text.dropWhile isWhiteSpace) = (negative, rest))
    (hdigits : (skipPrefix rest).takeWhile isHexDigit = []) : stoi text = none := by
  simp only [stoi, hsign, hdigits, List.isEmpty_nil, if_true]

section
variable {first second : UInt8}

/-- The zero digits of a group. -/
private def AllZero (group : Bytes) : Prop := ∀ c ∈ group, ∀ n, hexValue c = some n → n = 0

/-- A group that begins with a digit is read as that digit and the next, if the next is
one. -/
private theorem stoi_digit (second : UInt8) (hfirst : isHexDigit first = true) :
    ∃ value, stoi [first, second] = some value ∧
      (isHexDigit second = true → value = hexNumber [first, second]) ∧
      (UInt8.ofInt value = 0 ↔ AllZero [first, second]) := by
  obtain ⟨hspace, hplus, hminus⟩ := digit_plain hfirst
  obtain ⟨high, hhigh, hvalue⟩ := exists_value hfirst
  have hsign : readSign ([first, second].dropWhile isWhiteSpace) = (false, [first, second]) := by
    rw [List.dropWhile_cons_of_neg (by rw [hspace]; decide), readSign, if_neg hminus, if_neg hplus]
  cases hsecond : isHexDigit second with
  | true =>
      obtain ⟨low, hlow, hvalue'⟩ := exists_value hsecond
      have hnumber := hexNumber_pair hvalue hvalue'
      have hsmall : hexNumber [first, second] < 256 := by omega
      refine ⟨_, stoi_of_digits [first, second] hsign ?_ (by simp) hsmall,
        fun _ => rfl, ?_⟩
      · show List.takeWhile isHexDigit [first, second] = _
        rw [List.takeWhile_cons_of_pos hfirst, List.takeWhile_cons_of_pos hsecond]
        rfl
      · rw [if_neg (by decide), (small_int hsmall).2.2.1, hnumber]
        simp only [AllZero, List.mem_cons, List.not_mem_nil, or_false, forall_eq_or_imp, forall_eq,
          hvalue, hvalue', Option.some.injEq, forall_eq']
        omega
  | false =>
      have hnumber := hexNumber_digit hvalue
      have hsmall : hexNumber [first] < 256 := by omega
      refine ⟨_, stoi_of_digits [first] hsign ?_ (by simp) hsmall, ?_, ?_⟩
      · show List.takeWhile isHexDigit [first, second] = _
        rw [List.takeWhile_cons_of_pos hfirst, List.takeWhile_cons_of_neg (by rw [hsecond]; decide)]
      · intro htrue
        cases htrue
      · rw [if_neg (by decide), (small_int hsmall).2.2.1, hnumber]
        simp only [AllZero, List.mem_cons, List.not_mem_nil, or_false, forall_eq_or_imp, forall_eq,
          hvalue, no_value hsecond, Option.some.injEq, forall_eq', reduceCtorEq, false_implies,
          implies_true, and_true]

/-- A group that begins with white space or a sign is read as the digit behind it. -/
private theorem stoi_skipped (hfirst : isHexDigit first = false)
    (hskipped : isWhiteSpace first = true ∨ first = plusSign ∨ first = minusSign)
    (hsecond : isHexDigit second = true) :
    ∃ value, stoi [first, second] = some value ∧
      (UInt8.ofInt value = 0 ↔ AllZero [first, second]) := by
  obtain ⟨hspace, hplus, hminus⟩ := digit_plain hsecond
  obtain ⟨low, hlow, hvalue⟩ := exists_value hsecond
  have hnumber := hexNumber_digit hvalue
  have hsmall : hexNumber [second] < 256 := by omega
  have hdigits : (skipPrefix [second]).takeWhile isHexDigit = [second] := by
    show List.takeWhile isHexDigit [second] = _
    rw [List.takeWhile_cons_of_pos hsecond]
    rfl
  have hzero : AllZero [first, second] ↔ low = 0 := by
    simp only [AllZero, List.mem_cons, List.not_mem_nil, or_false, forall_eq_or_imp, forall_eq,
      hvalue, no_value hfirst, Option.some.injEq, forall_eq', reduceCtorEq, false_implies,
      implies_true, true_and]
  rcases hskipped with hskipped | rfl | rfl
  · have hsign : readSign ([first, second].dropWhile isWhiteSpace) = (false, [second]) := by
      rw [List.dropWhile_cons_of_pos hskipped, List.dropWhile_cons_of_neg (by rw [hspace]; decide),
        readSign, if_neg hminus, if_neg hplus]
    refine ⟨_, stoi_of_digits _ hsign hdigits (by simp) hsmall, ?_⟩
    rw [if_neg (by decide), (small_int hsmall).2.2.1, hnumber, hzero]
  · have hsign : readSign ([plusSign, second].dropWhile isWhiteSpace) = (false, [second]) := rfl
    refine ⟨_, stoi_of_digits _ hsign hdigits (by simp) hsmall, ?_⟩
    rw [if_neg (by decide), (small_int hsmall).2.2.1, hnumber, hzero]
  · have hsign : readSign ([minusSign, second].dropWhile isWhiteSpace) = (true, [second]) := rfl
    refine ⟨_, stoi_of_digits _ hsign hdigits (by simp) hsmall, ?_⟩
    rw [if_pos rfl, (small_int hsmall).2.2.2, hnumber, hzero]

/-- What is passed over leaves characters of the text. -/
private theorem mem_passed {text : Bytes} {c : UInt8}
    (h : c ∈ skipPrefix (readSign (text.dropWhile isWhiteSpace)).2) : c ∈ text := by
  have hplain : ∀ rest : Bytes, c ∈ skipPrefix rest → c ∈ rest := by
    intro rest hc
    simp only [skipPrefix] at hc
    split at hc
    · split at hc
      · exact List.mem_cons_of_mem _ (List.mem_cons_of_mem _ hc)
      · exact hc
    · exact hc
  have hsign : ∀ rest : Bytes, c ∈ (readSign rest).2 → c ∈ rest := by
    intro rest hc
    cases rest with
    | nil => exact hc
    | cons first rest =>
        simp only [readSign] at hc
        split at hc
        · exact List.mem_cons_of_mem first hc
        · split at hc
          · exact List.mem_cons_of_mem first hc
          · exact hc
  exact (List.dropWhile_sublist _).subset (hsign _ (hplain _ h))

/-- A group that does not pass for a number is none. -/
private theorem stoi_refused (h : ¬PassesForNumber [first, second]) :
    stoi [first, second] = none := by
  have hfirst : isHexDigit first = false := by
    cases hdigit : isHexDigit first with
    | false => rfl
    | true => exact absurd ⟨first, second, rfl, .inl hdigit⟩ h
  cases hsecond : isHexDigit second with
  | false =>
      refine stoi_without_digits rfl ?_
      rw [List.eq_nil_iff_forall_not_mem]
      intro c hc
      have hdigit := List.mem_takeWhile_imp hc
      have hmem := mem_passed ((List.takeWhile_sublist _).subset hc)
      simp only [List.mem_cons, List.not_mem_nil, or_false] at hmem
      rcases hmem with rfl | rfl
      · exact absurd hdigit (by rw [hfirst]; decide)
      · exact absurd hdigit (by rw [hsecond]; decide)
  | true =>
      -- nothing before the digit is passed over
      have hkept : ¬(isWhiteSpace first = true ∨ first = plusSign ∨ first = minusSign) :=
        fun hskipped => h ⟨first, second, rfl, .inr ⟨hskipped, hsecond⟩⟩
      rw [not_or, not_or] at hkept
      obtain ⟨hspace, hplus, hminus⟩ := hkept
      have hsign : readSign ([first, second].dropWhile isWhiteSpace) = (false, [first, second]) := by
        rw [List.dropWhile_cons_of_neg hspace, readSign, if_neg hminus, if_neg hplus]
      refine stoi_without_digits hsign ?_
      show List.takeWhile isHexDigit [first, second] = []
      rw [List.takeWhile_cons_of_neg (by rw [hfirst]; decide)]

/-- **What the number reader makes of a group**: a group that passes for a number is
one, two digits are the number they spell, and the byte is zero if the digits are. -/
private theorem stoi_passes {group : Bytes} (h : PassesForNumber group) :
    ∃ value, stoi group = some value ∧
      ((∀ c ∈ group, isHexDigit c = true) → value = hexNumber group) ∧
      (UInt8.ofInt value = 0 ↔ AllZero group) := by
  obtain ⟨first, second, rfl, hnumber⟩ := h
  cases hfirst : isHexDigit first with
  | true =>
      obtain ⟨value, hvalue, hpair, hzero⟩ := stoi_digit second hfirst
      exact ⟨value, hvalue, fun hdigits => hpair (hdigits second (by simp)), hzero⟩
  | false =>
      rw [hfirst] at hnumber
      obtain ⟨hskipped, hsecond⟩ := hnumber.resolve_left (by decide)
      obtain ⟨value, hvalue, hzero⟩ := stoi_skipped hfirst hskipped hsecond
      refine ⟨value, hvalue, ?_, hzero⟩
      intro hdigits
      exact absurd (hdigits first (by simp)) (by rw [hfirst]; decide)

end

/-! ## Six groups -/

/-- The bytes that are read one after the other are the bytes of the address. -/
private theorem foldlM_set (byte : Nat → Option UInt8) {n : Nat} (hn : n ≤ macAddressSize) :
    match (List.range n).foldlM (fun mac i => (byte i).map (MacAddress.set mac i)) MacAddress.zero with
    | none => ∃ i < n, byte i = none
    | some mac => ∀ i < n, byte i = mac.bytes[i]? := by
  induction n with
  | zero => exact fun i hi => absurd hi (Nat.not_lt_zero i)
  | succ n ih =>
      have hbefore := ih (by omega)
      rw [List.range_succ, List.foldlM_append]
      cases hread : (List.range n).foldlM
          (fun mac i => (byte i).map (MacAddress.set mac i)) MacAddress.zero with
      | none =>
          rw [hread] at hbefore
          obtain ⟨i, hi, hnone⟩ := hbefore
          exact ⟨i, by omega, hnone⟩
      | some mac =>
          rw [hread] at hbefore
          cases hbyte : byte n with
          | none =>
              simp only [List.foldlM_cons, List.foldlM_nil, hbyte, Option.map_none, bind,
                Option.bind_some, Option.bind_none]
              exact ⟨n, by omega, hbyte⟩
          | some value =>
              simp only [List.foldlM_cons, List.foldlM_nil, hbyte, Option.map_some, bind,
                Option.bind_some, pure]
              intro i hi
              have hinside : n < mac.bytes.length := by
                rw [mac.size]
                exact hn
              rcases Nat.lt_succ_iff_lt_or_eq.mp hi with hi | rfl
              · rw [hbefore i hi, MacAddress.set, List.getElem?_set_ne (by omega)]
              · rw [hbyte, MacAddress.set, List.getElem?_set_self hinside]

/-- Seventeen characters hold six groups of two. -/
private theorem exists_group {str : Bytes} (hlength : str.length = 17) {i : Nat}
    (hi : i < macAddressSize) : ∃ first second, macGroup str i = [first, second] := by
  have hi : i < 6 := hi
  refine List.length_eq_two.mp ?_
  rw [macGroup, List.length_take, List.length_drop, hlength]
  omega

/-- Behind its delimiter a byte is what the number reader makes of its group. -/
private theorem readByte_eq (str : Bytes) (delimiter : UInt8) {i : Nat}
    (h : i = 0 ∨ str[i * 3 - 1]? = some delimiter) :
    MacAddress.readByte str delimiter i = (stoi (macGroup str i)).map UInt8.ofInt := by
  refine if_neg ?_
  rintro ⟨hpos, hother⟩
  rcases h with rfl | h
  · exact absurd hpos (Nat.lt_irrefl 0)
  · rw [List.getD_eq_getElem?_getD, h, Option.getD_some] at hother
    exact hother rfl

/-- A text that is laid out has its delimiter in front of every group but the first. -/
private theorem delimiter_before {str : Bytes} {delimiter : UInt8}
    (hat : ∀ i < 5, str[i * 3 + 2]? = some delimiter) {i : Nat} (hi : i < macAddressSize) :
    i = 0 ∨ str[i * 3 - 1]? = some delimiter := by
  have hi : i < 6 := hi
  rcases Nat.eq_zero_or_pos i with hzero | hpos
  · exact .inl hzero
  · have hbefore := hat (i - 1) (by omega)
    rw [show (i - 1) * 3 + 2 = i * 3 - 1 by omega] at hbefore
    exact .inr hbefore

/-- **What is read**: an address whose groups all are numbers, byte by byte, or the
zero address. -/
private theorem fromString_spec (str : Bytes) :
    (LaidOut str ∧ ∀ i < macAddressSize, ∃ value, stoi (macGroup str i) = some value ∧
        (MacAddress.fromString str).bytes[i]? = some (UInt8.ofInt value)) ∨
      (MacAddress.fromString str = .zero ∧
        ¬(LaidOut str ∧ ∀ i < macAddressSize, PassesForNumber (macGroup str i))) := by
  simp only [MacAddress.fromString]
  split
  · next hlength => exact .inr ⟨rfl, fun h => hlength h.1.1⟩
  · next hlength =>
      have hlength : str.length = 17 := Decidable.not_not.mp hlength
      split
      · next hdelimiter =>
          refine .inr ⟨rfl, ?_⟩
          rintro ⟨⟨_, delimiter, hcolon, hat⟩, _⟩
          have hsecond := hat 0 (by decide)
          rw [List.getD_eq_getElem?_getD, show str[2]? = some delimiter from hsecond,
            Option.getD_some] at hdelimiter
          exact hcolon.elim hdelimiter.1 hdelimiter.2
      · next hdelimiter =>
          have hset := foldlM_set (MacAddress.readByte str (str.getD 2 0)) (le_refl _)
          split at hset
          · next hnone =>
              -- some group has another delimiter in front of it, or is no number
              rw [hnone]
              refine .inr ⟨rfl, ?_⟩
              rintro ⟨⟨_, delimiter, _, hat⟩, hnumbers⟩
              obtain ⟨i, hi, hbyte⟩ := hset
              have hsecond := hat 0 (by decide)
              obtain ⟨value, hvalue, _⟩ := stoi_passes (hnumbers i hi)
              rw [List.getD_eq_getElem?_getD, show str[2]? = some delimiter from hsecond,
                Option.getD_some, readByte_eq str delimiter (delimiter_before hat hi), hvalue]
                at hbyte
              cases hbyte
          · next mac hsome =>
              rw [hsome]
              have hread : ∀ i < macAddressSize, ∃ byte,
                  MacAddress.readByte str (str.getD 2 0) i = some byte := by
                intro i hi
                rw [hset i hi]
                exact ⟨_, List.getElem?_eq_getElem (by rw [mac.size]; exact hi)⟩
              have hat : ∀ i < 5, str[i * 3 + 2]? = some (str.getD 2 0) := by
                intro i hi
                obtain ⟨byte, hbyte⟩ := hread (i + 1) (Nat.succ_lt_succ hi)
                have hinside : i * 3 + 2 < str.length := by omega
                by_contra hother
                refine absurd (hbyte.symm.trans (if_pos ⟨Nat.succ_pos i, ?_⟩)) (by simp)
                rw [show (i + 1) * 3 - 1 = i * 3 + 2 by omega, List.getD_eq_getElem _ _ hinside]
                intro heq
                exact hother ((List.getElem?_eq_getElem hinside).trans (congrArg some heq))
              refine .inl ⟨⟨hlength, str.getD 2 0, ?_, hat⟩, ?_⟩
              · by_contra hneither
                rw [not_or] at hneither
                exact hdelimiter hneither
              · intro i hi
                obtain ⟨byte, hbyte⟩ := hread i hi
                have hgroup := readByte_eq str (str.getD 2 0) (delimiter_before hat hi)
                rw [hbyte] at hgroup
                obtain ⟨value, hvalue, hvalue'⟩ := Option.map_eq_some_iff.mp hgroup.symm
                refine ⟨value, hvalue, ?_⟩
                rw [Option.getD_some, ← hset i hi, hbyte, hvalue']

/-! ## The result -/

/-- Addresses with the same six bytes are the same. -/
private theorem ext_bytes {mac mac' : MacAddress}
    (h : ∀ i < macAddressSize, mac.bytes[i]? = mac'.bytes[i]?) : mac = mac' := by
  have hbytes : mac.bytes = mac'.bytes := by
    refine List.ext_getElem? fun i => ?_
    by_cases hi : i < macAddressSize
    · exact h i hi
    · have hi : 6 ≤ i := Nat.le_of_not_lt hi
      rw [List.getElem?_eq_none (by rw [mac.size]; exact hi),
        List.getElem?_eq_none (by rw [mac'.size]; exact hi)]
  cases mac
  cases hbytes
  rfl

/-- An address whose bytes all are zero is the zero address. -/
private theorem eq_zero_iff (mac : MacAddress) :
    mac = .zero ↔ ∀ i < macAddressSize, mac.bytes[i]? = some 0 := by
  have hzero : ∀ i < macAddressSize, MacAddress.zero.bytes[i]? = some 0 := by decide
  constructor
  · rintro rfl
    exact hzero
  · exact fun h => ext_bytes fun i hi => (h i hi).trans (hzero i hi).symm

/-- A text is read as it should be exactly when it is not read leniently. -/
private theorem read_exactly_iff (str : Bytes) :
    (MacAddress.fromString str ≠ .zero → SaysAddress str (MacAddress.fromString str)) ↔
      ¬ReadLeniently str := by
  rcases fromString_spec str with ⟨hlaid, hread⟩ | ⟨hzero, hrefused⟩
  · have hnumbers : ∀ i < macAddressSize, PassesForNumber (macGroup str i) := by
      intro i hi
      by_contra hnot
      obtain ⟨first, second, hgroup⟩ := exists_group hlaid.1 hi
      obtain ⟨value, hvalue, _⟩ := hread i hi
      rw [hgroup] at hnot hvalue
      rw [stoi_refused hnot] at hvalue
      cases hvalue
    have hzero : MacAddress.fromString str = .zero ↔
        ∀ i < macAddressSize, AllZero (macGroup str i) := by
      rw [eq_zero_iff]
      refine forall_congr' fun i => forall_congr' fun hi => ?_
      obtain ⟨value, hvalue, hbyte⟩ := hread i hi
      obtain ⟨value', hvalue', _, hdigits⟩ := stoi_passes (hnumbers i hi)
      obtain rfl := Option.some.inj (hvalue.symm.trans hvalue')
      rw [hbyte, Option.some.injEq, hdigits]
    by_cases hpairs : ∀ i < macAddressSize, ∀ c ∈ macGroup str i, isHexDigit c = true
    · -- two digits are read as the number they spell
      refine ⟨?_, ?_⟩
      · rintro - ⟨_, _, ⟨i, hi, c, hc, hother⟩, _⟩
        exact absurd (hpairs i hi c hc) (by rw [hother]; decide)
      · rintro - -
        refine ⟨hlaid, fun i hi => ⟨hpairs i hi, ?_⟩⟩
        obtain ⟨value, hvalue, hbyte⟩ := hread i hi
        obtain ⟨value', hvalue', hpair, _⟩ := stoi_passes (hnumbers i hi)
        obtain rfl := Option.some.inj (hvalue.symm.trans hvalue')
        rw [hbyte, hpair (hpairs i hi), ofInt_natCast]
    · have hlenient : ∃ i < macAddressSize, ∃ c ∈ macGroup str i, isHexDigit c = false := by
        by_contra hall
        refine hpairs fun i hi c hc => ?_
        by_contra hother
        exact hall ⟨i, hi, c, hc, Bool.eq_false_iff.mpr hother⟩
      constructor
      · rintro hexact ⟨_, _, _, ⟨i, hi, c, hc, n, hn, hne⟩⟩
        have htold := hexact fun heq => hne (hzero.mp heq i hi c hc n hn)
        exact hpairs fun i hi => (htold.2 i hi).1
      · intro hnot hne
        refine absurd ⟨hlaid, hnumbers, hlenient, ?_⟩ hnot
        by_contra hall
        refine hne (hzero.mpr fun i hi c hc n hn => ?_)
        by_contra hdigit
        exact hall ⟨i, hi, c, hc, n, hn, hdigit⟩
  · exact ⟨fun _ h => hrefused ⟨h.laidOut, h.numbers⟩, fun _ hne => absurd hzero hne⟩

/-- A text is read as the address it says. -/
private theorem fromString_eq_of_text {str : Bytes} {mac : MacAddress} (h : SaysAddress str mac) :
    MacAddress.fromString str = mac := by
  obtain ⟨hlaid, htold⟩ := h
  have hnumbers : ∀ i < macAddressSize, PassesForNumber (macGroup str i) := by
    intro i hi
    obtain ⟨first, second, hgroup⟩ := exists_group hlaid.1 hi
    exact ⟨first, second, hgroup, .inl ((htold i hi).1 first (by rw [hgroup]; simp))⟩
  rcases fromString_spec str with ⟨_, hread⟩ | ⟨_, hrefused⟩
  · refine ext_bytes fun i hi => ?_
    obtain ⟨value, hvalue, hbyte⟩ := hread i hi
    obtain ⟨value', hvalue', hpair, _⟩ := stoi_passes (hnumbers i hi)
    obtain rfl := Option.some.inj (hvalue.symm.trans hvalue')
    rw [hbyte, (htold i hi).2, hpair (htold i hi).1, ofInt_natCast]
  · exact absurd ⟨hlaid, hnumbers⟩ hrefused

/-- A byte is written with two digits that spell it. -/
private theorem hexByte_spells (byte : UInt8) :
    (∀ c ∈ hexByte byte, isHexDigit c = true) ∧ UInt8.ofNat (hexNumber (hexByte byte)) = byte := by
  have hall : ∀ n < 256, (hexByte (UInt8.ofNat n)).all isHexDigit = true ∧
      hexNumber (hexByte (UInt8.ofNat n)) = n := by
    decide +kernel
  obtain ⟨hdigits, hnumber⟩ := hall byte.toNat byte.toNat_lt
  rw [UInt8.ofNat_toNat] at hdigits hnumber
  exact ⟨List.all_eq_true.mp hdigits, by rw [hnumber, UInt8.ofNat_toNat]⟩

/-- The text that is written for an address says it. -/
private theorem says_toString (mac : MacAddress) : SaysAddress mac.toString mac := by
  obtain ⟨bytes, hsize⟩ := mac
  -- there are six bytes, no more and no fewer
  rcases bytes with _ | ⟨_, _ | ⟨_, _ | ⟨_, _ | ⟨_, _ | ⟨_, _ | ⟨_, _ | ⟨_, _⟩⟩⟩⟩⟩⟩⟩
  case cons.cons.cons.cons.cons.cons.nil a b c d e f =>
    refine ⟨⟨rfl, colon, .inl rfl, ?_⟩, ?_⟩
    · intro i hi
      interval_cases i
      all_goals rfl
    · intro i hi
      interval_cases i
      · exact ⟨(hexByte_spells a).1, congrArg some (hexByte_spells a).2.symm⟩
      · exact ⟨(hexByte_spells b).1, congrArg some (hexByte_spells b).2.symm⟩
      · exact ⟨(hexByte_spells c).1, congrArg some (hexByte_spells c).2.symm⟩
      · exact ⟨(hexByte_spells d).1, congrArg some (hexByte_spells d).2.symm⟩
      · exact ⟨(hexByte_spells e).1, congrArg some (hexByte_spells e).2.symm⟩
      · exact ⟨(hexByte_spells f).1, congrArg some (hexByte_spells f).2.symm⟩
  all_goals exact absurd hsize (by simp)

/-- **Addresses as text**: an address that is written is read back, and what is read
as an address is the text of that address exactly when it is not read leniently. -/
theorem mac_text_exact_iff (mac : MacAddress) (str : Bytes) :
    MacAddress.fromString mac.toString = mac ∧
      ((MacAddress.fromString str ≠ .zero → SaysAddress str (MacAddress.fromString str)) ↔
        ¬ReadLeniently str) :=
  ⟨fromString_eq_of_text (says_toString mac), read_exactly_iff str⟩

/-- A minus before a digit is read as the negative number, and that as a byte. -/
theorem mac_text_lenient :
    MacAddress.fromString (bytes "-1:22:33:44:55:6g") =
        { bytes := [0xFF, 0x22, 0x33, 0x44, 0x55, 0x06], size := rfl } ∧
      ¬(∀ str : Bytes, MacAddress.fromString str ≠ .zero →
        SaysAddress str (MacAddress.fromString str)) := by
  have hread : MacAddress.fromString (bytes "-1:22:33:44:55:6g") =
      { bytes := [0xFF, 0x22, 0x33, 0x44, 0x55, 0x06], size := rfl } := by
    decide +kernel
  refine ⟨hread, fun hall => ?_⟩
  have htold := hall (bytes "-1:22:33:44:55:6g") (by rw [hread]; decide)
  have hdigit := (htold.2 0 (by decide)).1 minusSign (by decide +kernel)
  exact absurd hdigit (by decide)

end WireLab
