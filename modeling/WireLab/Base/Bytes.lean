import Mathlib

/-!
# Byte strings

Strings that reach a program from outside are byte lists. This module has the
pieces every such program uses: literals (`bytes`), decimal numerals
(`decimal`), and the fact that a length-prefixed field can be read back
(`lengthPrefixed_inj`), which is what makes a composite key unambiguous.
-/

namespace Base

/-- A string as the bytes it is made of. -/
abbrev Bytes := List UInt8

instance : LawfulBEq Bytes := inferInstance

/-- The bytes of a program text literal. -/
def bytes (s : String) : Bytes := s.toList.map fun c => c.toNat.toUInt8

/-- The decimal numeral of `n`. -/
def decimal (n : Nat) : Bytes := (Nat.toDigits 10 n).map fun c => c.toNat.toUInt8

/-- Whether a byte is a decimal digit. -/
def isDigit (c : UInt8) : Bool := 0x30 ≤ c && c ≤ 0x39

/-- The separator used between a length and the field it measures. -/
def colon : UInt8 := 0x3A

/-- A field preceded by its own length. -/
def lengthPrefixed (field : Bytes) : Bytes := decimal field.length ++ colon :: field

private theorem isDigit_bounds {c : Char} (hc : c.isDigit = true) :
    48 ≤ c.toNat ∧ c.toNat ≤ 57 :=
  Char.isDigit_iff_toNat.mp hc

private theorem toNat_toUInt8 {c : Char} (hc : c.isDigit = true) :
    c.toNat.toUInt8.toNat = c.toNat := by
  have hbounds := isDigit_bounds hc
  simp only [Nat.toUInt8, UInt8.toNat_ofNat']
  omega

private theorem isDigit_of_mem_toDigits {n : Nat} {c : Char} (hc : c ∈ Nat.toDigits 10 n) :
    c.isDigit = true :=
  Nat.isDigit_of_mem_toDigits (by decide) (by decide) hc

theorem decimal_ne_nil (n : Nat) : decimal n ≠ [] := fun h =>
  Nat.toDigits_ne_nil (List.map_eq_nil_iff.mp h)

/-- A number below a power of ten has no more digits than its exponent. -/
theorem length_decimal_le {n digits : Nat} (hdigits : 0 < digits) (hn : n < 10 ^ digits) :
    (decimal n).length ≤ digits := by
  rw [decimal, List.length_map]
  exact Nat.toDigits_length 10 n digits hdigits hn

theorem isDigit_of_mem_decimal {n : Nat} {c : UInt8} (hc : c ∈ decimal n) : isDigit c = true := by
  obtain ⟨d, hd, rfl⟩ := List.mem_map.mp hc
  have hdigit := isDigit_of_mem_toDigits hd
  simp only [isDigit, Bool.and_eq_true, decide_eq_true_eq, UInt8.le_iff_toNat_le,
    toNat_toUInt8 hdigit]
  exact isDigit_bounds hdigit

/-- The value of some digits after others. -/
def digitsFrom (value : Nat) (digits : Bytes) : Nat :=
  digits.foldl (fun value c => value * 10 + (c.toNat - 0x30)) value

private theorem digitsFrom_map {cs : List Char} (hcs : ∀ c ∈ cs, c.isDigit = true) (value : Nat) :
    digitsFrom value (cs.map fun c => c.toNat.toUInt8) = Nat.ofDigitChars 10 cs value := by
  induction cs generalizing value with
  | nil =>
      rw [Nat.ofDigitChars_nil]
      rfl
  | cons c cs ih =>
      rw [Nat.ofDigitChars_cons, ← ih fun d hd => hcs d (List.mem_cons_of_mem _ hd)]
      simp only [digitsFrom, List.map_cons, List.foldl_cons, toNat_toUInt8 (hcs c List.mem_cons_self)]
      rw [Nat.mul_comm]
      rfl

/-- The digits of a numeral have its value. -/
theorem digitsFrom_decimal (n : Nat) : digitsFrom 0 (decimal n) = n := by
  rw [decimal, digitsFrom_map fun _ => isDigit_of_mem_toDigits, Nat.ofDigitChars_ten_toDigits]

/-- Two numbers with the same numeral are equal. -/
theorem decimal_inj {m n : Nat} (h : decimal m = decimal n) : m = n := by
  rw [← digitsFrom_decimal m, h, digitsFrom_decimal n]

/-- A numeral has no separator in it. -/
theorem colon_notMem_decimal (n : Nat) : colon ∉ decimal n := fun h =>
  absurd (isDigit_of_mem_decimal h) (by decide)

/-- A separator splits a list in one way: what is before it has none. -/
theorem split_inj {sep : UInt8} {as bs xs ys : Bytes} (has : sep ∉ as)
    (hbs : sep ∉ bs) (h : as ++ sep :: xs = bs ++ sep :: ys) : as = bs ∧ xs = ys := by
  induction as generalizing bs with
  | nil =>
      cases bs with
      | nil => simpa using h
      | cons b bs =>
          simp only [List.nil_append, List.cons_append, List.cons.injEq] at h
          exact absurd h.1 (fun heq => hbs (by simp [heq]))
  | cons a as ih =>
      cases bs with
      | nil =>
          simp only [List.nil_append, List.cons_append, List.cons.injEq] at h
          exact absurd h.1 (fun heq => has (by simp [heq]))
      | cons b bs =>
          simp only [List.cons_append, List.cons.injEq] at h
          obtain ⟨hhead, htail⟩ := h
          have hrest := ih (fun hm => has (by simp [hm])) (fun hm => hbs (by simp [hm])) htail
          exact ⟨by rw [hhead, hrest.1], hrest.2⟩

/-- **A length-prefixed field can be read back**, whatever follows it. -/
theorem lengthPrefixed_inj {a b x y : Bytes}
    (h : lengthPrefixed a ++ x = lengthPrefixed b ++ y) : a = b ∧ x = y := by
  simp only [lengthPrefixed, List.append_assoc, List.cons_append] at h
  obtain ⟨hlen, hrest⟩ := split_inj (colon_notMem_decimal _) (colon_notMem_decimal _) h
  exact List.append_inj hrest (decimal_inj hlen)

end Base
