import Mathlib.Logic.Function.Iterate
import WireLab.Model.Pcap

/-!
# Capture timestamps

`ticks_to_nanoseconds` against the exact time. Decimal resolutions come out exactly
whenever the time fits in 64 bits; binary ones go through the product of the ticks and
10⁹, which wraps, and from an exponent of 64 on they are zero (`ticks_exact_iff`).
-/

namespace WireLab

open Base Pcap

/-- The exact nanoseconds of some ticks, rounded down. -/
def exactNanoseconds (ticks resolution : Nat) : Nat :=
  if resolution < 128 then ticks * 10 ^ 9 / 10 ^ resolution
  else ticks * 10 ^ 9 / 2 ^ (resolution - 128)

theorem toNat_iterate_mul (count : Nat) (value : UInt64) :
    ((fun nanoseconds : UInt64 => nanoseconds * 10)^[count] value).toNat =
      value.toNat * 10 ^ count % 2 ^ 64 := by
  induction count generalizing value with
  | zero =>
      rw [Function.iterate_zero_apply, pow_zero, mul_one]
      exact (Nat.mod_eq_of_lt value.toNat_lt).symm
  | succ count ih =>
      have hten : (10 : UInt64).toNat = 10 := rfl
      have hpower : 10 ^ (count + 1) = 10 * 10 ^ count := pow_succ' 10 count
      rw [Function.iterate_succ_apply, ih, UInt64.toNat_mul, hten, Nat.mod_mul_mod, hpower, mul_assoc]

theorem toNat_iterate_div (count : Nat) (value : UInt64) :
    ((fun nanoseconds : UInt64 => nanoseconds / 10)^[count] value).toNat =
      value.toNat / 10 ^ count := by
  induction count generalizing value with
  | zero => rw [Function.iterate_zero_apply, pow_zero, Nat.div_one]
  | succ count ih =>
      have hten : (10 : UInt64).toNat = 10 := rfl
      have hpower : 10 ^ (count + 1) = 10 * 10 ^ count := pow_succ' 10 count
      rw [Function.iterate_succ_apply, ih, UInt64.toNat_div, hten, Nat.div_div_eq_div_mul, hpower]

/-- The high bit says which half a byte is in, and the rest how far into it. -/
theorem resolution_bits (resolution : UInt8) :
    (resolution &&& 0x80 ≠ 0 ↔ 128 ≤ resolution.toNat) ∧
      (resolution &&& 0x7f).toNat = resolution.toNat % 128 := by
  have hall : ∀ n < 256, (n &&& 128 ≠ 0 ↔ 128 ≤ n) ∧ n &&& 127 = n % 128 := by decide +kernel
  obtain ⟨hhigh, hlow⟩ := hall resolution.toNat resolution.toNat_lt
  refine ⟨?_, ?_⟩
  · rw [← hhigh, Ne, ← UInt8.toNat_inj, UInt8.toNat_and]
    rfl
  · rw [UInt8.toNat_and, ← hlow]
    rfl

/-- Decimal resolutions: the ticks are scaled up to nanoseconds, or down. -/
theorem ticksToNanoseconds_decimal (ticks : UInt64) {resolution : UInt8}
    (h : resolution.toNat < 128) :
    (ticksToNanoseconds ticks resolution).toNat =
      ticks.toNat * 10 ^ (9 - resolution.toNat) % 2 ^ 64 / 10 ^ (resolution.toNat - 9) := by
  have hclear : ¬resolution &&& 0x80 ≠ 0 := fun hset =>
    absurd ((resolution_bits resolution).1.mp hset) (by omega)
  rw [ticksToNanoseconds, if_neg hclear]
  simp only
  rw [toNat_iterate_div, toNat_iterate_mul]

/-- Binary resolutions: the product with 10⁹ wraps, and is shifted down. -/
theorem ticksToNanoseconds_binary (ticks : UInt64) {resolution : UInt8}
    (h : 128 ≤ resolution.toNat) :
    (ticksToNanoseconds ticks resolution).toNat =
      if 64 ≤ resolution.toNat - 128 then 0
      else ticks.toNat * 10 ^ 9 % 2 ^ 64 / 2 ^ (resolution.toNat - 128) := by
  obtain ⟨hhigh, hlow⟩ := resolution_bits resolution
  have hpower : (resolution &&& 0x7f).toNat = resolution.toNat - 128 := by
    have := resolution.toNat_lt
    omega
  have hfits : (resolution &&& 0x7f) ≥ 64 ↔ 64 ≤ resolution.toNat - 128 := by
    rw [ge_iff_le, UInt8.le_iff_toNat_le, hpower]
    rfl
  rw [ticksToNanoseconds, if_pos (hhigh.mpr h)]
  by_cases hlarge : 64 ≤ resolution.toNat - 128
  · rw [if_pos hlarge, if_pos (hfits.mpr hlarge)]
    rfl
  · have hone : (1 : UInt64).toNat = 1 := rfl
    have hbillion : (1000000000 : UInt64).toNat = 10 ^ 9 := rfl
    have hshift : ((1 : UInt64) <<< (resolution &&& 0x7f).toUInt64).toNat =
        2 ^ (resolution.toNat - 128) := by
      rw [UInt64.toNat_shiftLeft, UInt8.toNat_toUInt64, hpower, hone,
        Nat.mod_eq_of_lt (by omega : resolution.toNat - 128 < 64), Nat.one_shiftLeft]
      exact Nat.mod_eq_of_lt (Nat.pow_lt_pow_right (by decide) (by omega))
    rw [if_neg hlarge, if_neg (mt hfits.mp hlarge), UInt64.toNat_div, UInt64.toNat_mul, hbillion,
      hshift]

/-- A decimal resolution converts exactly what fits. -/
theorem decimal_exact (ticks : UInt64) {resolution : UInt8} (h : resolution.toNat < 128)
    (hfits : exactNanoseconds ticks.toNat resolution.toNat < 2 ^ 64) :
    (ticksToNanoseconds ticks resolution).toNat =
      exactNanoseconds ticks.toNat resolution.toNat := by
  rw [ticksToNanoseconds_decimal ticks h]
  unfold exactNanoseconds at hfits ⊢
  rw [if_pos h] at hfits ⊢
  generalize resolution.toNat = decimals at *
  rcases Nat.le_total decimals 9 with hup | hdown
  · -- Coarser than nanoseconds: the quotient is a multiple.
    have hsplit : 10 ^ 9 = 10 ^ (9 - decimals) * 10 ^ decimals := by
      rw [← pow_add, Nat.sub_add_cancel hup]
    rw [hsplit, ← mul_assoc, Nat.mul_div_cancel _ (Nat.pow_pos (by decide))] at hfits ⊢
    rw [Nat.sub_eq_zero_of_le hup, pow_zero, Nat.div_one, Nat.mod_eq_of_lt hfits]
  · -- Finer: the 10⁹ cancel.
    have hsplit : 10 ^ decimals = 10 ^ (decimals - 9) * 10 ^ 9 := by
      rw [← pow_add, Nat.sub_add_cancel hdown]
    rw [hsplit, Nat.mul_div_mul_right _ _ (by decide), Nat.sub_eq_zero_of_le hdown, pow_zero,
      mul_one, Nat.mod_eq_of_lt ticks.toNat_lt]

/-- A wrapped product is off by at least one behind any shift. -/
theorem wrapped_div_lt {product power : Nat} (hpower : power < 64) (h : 2 ^ 64 ≤ product) :
    product % 2 ^ 64 / 2 ^ power < product / 2 ^ power := by
  have hle : product % 2 ^ 64 + 2 ^ 64 ≤ product := by
    have hsplit := Nat.mod_add_div product (2 ^ 64)
    have hquotient : 1 ≤ product / 2 ^ 64 := (Nat.one_le_div_iff (by decide)).mpr h
    omega
  have hrest : product < 2 ^ power * (product / 2 ^ power + 1) :=
    Nat.lt_mul_div_succ _ (Nat.pow_pos (by decide))
  have hstep : 2 ^ power ≤ 2 ^ 64 := Nat.pow_le_pow_right (by decide) hpower.le
  refine Nat.div_lt_of_lt_mul ?_
  rw [Nat.mul_add, Nat.mul_one] at hrest
  omega

/-- **Timestamps are converted exactly unless a binary resolution overflows.** For
every 64-bit tick count and every resolution byte, the conversion returns the exact
time whenever that fits in 64 bits, if and only if the resolution is decimal, or the
ticks times 10⁹ are less than 2⁶⁴ (for an exponent from 64 on, than the power itself),
or the time does not fit. -/
theorem ticks_exact_iff (ticks : UInt64) (resolution : UInt8) :
    (exactNanoseconds ticks.toNat resolution.toNat < 2 ^ 64 →
        (ticksToNanoseconds ticks resolution).toNat =
          exactNanoseconds ticks.toNat resolution.toNat) ↔
      resolution.toNat < 128 ∨
        ticks.toNat * 10 ^ 9 < 2 ^ max 64 (resolution.toNat - 128) ∨
        2 ^ 64 ≤ exactNanoseconds ticks.toNat resolution.toNat := by
  rcases Nat.lt_or_ge resolution.toNat 128 with hdecimal | hbinary
  · exact iff_of_true (decimal_exact ticks hdecimal) (.inl hdecimal)
  · have hexact : exactNanoseconds ticks.toNat resolution.toNat =
        ticks.toNat * 10 ^ 9 / 2 ^ (resolution.toNat - 128) := if_neg (not_lt.mpr hbinary)
    rw [hexact, ticksToNanoseconds_binary ticks hbinary]
    have hticks : ticks.toNat * 10 ^ 9 < 2 ^ 94 :=
      lt_of_lt_of_le (Nat.mul_lt_mul_of_pos_right ticks.toNat_lt (by decide)) (by decide)
    generalize ticks.toNat * 10 ^ 9 = product at *
    have hnot : ¬resolution.toNat < 128 := not_lt.mpr hbinary
    simp only [hnot, false_or]
    generalize resolution.toNat - 128 = power at *
    have hpos : 0 < 2 ^ power := Nat.pow_pos (by decide)
    rcases Nat.lt_or_ge power 64 with hsmall | hlarge
    · rw [if_neg (not_le.mpr hsmall), max_eq_left hsmall.le]
      constructor
      · intro hholds
        by_contra hneither
        rw [not_or, not_lt, not_le] at hneither
        exact absurd (hholds hneither.2) (wrapped_div_lt hsmall hneither.1).ne
      · rintro (hfits | hlong) hshort
        · rw [Nat.mod_eq_of_lt hfits]
        · exact absurd hshort (not_lt.mpr hlong)
    · rw [if_pos hlarge, max_eq_right hlarge]
      have hshort : product / 2 ^ power < 2 ^ 64 := by
        refine Nat.div_lt_of_lt_mul (lt_of_lt_of_le hticks ?_)
        calc 2 ^ 94 ≤ 2 ^ 64 * 2 ^ 64 := by decide
          _ ≤ 2 ^ power * 2 ^ 64 :=
            Nat.mul_le_mul_right _ (Nat.pow_le_pow_right (by decide) hlarge)
      constructor
      · intro hholds
        exact .inl ((Nat.div_eq_zero_iff_lt hpos).mp (hholds hshort).symm)
      · rintro (hfits | hlong) _
        · exact (Nat.div_eq_of_lt hfits).symm
        · exact absurd hshort (not_lt.mpr hlong)

/-- Twenty seconds in units of 2⁻³² seconds. -/
theorem ticks_wrap :
    exactNanoseconds 85899345920 160 = 20000000000 ∧
      ticksToNanoseconds 85899345920 160 = 2820130816 ∧
      ¬(exactNanoseconds (85899345920 : UInt64).toNat (160 : UInt8).toNat < 2 ^ 64 →
        (ticksToNanoseconds 85899345920 160).toNat =
          exactNanoseconds (85899345920 : UInt64).toNat (160 : UInt8).toNat) := by
  decide +kernel

end WireLab
