import WireLab.Logic.FaultRuns

/-!
# Transmission times

`transmission_time` adds the bit rate to the scaled bits to round up, in 64 bits, and
its guard covers only the whole seconds. `transmissionTimeChecked` has no value where
64 bits do not hold an intermediate. Frames of at most 65535 bytes take exactly their
bits over the rate, unless the sum does not fit (`transmission_time_exact_iff`).
-/

namespace WireLab

open Base

/-- A product that 64 bits hold. -/
def checkedTimes (a b : UInt64) : Option UInt64 :=
  if a.toNat * b.toNat < 2 ^ 64 then some (a * b) else none

/-- A sum that 64 bits hold. -/
def checkedPlus (a b : UInt64) : Option UInt64 :=
  if a.toNat + b.toNat < 2 ^ 64 then some (a + b) else none

/-- A difference that is not negative. -/
def checkedMinus (a b : UInt64) : Option UInt64 :=
  if b.toNat ≤ a.toNat then some (a - b) else none

theorem checkedTimes_eq_some {a b c : UInt64} :
    checkedTimes a b = some c ↔ a.toNat * b.toNat < 2 ^ 64 ∧ a * b = c := by
  unfold checkedTimes
  split <;> simp_all

theorem checkedPlus_eq_some {a b c : UInt64} :
    checkedPlus a b = some c ↔ a.toNat + b.toNat < 2 ^ 64 ∧ a + b = c := by
  unfold checkedPlus
  split <;> simp_all

theorem checkedMinus_eq_some {a b c : UInt64} :
    checkedMinus a b = some c ↔ b.toNat ≤ a.toNat ∧ a - b = c := by
  unfold checkedMinus
  split <;> simp_all

namespace FaultEngine

/-- The nanoseconds of some bits, with their arithmetic checked: the whole seconds and
the rest are scaled, and the rest is rounded up. -/
def nanosecondsChecked (bits bitsPerSecond : UInt64) : Option UInt64 :=
  (checkedTimes (bits / bitsPerSecond) nanosecondsPerSecond).bind fun whole =>
    (checkedTimes (bits % bitsPerSecond) nanosecondsPerSecond).bind fun part =>
      (checkedPlus part bitsPerSecond).bind fun raised =>
        (checkedMinus raised 1).bind fun rounded => checkedPlus whole (rounded / bitsPerSecond)

/-- `transmissionTime`, with its arithmetic checked. -/
def transmissionTimeChecked (frameBytes bitsPerSecond : UInt64) : Option Int :=
  (checkedTimes frameBytes 8).bind fun bits =>
    if bits = 0 then some 0
    else if bits / bitsPerSecond > UInt64.ofNat (2 ^ 64 - 1) / nanosecondsPerSecond then
      some nanosecondsMax
    else
      (nanosecondsChecked bits bitsPerSecond).map fun nanoseconds =>
        if (nanoseconds.toNat : Int) > nanosecondsMax then nanosecondsMax else nanoseconds.toNat

/-- The bits of a frame over a bit rate in nanoseconds, rounded up, or the longest time
there is. -/
def exactTime (frameBytes bitsPerSecond : Nat) : Int :=
  min ⌈(8 * frameBytes * 10 ^ 9 : ℚ) / bitsPerSecond⌉ (2 ^ 63 - 1)

/-- A frame takes exactly its time, and no intermediate overflows. -/
structure TransmitsExactly (frameBytes bitsPerSecond : UInt64) : Prop where
  time : transmissionTime frameBytes bitsPerSecond =
    exactTime frameBytes.toNat bitsPerSecond.toNat
  checked : transmissionTimeChecked frameBytes bitsPerSecond =
    some (exactTime frameBytes.toNat bitsPerSecond.toNat)
  positive : frameBytes ≠ 0 → 0 < transmissionTime frameBytes bitsPerSecond

/-- Rounding up in whole numbers. -/
theorem ceil_natCast_div (n : Nat) {d : Nat} (hd : 0 < d) :
    ⌈(n / d : ℚ)⌉ = ((n + d - 1) / d : Nat) := by
  have hle : (n + d - 1) / d * d ≤ n + d - 1 := Nat.div_mul_le_self _ _
  have hlt : n + d - 1 < d * ((n + d - 1) / d + 1) := Nat.lt_mul_div_succ _ hd
  generalize (n + d - 1) / d = q at *
  have hd' : (0 : ℚ) < d := by exact_mod_cast hd
  rw [Int.ceil_eq_iff]
  constructor
  · rw [lt_div_iff₀ hd']
    have h : q * d < n + d := by omega
    have h' : (q * d : ℚ) < n + d := by exact_mod_cast h
    push_cast
    linarith
  · rw [div_le_iff₀ hd']
    have h : n ≤ q * d := by
      rw [Nat.mul_add] at hlt
      rw [Nat.mul_comm]
      omega
    exact_mod_cast h

/-- The longest time is out of reach of a frame. -/
theorem exactTime_eq {frameBytes bitsPerSecond : Nat} (hframe : frameBytes ≤ 65535)
    (hpos : 0 < bitsPerSecond) :
    exactTime frameBytes bitsPerSecond =
      ((frameBytes * 8 * 10 ^ 9 + bitsPerSecond - 1) / bitsPerSecond : Nat) := by
  have hceil := ceil_natCast_div (frameBytes * 8 * 10 ^ 9) hpos
  have hscaled : (8 * frameBytes * 10 ^ 9 : ℚ) = ((frameBytes * 8 * 10 ^ 9 : Nat) : ℚ) := by
    push_cast
    ring
  have hshort : (frameBytes * 8 * 10 ^ 9 + bitsPerSecond - 1) / bitsPerSecond ≤
      frameBytes * 8 * 10 ^ 9 := by
    rw [Nat.div_le_iff_le_mul_add_pred hpos]
    have : frameBytes * 8 * 10 ^ 9 ≤ bitsPerSecond * (frameBytes * 8 * 10 ^ 9) :=
      Nat.le_mul_of_pos_left _ hpos
    omega
  unfold exactTime
  rw [hscaled, hceil, min_eq_left]
  have hsmall : frameBytes * 8 * 10 ^ 9 ≤ 9223372036854775807 := by omega
  exact Int.ofNat_le.mpr (hshort.trans hsmall)

variable {frameBytes bitsPerSecond : UInt64}

/-- What the checked arithmetic returns is what the wrapping one does, and nothing
overflowed on the way. -/
theorem nanosecondsChecked_eq_some {bits nanoseconds : UInt64} :
    nanosecondsChecked bits bitsPerSecond = some nanoseconds ↔
      ((bits / bitsPerSecond).toNat * nanosecondsPerSecond.toNat < 2 ^ 64 ∧
        (bits % bitsPerSecond).toNat * nanosecondsPerSecond.toNat < 2 ^ 64 ∧
        (bits % bitsPerSecond * nanosecondsPerSecond).toNat + bitsPerSecond.toNat < 2 ^ 64 ∧
        (1 : UInt64).toNat ≤
          (bits % bitsPerSecond * nanosecondsPerSecond + bitsPerSecond).toNat ∧
        (bits / bitsPerSecond * nanosecondsPerSecond).toNat +
          ((bits % bitsPerSecond * nanosecondsPerSecond + bitsPerSecond - 1) /
            bitsPerSecond).toNat < 2 ^ 64) ∧
      bits / bitsPerSecond * nanosecondsPerSecond +
        (bits % bitsPerSecond * nanosecondsPerSecond + bitsPerSecond - 1) / bitsPerSecond =
          nanoseconds := by
  simp only [nanosecondsChecked, Option.bind_eq_some_iff, checkedTimes_eq_some,
    checkedPlus_eq_some, checkedMinus_eq_some]
  constructor
  · rintro ⟨_, ⟨hwhole, rfl⟩, _, ⟨hpart, rfl⟩, _, ⟨hraised, rfl⟩, _, ⟨hrounded, rfl⟩, htotal, rfl⟩
    exact ⟨⟨hwhole, hpart, hraised, hrounded, htotal⟩, rfl⟩
  · rintro ⟨⟨hwhole, hpart, hraised, hrounded, htotal⟩, rfl⟩
    exact ⟨_, ⟨hwhole, rfl⟩, _, ⟨hpart, rfl⟩, _, ⟨hraised, rfl⟩, _, ⟨hrounded, rfl⟩, htotal, rfl⟩

/-- Below the rate the bits are their own remainder; at and above it everything is
small. -/
theorem scaled_fits_iff {bits : Nat} (rate : Nat) (hbound : bits ≤ 524280) :
    bits % rate * 10 ^ 9 + rate < 2 ^ 64 ↔ bits * 10 ^ 9 + rate < 2 ^ 64 := by
  rcases Nat.lt_or_ge bits rate with hlt | hge
  · rw [Nat.mod_eq_of_lt hlt]
  · have hrate : rate ≤ 524280 := hge.trans hbound
    have hless : bits % rate ≤ 524280 := (Nat.mod_le _ _).trans hbound
    have hall : ∀ n ≤ 524280, n * 10 ^ 9 + rate < 2 ^ 64 := fun n hn =>
      lt_of_le_of_lt (Nat.add_le_add (Nat.mul_le_mul_right _ hn) hrate) (by decide)
    exact iff_of_true (hall _ hless) (hall _ hbound)

/-- The sum that rounds up decides: for the bits of a frame everything else fits. -/
theorem nanosecondsChecked_isSome {bits : UInt64} (hbound : bits.toNat ≤ 524280)
    (hpos : 0 < bitsPerSecond.toNat) :
    (nanosecondsChecked bits bitsPerSecond).isSome = true ↔
      bits.toNat * 10 ^ 9 + bitsPerSecond.toNat < 2 ^ 64 := by
  have hunit : nanosecondsPerSecond.toNat = 10 ^ 9 := rfl
  have hone : (1 : UInt64).toNat = 1 := rfl
  have hfew : bits.toNat / bitsPerSecond.toNat ≤ 524280 := (Nat.div_le_self _ _).trans hbound
  have hless : bits.toNat % bitsPerSecond.toNat ≤ 524280 := (Nat.mod_le _ _).trans hbound
  have hwhole : (bits / bitsPerSecond).toNat * nanosecondsPerSecond.toNat ≤ 524280 * 10 ^ 9 := by
    rw [UInt64.toNat_div, hunit]
    exact Nat.mul_le_mul_right _ hfew
  have hpart : (bits % bitsPerSecond).toNat * nanosecondsPerSecond.toNat ≤ 524280 * 10 ^ 9 := by
    rw [UInt64.toNat_mod, hunit]
    exact Nat.mul_le_mul_right _ hless
  have hwhole' : (bits / bitsPerSecond * nanosecondsPerSecond).toNat ≤ 524280 * 10 ^ 9 := by
    rw [UInt64.toNat_mul]
    exact (Nat.mod_le _ _).trans hwhole
  have hpart' : (bits % bitsPerSecond * nanosecondsPerSecond).toNat =
      bits.toNat % bitsPerSecond.toNat * 10 ^ 9 := by
    rw [UInt64.toNat_mul, UInt64.toNat_mod, hunit]
    exact Nat.mod_eq_of_lt (lt_of_le_of_lt (Nat.mul_le_mul_right _ hless) (by decide))
  have hsum := scaled_fits_iff bitsPerSecond.toNat hbound
  rw [Option.isSome_iff_exists]
  constructor
  · rintro ⟨_, hsome⟩
    obtain ⟨⟨_, _, hraised, _⟩, _⟩ := nanosecondsChecked_eq_some.mp hsome
    rw [hpart'] at hraised
    exact hsum.mp hraised
  · intro hfits
    have hraised := hsum.mpr hfits
    have hraised' : (bits % bitsPerSecond * nanosecondsPerSecond + bitsPerSecond).toNat =
        bits.toNat % bitsPerSecond.toNat * 10 ^ 9 + bitsPerSecond.toNat := by
      rw [UInt64.toNat_add, hpart']
      exact Nat.mod_eq_of_lt hraised
    refine ⟨_, nanosecondsChecked_eq_some.mpr
      ⟨⟨lt_of_le_of_lt hwhole (by decide), lt_of_le_of_lt hpart (by decide), ?_, ?_, ?_⟩, rfl⟩⟩
    · rwa [hpart']
    · rw [hraised', hone]
      exact le_trans hpos (Nat.le_add_left _ _)
    · have hle : (1 : UInt64) ≤ bits % bitsPerSecond * nanosecondsPerSecond + bitsPerSecond := by
        rw [UInt64.le_iff_toNat_le, hraised', hone]
        exact le_trans hpos (Nat.le_add_left _ _)
      have hquotient : ((bits % bitsPerSecond * nanosecondsPerSecond + bitsPerSecond - 1) /
          bitsPerSecond).toNat ≤ 524280 * 10 ^ 9 + 1 := by
        rw [UInt64.toNat_div, UInt64.toNat_sub_of_le _ _ hle, hraised', hone,
          Nat.div_le_iff_le_mul_add_pred hpos]
        have hscaled : bits.toNat % bitsPerSecond.toNat * 10 ^ 9 ≤ 524280 * 10 ^ 9 :=
          Nat.mul_le_mul_right _ hless
        have hrate : 524280 * 10 ^ 9 ≤ bitsPerSecond.toNat * (524280 * 10 ^ 9) :=
          Nat.le_mul_of_pos_left _ hpos
        rw [Nat.mul_add]
        omega
      exact lt_of_le_of_lt (Nat.add_le_add hwhole' hquotient) (by decide)

/-- Where the checked arithmetic has a value, it is that of the wrapping one. -/
theorem time_of_checked {time : Int}
    (h : transmissionTimeChecked frameBytes bitsPerSecond = some time) :
    transmissionTime frameBytes bitsPerSecond = time := by
  obtain ⟨bits, hbits, h⟩ := Option.bind_eq_some_iff.mp h
  obtain ⟨_, rfl⟩ := checkedTimes_eq_some.mp hbits
  unfold transmissionTime
  simp only
  split_ifs at h ⊢ with hzero hmany hlong
  · exact Option.some.inj h
  · exact Option.some.inj h
  · obtain ⟨nanoseconds, hnanoseconds, rfl⟩ := Option.map_eq_some_iff.mp h
    obtain ⟨_, rfl⟩ := nanosecondsChecked_eq_some.mp hnanoseconds
    exact (if_pos hlong).symm
  · obtain ⟨nanoseconds, hnanoseconds, rfl⟩ := Option.map_eq_some_iff.mp h
    obtain ⟨_, rfl⟩ := nanosecondsChecked_eq_some.mp hnanoseconds
    exact (if_neg hlong).symm

/-- The checked arithmetic has a value exactly where the rounding fits. -/
theorem checked_isSome_iff (hframe : frameBytes.toNat ≤ 65535) (hrate : bitsPerSecond ≠ 0) :
    (transmissionTimeChecked frameBytes bitsPerSecond).isSome = true ↔
      frameBytes = 0 ∨ 8 * frameBytes.toNat * 10 ^ 9 + bitsPerSecond.toNat < 2 ^ 64 := by
  have hbyte : (8 : UInt64).toNat = 8 := rfl
  have hunit : nanosecondsPerSecond.toNat = 10 ^ 9 := rfl
  have hpos : 0 < bitsPerSecond.toNat := Nat.pos_of_ne_zero fun hzero =>
    hrate (UInt64.toNat_inj.mp hzero)
  have hbits : (frameBytes * 8).toNat = frameBytes.toNat * 8 := by
    rw [UInt64.toNat_mul, hbyte]
    exact Nat.mod_eq_of_lt (by omega)
  have hchecked : checkedTimes frameBytes 8 = some (frameBytes * 8) :=
    checkedTimes_eq_some.mpr ⟨by rw [hbyte]; omega, rfl⟩
  have hempty : frameBytes * 8 = 0 ↔ frameBytes = 0 := by
    rw [← UInt64.toNat_inj, ← UInt64.toNat_inj, hbits, UInt64.toNat_zero]
    omega
  unfold transmissionTimeChecked
  rw [hchecked, Option.bind_some]
  by_cases hzero : frameBytes = 0
  · rw [if_pos (hempty.mpr hzero)]
    exact iff_of_true rfl (.inl hzero)
  · have hseconds : ¬(frameBytes * 8) / bitsPerSecond >
        UInt64.ofNat (2 ^ 64 - 1) / nanosecondsPerSecond := by
      intro hmany
      have hmost : (UInt64.ofNat (2 ^ 64 - 1) / nanosecondsPerSecond).toNat = 18446744073 := rfl
      have hlt := UInt64.lt_iff_toNat_lt.mp hmany
      have hle : (frameBytes * 8).toNat / bitsPerSecond.toNat ≤ (frameBytes * 8).toNat :=
        Nat.div_le_self _ _
      rw [hmost, UInt64.toNat_div] at hlt
      omega
    rw [if_neg (mt hempty.mp hzero), if_neg hseconds, Option.isSome_map,
      nanosecondsChecked_isSome (by omega) hpos, hbits, Nat.mul_comm 8]
    simp only [hzero, false_or]

/-- **A frame takes exactly its time where the rounding fits.** For every frame of at
most 65535 bytes and every bit rate, the bits over the rate, rounded up to a
nanosecond, come out without an overflow on the way, and are positive for a frame that
is not empty, if and only if the frame is empty or its scaled bits and the rate
together fit in 64 bits. -/
theorem transmission_time_exact_iff (hframe : frameBytes.toNat ≤ 65535) (hrate : bitsPerSecond ≠ 0) :
    TransmitsExactly frameBytes bitsPerSecond ↔
      frameBytes = 0 ∨ 8 * frameBytes.toNat * 10 ^ 9 + bitsPerSecond.toNat < 2 ^ 64 := by
  have hpos : 0 < bitsPerSecond.toNat := Nat.pos_of_ne_zero fun hzero =>
    hrate (UInt64.toNat_inj.mp hzero)
  rw [← checked_isSome_iff hframe hrate]
  constructor
  · intro h
    rw [h.checked]
    rfl
  · intro hsome
    obtain ⟨time, hchecked⟩ := Option.isSome_iff_exists.mp hsome
    have htime := time_of_checked hchecked
    have hexact : time = exactTime frameBytes.toNat bitsPerSecond.toNat := by
      rw [← htime, exactTime_eq hframe hpos]
      rcases (checked_isSome_iff hframe hrate).mp hsome with rfl | hfits
      · have hnone : ((0 : UInt64).toNat * 8 * 10 ^ 9 + bitsPerSecond.toNat - 1) /
            bitsPerSecond.toNat = 0 := by
          rw [UInt64.toNat_zero, Nat.zero_mul, Nat.zero_add]
          exact Nat.div_eq_of_lt (by omega)
        rw [hnone]
        rfl
      · rw [Nat.mul_comm 8] at hfits
        exact transmissionTime_fits hframe hpos hfits
    subst hexact
    refine ⟨htime, hchecked, fun hframe' => ?_⟩
    rw [htime, exactTime_eq hframe hpos]
    have hbytes : 0 < frameBytes.toNat := Nat.pos_of_ne_zero fun hzero =>
      hframe' (UInt64.toNat_inj.mp hzero)
    have hquotient : 0 < (frameBytes.toNat * 8 * 10 ^ 9 + bitsPerSecond.toNat - 1) /
        bitsPerSecond.toNat := Nat.div_pos (by omega) hpos
    exact_mod_cast hquotient

theorem transmission_time_exact_iff_gigabit : TransmitsExactly 1500 1000000000 :=
  (transmission_time_exact_iff (by decide) (by decide)).mpr (.inr (by decide))

/-- At the greatest rate there is, a frame of 64 bytes takes no time at all. -/
theorem transmission_time_wraps :
    transmissionTime 64 18446744073709551615 = 0 ∧
      exactTime 64 18446744073709551615 = 1 ∧
      ¬TransmitsExactly 64 18446744073709551615 := by
  have htime : transmissionTime 64 18446744073709551615 = 0 := by decide
  refine ⟨htime, ?_, fun h => ?_⟩
  · rw [exactTime_eq (by decide) (by decide)]
    rfl
  · have hpositive := h.positive (by decide)
    rw [htime] at hpositive
    exact lt_irrefl 0 hpositive

end FaultEngine
end WireLab
