import Mathlib

/-!
# Ones'-complement sums

Numbers up to a `limit`, such as 65535, are added with the carry brought back in at the
low end. What such sums come to is known without following the carries: the sum of the
numbers, but for multiples of the limit (`residue`).
-/

namespace Base.OnesComplement

/-- The sum of two numbers, with its carry. -/
def add (limit first second : Nat) : Nat :=
  if limit < first + second then first + second - limit else first + second

def sum (limit : Nat) (numbers : List Nat) : Nat := numbers.foldl (add limit) 0

/-- The number from one to the limit that differs by a multiple of it; zero for zero. -/
def residue (limit n : Nat) : Nat := if n = 0 then 0 else (n - 1) % limit + 1

variable {limit n : Nat}

@[simp] theorem residue_zero : residue limit 0 = 0 := rfl

theorem residue_of_pos (hn : 0 < n) : residue limit n = (n - 1) % limit + 1 :=
  if_neg (by omega)

theorem residue_of_le (hn : n ≤ limit) : residue limit n = n := by
  rcases Nat.eq_zero_or_pos n with rfl | hpos
  · rfl
  · rw [residue_of_pos hpos, Nat.mod_eq_of_lt (by omega)]
    omega

theorem residue_le (hlimit : 0 < limit) (n : Nat) : residue limit n ≤ limit := by
  rcases Nat.eq_zero_or_pos n with rfl | hpos
  · exact Nat.zero_le limit
  · rw [residue_of_pos hpos]
    exact Nat.mod_lt _ hlimit

/-- Multiples of the limit do not matter to a number that is not zero. -/
theorem residue_add_mul (hn : 0 < n) (k : Nat) : residue limit (n + limit * k) = residue limit n := by
  rw [residue_of_pos hn, residue_of_pos (by omega), Nat.sub_add_comm hn, Nat.add_mul_mod_self_left]

/-- A number is its residue and a multiple of the limit. -/
theorem exists_residue (limit n : Nat) : ∃ k, n = residue limit n + limit * k := by
  rcases Nat.eq_zero_or_pos n with rfl | hpos
  · exact ⟨0, by simp⟩
  · refine ⟨(n - 1) / limit, ?_⟩
    rw [residue_of_pos hpos]
    have hdiv := Nat.mod_add_div (n - 1) limit
    omega

theorem residue_pos (limit : Nat) (hn : 0 < n) : 0 < residue limit n := by
  rw [residue_of_pos hn]
  exact Nat.succ_pos _

/-- One addition. -/
theorem add_residue (hlimit : 0 < limit) (n : Nat) {number : Nat} (hnumber : number ≤ limit) :
    add limit (residue limit n) number = residue limit (n + number) := by
  rcases Nat.eq_zero_or_pos n with rfl | hpos
  · rw [residue_zero, add, if_neg (by omega), residue_of_le (by omega)]
  obtain ⟨k, hk⟩ := exists_residue limit n
  have hle := residue_le hlimit n
  have hresidue := residue_pos limit hpos
  generalize residue limit n = r at hk hle hresidue
  have hsum : n + number = r + number + limit * k := by omega
  rw [hsum, residue_add_mul (by omega), add]
  by_cases hcarry : limit < r + number
  · have honce : r + number = r + number - limit + limit * 1 := by omega
    rw [if_pos hcarry, honce, residue_add_mul (by omega), residue_of_le (by omega)]
    omega
  · rw [if_neg hcarry, residue_of_le (by omega)]

/-- **A ones'-complement sum** is the residue of the sum. -/
theorem sum_eq (hlimit : 0 < limit) {numbers : List Nat}
    (hnumbers : ∀ number ∈ numbers, number ≤ limit) :
    sum limit numbers = residue limit numbers.sum := by
  have hfold : ∀ start, numbers.foldl (add limit) (residue limit start) =
      residue limit (start + numbers.sum) := by
    induction numbers with
    | nil => exact fun start => rfl
    | cons number numbers ih =>
        intro start
        obtain ⟨hnumber, hrest⟩ := List.forall_mem_cons.mp hnumbers
        rw [List.foldl_cons, add_residue hlimit _ hnumber, ih hrest, List.sum_cons, Nat.add_assoc]
  have hall := hfold 0
  rwa [Nat.zero_add] at hall

/-- Folding the carries of a number into its lower digits keeps its residue. -/
theorem residue_fold (n : Nat) :
    residue limit (n % (limit + 1) + n / (limit + 1)) = residue limit n := by
  rcases Nat.eq_zero_or_pos n with rfl | hpos
  · simp
  have hdiv := Nat.mod_add_div n (limit + 1)
  have hsplit : n = n % (limit + 1) + n / (limit + 1) + limit * (n / (limit + 1)) := by
    rw [Nat.add_mul, Nat.one_mul] at hdiv
    omega
  have hfolded : 0 < n % (limit + 1) + n / (limit + 1) := by
    rcases Nat.eq_zero_or_pos (n / (limit + 1)) with hzero | hquotient
    · rw [hzero, Nat.mul_zero, Nat.add_zero] at hdiv
      omega
    · omega
  conv_rhs => rw [hsplit]
  exact (residue_add_mul hfolded _).symm

/-- **Why a checksum verifies**: the complement of a sum adds up with it to the limit. -/
theorem residue_add_complement (hlimit : 0 < limit) (n : Nat) :
    residue limit (n + (limit - residue limit n)) = limit := by
  obtain ⟨k, hk⟩ := exists_residue limit n
  have hle := residue_le hlimit n
  have hsum : n + (limit - residue limit n) = limit + limit * k := by omega
  rw [hsum, residue_add_mul hlimit, residue_of_le (Nat.le_refl limit)]

end Base.OnesComplement
