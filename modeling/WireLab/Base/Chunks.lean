import Mathlib.Data.List.Basic

/-!
# Chunks of a list

A list that is worked through so many elements at a time. Each round takes one chunk off
the front, so rounds enough for the elements are enough for the chunks (`flatten_chunks`);
what a function does to every element it does to the chunks (`chunks_map`).
-/

namespace Base

variable {α β : Type*}

/-- The chunks of a list, of `size` elements but for the last, in at most so many
rounds. -/
def chunks (size : Nat) : Nat → List α → List (List α)
  | _, [] => []
  | 0, _ :: _ => []
  | rounds + 1, x :: xs => (x :: xs).take size :: chunks size rounds ((x :: xs).drop size)

variable {size rounds : Nat} {xs : List α}

theorem chunks_nil (size rounds : Nat) : chunks size rounds ([] : List α) = [] := by
  cases rounds <;> rfl

/-- What is left after a chunk is shorter. -/
theorem length_drop_lt (hsize : size ≠ 0) (x : α) (xs : List α) :
    ((x :: xs).drop size).length ≤ xs.length := by
  rw [List.length_drop, List.length_cons]
  omega

/-- **The chunks are the list**, in order. -/
theorem flatten_chunks (hsize : size ≠ 0) (hrounds : xs.length ≤ rounds) :
    (chunks size rounds xs).flatten = xs := by
  induction rounds generalizing xs with
  | zero =>
      rw [List.eq_nil_of_length_eq_zero (Nat.le_zero.mp hrounds)]
      rfl
  | succ rounds ih =>
      cases xs with
      | nil => rfl
      | cons x xs =>
          have hrest := length_drop_lt hsize x xs
          rw [List.length_cons] at hrounds
          rw [chunks, List.flatten_cons, ih (by omega), List.take_append_drop]

/-- No chunk is empty. -/
theorem ne_nil_of_mem_chunks (hsize : size ≠ 0) {chunk : List α}
    (h : chunk ∈ chunks size rounds xs) : chunk ≠ [] := by
  induction rounds generalizing xs with
  | zero =>
      cases xs with
      | nil => exact absurd h List.not_mem_nil
      | cons x xs => exact absurd h List.not_mem_nil
  | succ rounds ih =>
      cases xs with
      | nil => exact absurd h List.not_mem_nil
      | cons x xs =>
          rcases List.mem_cons.mp h with rfl | hrest
          · rw [Ne, List.take_eq_nil_iff]
            simp [hsize]
          · exact ih hrest

/-- Elements can be replaced before or after. -/
theorem chunks_map (f : α → β) (size rounds : Nat) (xs : List α) :
    chunks size rounds (xs.map f) = (chunks size rounds xs).map (List.map f) := by
  induction rounds generalizing xs with
  | zero => cases xs <;> rfl
  | succ rounds ih =>
      cases xs with
      | nil => rfl
      | cons x xs =>
          have hrest := ih ((x :: xs).drop size)
          rw [List.map_drop] at hrest
          rw [List.map_cons, chunks, chunks, List.map_cons, List.map_take, ← List.map_cons, hrest]

end Base
