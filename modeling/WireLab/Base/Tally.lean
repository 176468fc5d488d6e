import Mathlib.Algebra.Order.BigOperators.Group.List
import Mathlib.Data.List.Nodup

/-!
# Sums by key

What the entries of a log weigh, key by key. A list of distinct keys that covers the
log splits its whole weight (`sum_tally`).
-/

namespace Base

variable {α κ M : Type*} [DecidableEq κ] [AddCommMonoid M]

/-- What the entries of a key weigh. -/
def tally (key : α → κ) (weight : α → M) (k : κ) (entries : List α) : M :=
  ((entries.filter fun entry => key entry = k).map weight).sum

section
variable (key : α → κ) (weight : α → M) (k : κ)

@[simp]
theorem tally_nil : tally key weight k [] = 0 := rfl

theorem tally_cons (entry : α) (entries : List α) :
    tally key weight k (entry :: entries) =
      (if key entry = k then weight entry else 0) + tally key weight k entries := by
  unfold tally
  by_cases h : key entry = k
  · rw [List.filter_cons_of_pos (by simpa using h), List.map_cons, List.sum_cons, if_pos h]
  · rw [List.filter_cons_of_neg (by simpa using h), if_neg h, zero_add]

theorem tally_append (xs ys : List α) :
    tally key weight k (xs ++ ys) = tally key weight k xs + tally key weight k ys := by
  unfold tally
  rw [List.filter_append, List.map_append, List.sum_append]

/-- A weight that is at most another's, entry by entry, tallies to at most it. -/
theorem tally_mono [PartialOrder M] [IsOrderedAddMonoid M] {weight weight' : α → M}
    {entries : List α} (h : ∀ entry ∈ entries, weight entry ≤ weight' entry) :
    tally key weight k entries ≤ tally key weight' k entries := by
  unfold tally
  exact List.sum_le_sum fun entry hentry => h entry (List.mem_filter.mp hentry).1

theorem tally_add (weight weight' : α → M) (entries : List α) :
    tally key (fun entry => weight entry + weight' entry) k entries =
      tally key weight k entries + tally key weight' k entries :=
  List.sum_map_add

theorem tally_congr {weight weight' : α → M} {entries : List α}
    (h : ∀ entry ∈ entries, key entry = k → weight entry = weight' entry) :
    tally key weight k entries = tally key weight' k entries := by
  unfold tally
  refine congrArg List.sum (List.map_congr_left fun entry hentry => ?_)
  obtain ⟨hmem, hkey⟩ := List.mem_filter.mp hentry
  exact h entry hmem (by simpa using hkey)

end

/-- One of the distinct keys is the entry's own. -/
private theorem sum_ite_key {keys : List κ} (hnodup : keys.Nodup) {k : κ} (hk : k ∈ keys) (w : M) :
    (keys.map fun j => if k = j then w else 0).sum = w := by
  induction keys with
  | nil => cases hk
  | cons j keys ih =>
      obtain ⟨hfresh, hnodup⟩ := List.nodup_cons.mp hnodup
      rw [List.map_cons, List.sum_cons]
      by_cases h : k = j
      · have hrest : (keys.map fun i => if k = i then w else 0) = keys.map fun _ => (0 : M) :=
          List.map_congr_left fun i hi => if_neg (by rintro rfl; exact hfresh (h ▸ hi))
        rw [if_pos h, hrest, List.sum_map_zero, add_zero]
      · rw [if_neg h, zero_add, ih hnodup ((List.mem_cons.mp hk).resolve_left h)]

/-- **Distinct keys that cover a log split its weight.** -/
theorem sum_tally {key : α → κ} (weight : α → M) {keys : List κ} (hnodup : keys.Nodup)
    {entries : List α} (hcover : ∀ entry ∈ entries, key entry ∈ keys) :
    (keys.map fun k => tally key weight k entries).sum = (entries.map weight).sum := by
  induction entries with
  | nil => exact List.sum_map_zero
  | cons entry entries ih =>
      simp only [tally_cons, List.sum_map_add, List.map_cons, List.sum_cons]
      rw [sum_ite_key hnodup (hcover entry List.mem_cons_self),
        ih fun other hother => hcover other (List.mem_cons_of_mem _ hother)]

end Base
