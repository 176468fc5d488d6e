import Mathlib.Data.List.AList

/-!
# Finite maps

Hash maps whose iteration order nothing depends on: Mathlib's association lists
with one value type, and the two lookup equations every update proof uses.
-/

namespace Base

/-- A finite map from `K` to `V`. -/
abbrev Dict (K V : Type*) := AList fun _ : K => V

namespace Dict

variable {K V : Type*} [DecidableEq K]

@[simp]
theorem lookup_empty (k : K) : AList.lookup k (∅ : Dict K V) = none :=
  AList.lookup_empty k

/-- Reading after an insertion. -/
theorem lookup_insert (d : Dict K V) (k j : K) (v : V) :
    (d.insert k v).lookup j = if j = k then some v else d.lookup j := by
  by_cases hj : j = k
  · subst hj
    rw [if_pos rfl, AList.lookup_insert]
  · rw [if_neg hj, AList.lookup_insert_ne hj]

/-- Reading after an erasure. -/
theorem lookup_erase (d : Dict K V) (k j : K) :
    (d.erase k).lookup j = if j = k then none else d.lookup j := by
  by_cases hj : j = k
  · subst hj
    rw [if_pos rfl, AList.lookup_erase]
  · rw [if_neg hj, AList.lookup_erase_ne hj]

/-- A new key's entry comes in front of the others. -/
theorem entries_insert_fresh (d : Dict K V) {k : K} (h : d.lookup k = none) (v : V) :
    (d.insert k v).entries = ⟨k, v⟩ :: d.entries :=
  AList.entries_insert_of_notMem (AList.lookup_eq_none.mp h)

/-- The entries of a map are what its keys look up to. -/
theorem mem_entries_iff (d : Dict K V) (k : K) (v : V) :
    (⟨k, v⟩ : Sigma fun _ : K => V) ∈ d.entries ↔ d.lookup k = some v :=
  AList.mem_lookup_iff.symm

end Dict
end Base
