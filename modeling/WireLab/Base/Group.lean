import WireLab.Base.Dict

/-!
# Grouping in one pass

A loop that keeps one summary per group, creating a group when its first element
arrives, computes for each group the fold over that group's elements alone
(`lookup_group`). Elements without a group are passed over.
-/

namespace Base

variable {α K V : Type*} [DecidableEq K]

/-- Update the summary of a group, starting it from `empty` if it is new. -/
def upsert (groups : Dict K V) (key : Option K) (empty : V) (update : V → V) : Dict K V :=
  match key with
  | none => groups
  | some k => groups.insert k (update ((groups.lookup k).getD empty))

/-- One pass over `xs`, folding each element into its group. -/
def group (key : α → Option K) (empty : V) (step : V → α → V) (groups : Dict K V)
    (xs : List α) : Dict K V :=
  xs.foldl (fun groups x => upsert groups (key x) empty fun v => step v x) groups

variable {key : α → Option K} {empty : V} {step : V → α → V}

theorem lookup_upsert (groups : Dict K V) (k? : Option K) (update : V → V) (k : K) :
    (upsert groups k? empty update).lookup k =
      if k? = some k then some (update ((groups.lookup k).getD empty)) else groups.lookup k := by
  cases k? with
  | none => simp only [upsert, reduceCtorEq, if_false]
  | some j =>
      simp only [upsert, Dict.lookup_insert, Option.some.injEq]
      by_cases h : k = j
      · rw [if_pos h, if_pos h.symm, h]
      · rw [if_neg h, if_neg (Ne.symm h)]

/-- A pass leaves each group at the fold over its own elements. -/
theorem lookup_group_from (groups : Dict K V) (xs : List α) (k : K) :
    (group key empty step groups xs).lookup k =
      match xs.filter (fun x => key x = some k) with
      | [] => groups.lookup k
      | y :: ys => some ((y :: ys).foldl step ((groups.lookup k).getD empty)) := by
  induction xs generalizing groups with
  | nil => rfl
  | cons x xs ih =>
      rw [group, List.foldl_cons]
      refine (ih (upsert groups (key x) empty fun v => step v x)).trans ?_
      by_cases hx : key x = some k
      · rw [List.filter_cons_of_pos (by simpa using hx), lookup_upsert, if_pos hx]
        cases hrest : xs.filter (fun x => key x = some k) with
        | nil => rfl
        | cons y ys => rfl
      · rw [List.filter_cons_of_neg (by simpa using hx), lookup_upsert, if_neg hx]

/-- **Grouping from scratch**: a group exists exactly when it has elements, and
its summary is the fold over them. -/
theorem lookup_group (xs : List α) (k : K) :
    (group key empty step ∅ xs).lookup k =
      match xs.filter (fun x => key x = some k) with
      | [] => none
      | y :: ys => some ((y :: ys).foldl step empty) := by
  rw [lookup_group_from]
  cases xs.filter (fun x => key x = some k) with
  | nil => exact Dict.lookup_empty k
  | cons y ys => simp only [Dict.lookup_empty, Option.getD_none]

/-- A group that does not exist is one without elements. -/
theorem getD_lookup_group (xs : List α) (k : K) :
    ((group key empty step ∅ xs).lookup k).getD empty =
      (xs.filter fun x => key x = some k).foldl step empty := by
  rw [lookup_group]
  cases xs.filter (fun x => key x = some k) with
  | nil => rfl
  | cons y ys => rfl

/-- The same, read as a relation. -/
theorem lookup_group_iff {xs : List α} {k : K} {v : V} :
    (group key empty step ∅ xs).lookup k = some v ↔
      (xs.filter fun x => key x = some k) ≠ [] ∧
        (xs.filter fun x => key x = some k).foldl step empty = v := by
  rw [lookup_group]
  cases xs.filter (fun x => key x = some k) with
  | nil => simp
  | cons y ys => simp

end Base
