import Mathlib.Data.List.Basic

/-!
# Independent cells

A store that keeps one cell for each key. Every call names a key, answers from
that key's cell and changes no other (`Cells.own`, `Cells.other`). What such a
store says about one key depends on that key's calls alone: `Cells.answers_eq`
reduces a run of the store to a run of a single cell.
-/

namespace Base

/-- A store read through its cells. `run` is the store's call, `act` what the
call does to the cell of its own key. -/
structure Cells (σ κ γ ι ω : Type*) where
  run : σ → ι → ω × σ
  key : ι → κ
  cell : σ → κ → γ
  act : γ → ι → ω × γ
  own : ∀ s i, (run s i).1 = (act (cell s (key i)) i).1 ∧
    cell (run s i).2 (key i) = (act (cell s (key i)) i).2
  other : ∀ s i k, k ≠ key i → cell (run s i).2 k = cell s k

namespace Cells

variable {σ κ γ ι ω : Type*}

/-- The calls about one key. -/
def about [DecidableEq κ] (C : Cells σ κ γ ι ω) (k : κ) (calls : List ι) : List ι :=
  calls.filter fun i => C.key i = k

/-- What the store answers to the calls about `k`, in order. -/
def answers [DecidableEq κ] (C : Cells σ κ γ ι ω) (k : κ) : σ → List ι → List ω
  | _, [] => []
  | s, i :: is =>
      if C.key i = k then (C.run s i).1 :: C.answers k (C.run s i).2 is
      else C.answers k (C.run s i).2 is

/-- The store after a run. -/
def after (C : Cells σ κ γ ι ω) (s : σ) (calls : List ι) : σ :=
  calls.foldl (fun s i => (C.run s i).2) s

/-- What a single cell answers. -/
def replies (C : Cells σ κ γ ι ω) : γ → List ι → List ω
  | _, [] => []
  | c, i :: is => (C.act c i).1 :: C.replies (C.act c i).2 is

section
variable [DecidableEq κ] (C : Cells σ κ γ ι ω) (k : κ)

/-- **One cell is enough**: what the store answers about a key is what the key's
cell answers to the calls about it. -/
theorem answers_eq (calls : List ι) (s : σ) :
    C.answers k s calls = C.replies (C.cell s k) (C.about k calls) := by
  induction calls generalizing s with
  | nil => rfl
  | cons i is ih =>
      by_cases hkey : C.key i = k
      · subst hkey
        obtain ⟨hanswer, hcell⟩ := C.own s i
        have habout : C.about (C.key i) (i :: is) = i :: C.about (C.key i) is := by
          simp only [about, List.filter_cons, decide_true, if_true]
        rw [answers, if_pos rfl, ih, hcell, habout, replies, hanswer]
      · have habout : C.about k (i :: is) = C.about k is := by
          simp only [about, List.filter_cons, decide_eq_true_eq, if_neg hkey]
        rw [answers, if_neg hkey, ih, C.other s i k (Ne.symm hkey), habout]

/-- Runs from the same cell with the same calls about a key get the same answers
about it, whatever else they contain. -/
theorem answers_congr {s t : σ} {first second : List ι} (hcell : C.cell s k = C.cell t k)
    (hsame : C.about k first = C.about k second) :
    C.answers k s first = C.answers k t second := by
  rw [answers_eq, answers_eq, hcell, hsame]

end

end Cells
end Base
