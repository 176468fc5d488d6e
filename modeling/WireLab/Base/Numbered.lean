import Mathlib.Logic.Function.Iterate

/-!
# Numbered streams

Items that leave a producer carry numbers from one counter. `stamp` numbers a
list and returns the counter after it; `Consecutive` is what a reader checks:
each number is the successor of the one before it. The numbers may be of any
type with a successor, so a counter that wraps is covered.
-/

namespace Base

variable {κ α β : Type*} {succ : κ → κ}

/-- The numbers follow each other, the first being `n`. -/
def Consecutive (succ : κ → κ) : κ → List κ → Prop
  | _, [] => True
  | n, k :: ks => k = n ∧ Consecutive succ (succ n) ks

/-- Number the items from `n` on; the second result is the next free number. -/
def stamp (succ : κ → κ) (f : κ → α → β) : κ → List α → List β × κ
  | n, [] => ([], n)
  | n, x :: xs => (f n x :: (stamp succ f (succ n) xs).1, (stamp succ f (succ n) xs).2)

theorem consecutive_nil (n : κ) : Consecutive succ n [] := trivial

theorem consecutive_cons {n k : κ} {ks : List κ} :
    Consecutive succ n (k :: ks) ↔ k = n ∧ Consecutive succ (succ n) ks :=
  Iff.rfl

theorem consecutive_append {n : κ} {ks ls : List κ} :
    Consecutive succ n (ks ++ ls) ↔
      Consecutive succ n ks ∧ Consecutive succ (succ^[ks.length] n) ls := by
  induction ks generalizing n with
  | nil => simp only [List.nil_append, consecutive_nil, true_and, List.length_nil,
      Function.iterate_zero, id]
  | cons k ks ih =>
      rw [List.cons_append, consecutive_cons, consecutive_cons, ih, and_assoc, List.length_cons,
        Function.iterate_succ_apply]

/-- Two streams, the second picking up where the first one stopped. -/
theorem Consecutive.append {n : κ} {ks ls : List κ} (hks : Consecutive succ n ks)
    (hls : Consecutive succ (succ^[ks.length] n) ls) : Consecutive succ n (ks ++ ls) :=
  consecutive_append.mpr ⟨hks, hls⟩

section stamp
variable {f : κ → α → β} {n : κ} {xs : List α}

theorem length_stamp : (stamp succ f n xs).1.length = xs.length := by
  induction xs generalizing n with
  | nil => rfl
  | cons x xs ih => simp only [stamp, List.length_cons, ih]

/-- The counter has moved by the number of items. -/
theorem stamp_snd : (stamp succ f n xs).2 = succ^[xs.length] n := by
  induction xs generalizing n with
  | nil => rfl
  | cons x xs ih => simp only [stamp, List.length_cons, ih, Function.iterate_succ_apply]

/-- What was stamped is numbered consecutively. -/
theorem consecutive_stamp {number : β → κ} (hnumber : ∀ n x, number (f n x) = n) :
    Consecutive succ n ((stamp succ f n xs).1.map number) := by
  induction xs generalizing n with
  | nil => trivial
  | cons x xs ih => exact ⟨hnumber n x, ih⟩

/-- Stamping changes nothing that does not look at the numbers. -/
theorem map_stamp {γ : Type*} {content : β → γ} {g : α → γ}
    (hcontent : ∀ n x, content (f n x) = g x) :
    (stamp succ f n xs).1.map content = xs.map g := by
  induction xs generalizing n with
  | nil => rfl
  | cons x xs ih => simp only [stamp, List.map_cons, hcontent, ih]

end stamp
end Base
