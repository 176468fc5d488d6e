/-!
# Bounded loops

`while (test) body`, cut off after some rounds: no result says that the loop would
have gone on. A loop whose variant falls in every round ends within as many rounds,
with its invariant and its test failed (`loop_spec`).
-/

namespace Base

variable {σ : Type}

/-- `while (test) body`, at most `rounds` times round. -/
def loop (test : σ → Bool) (body : σ → σ) : Nat → σ → Option σ
  | 0, state => if test state then none else some state
  | rounds + 1, state => if test state then loop test body rounds (body state) else some state

/-- **The rule of loops.** -/
theorem loop_spec (test : σ → Bool) (body : σ → σ) (I : σ → Prop) (variant : σ → Nat)
    (hbody : ∀ state, I state → test state = true →
      I (body state) ∧ variant (body state) < variant state)
    {rounds : Nat} {state : σ} (hstate : I state) (hrounds : variant state ≤ rounds) :
    ∃ last, loop test body rounds state = some last ∧ I last ∧ test last = false := by
  induction rounds generalizing state with
  | zero =>
      by_cases htest : test state = true
      · have hless := (hbody state hstate htest).2
        omega
      · rw [loop, if_neg htest]
        exact ⟨state, rfl, hstate, by simpa using htest⟩
  | succ rounds ih =>
      by_cases htest : test state = true
      · obtain ⟨hnext, hless⟩ := hbody state hstate htest
        rw [loop, if_pos htest]
        exact ih hnext (by omega)
      · rw [loop, if_neg htest]
        exact ⟨state, rfl, hstate, by simpa using htest⟩

end Base
