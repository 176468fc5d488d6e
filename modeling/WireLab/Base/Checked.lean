import WireLab.Base.Bytes

/-!
# Checked reads

Programs that read a byte string at positions they compute. A computation has no
outcome where it reads outside the string or does not end; a refusal is an
outcome like any other. `Safe` is total correctness in that sense, `Returns` says
what is returned, and both go through computations by the same rules: one for
`bind`, one for a bounded loop.
-/

namespace Base

/-- A computation that may refuse, and has no outcome where it goes wrong. -/
abbrev Checked (ε α : Type) := ExceptT ε Option α

namespace Checked

variable {ε α β σ : Type}

/-- No outcome. -/
def wrong : Checked ε α := ExceptT.mk none

/-- The byte at a position. -/
def byte (bytes : Bytes) (offset : Nat) : Checked ε UInt8 :=
  ExceptT.mk (bytes[offset]?.map .ok)

/-- `while (test) body`, at most `rounds` times round. -/
def loop (test : σ → Bool) (body : σ → Checked ε σ) : Nat → σ → Checked ε σ
  | 0, state => if test state then wrong else pure state
  | rounds + 1, state =>
      if test state then body state >>= loop test body rounds else pure state

/-! ## Total correctness -/

/-- The computation ends within the string, and what it returns satisfies
`post`. -/
def Safe (x : Checked ε α) (post : α → Prop) : Prop :=
  ∃ out : Except ε α, x.run = some out ∧ ∀ a, out = .ok a → post a

theorem safe_pure {post : α → Prop} {a : α} (h : post a) : Safe (pure a : Checked ε α) post := by
  refine ⟨.ok a, rfl, fun b hb => ?_⟩
  obtain rfl := Except.ok.inj hb
  exact h

theorem safe_throw {post : α → Prop} (e : ε) : Safe (throw e : Checked ε α) post :=
  ⟨.error e, rfl, fun _ h => absurd h (by simp)⟩

theorem Safe.bind {x : Checked ε α} {f : α → Checked ε β} {mid : α → Prop} {post : β → Prop}
    (hx : Safe x mid) (hf : ∀ a, mid a → Safe (f a) post) : Safe (x >>= f) post := by
  obtain ⟨out, hrun, hmid⟩ := hx
  cases out with
  | error e =>
      refine ⟨.error e, ?_, fun _ h => absurd h (by simp)⟩
      rw [ExceptT.run_bind, hrun]
      rfl
  | ok a =>
      obtain ⟨out', hrun', hpost⟩ := hf a (hmid a rfl)
      refine ⟨out', ?_, hpost⟩
      rw [ExceptT.run_bind, hrun]
      exact hrun'

theorem Safe.mono {x : Checked ε α} {post weaker : α → Prop} (h : Safe x post)
    (hle : ∀ a, post a → weaker a) : Safe x weaker := by
  obtain ⟨out, hrun, hpost⟩ := h
  exact ⟨out, hrun, fun a ha => hle a (hpost a ha)⟩

/-- A refusal that the code checks for is passed where it does not apply. -/
theorem safe_unless {test : Prop} [Decidable test] {e : ε} {x : Checked ε α} {post : α → Prop}
    (h : ¬test → Safe x post) : Safe (if test then throw e else x) post := by
  by_cases htest : test
  · rw [if_pos htest]
    exact safe_throw e
  · rw [if_neg htest]
    exact h htest

/-- A byte within the string can be read. -/
theorem safe_byte {bytes : Bytes} {offset : Nat} (h : offset < bytes.length) :
    Safe (byte bytes offset : Checked ε UInt8) fun b => bytes[offset]? = some b := by
  refine ⟨.ok bytes[offset], ?_, fun b hb => ?_⟩
  · show bytes[offset]?.map Except.ok = _
    rw [List.getElem?_eq_getElem h]
    rfl
  · rw [List.getElem?_eq_getElem h, Except.ok.inj hb]

/-- **The rule of loops**: an invariant, and a variant that falls in every
round. -/
theorem safe_loop {test : σ → Bool} {body : σ → Checked ε σ} (I : σ → Prop) (variant : σ → Nat)
    (hbody : ∀ state, I state → test state = true →
      Safe (body state) fun next => I next ∧ variant next < variant state)
    {rounds : Nat} {state : σ} (hstate : I state) (hrounds : variant state < rounds) :
    Safe (loop test body rounds state) fun last => I last ∧ test last = false := by
  induction rounds generalizing state with
  | zero => omega
  | succ rounds ih =>
      by_cases htest : test state = true
      · rw [loop, if_pos htest]
        refine (hbody state hstate htest).bind fun next ⟨hnext, hless⟩ => ih hnext ?_
        omega
      · rw [loop, if_neg htest]
        exact safe_pure ⟨hstate, by simpa using htest⟩

/-! ## What is returned -/

/-- The computation returns `a`. -/
def Returns (x : Checked ε α) (a : α) : Prop := x.run = some (.ok a)

theorem returns_pure (a : α) : Returns (pure a : Checked ε α) a := rfl

theorem Returns.bind {x : Checked ε α} {f : α → Checked ε β} {a : α} {b : β}
    (hx : Returns x a) (hf : Returns (f a) b) : Returns (x >>= f) b := by
  rw [Returns, ExceptT.run_bind, hx]
  exact hf

theorem returns_unless {test : Prop} [Decidable test] {e : ε} {x : Checked ε α} {a : α}
    (htest : ¬test) (h : Returns x a) : Returns (if test then throw e else x) a := by
  rw [if_neg htest]
  exact h

theorem Returns.adapt {ε' : Type} {x : Checked ε α} {a : α} (hx : Returns x a) (f : ε → ε') :
    Returns (ExceptT.adapt f x : Checked ε' α) a := by
  show Option.map (Except.mapError f) x.run = _
  rw [hx]
  rfl

/-- The computation refuses with `e`. -/
def Throws (x : Checked ε α) (e : ε) : Prop := x.run = some (.error e)

theorem throws_throw (e : ε) : Throws (throw e : Checked ε α) e := rfl

theorem Throws.bind {x : Checked ε α} {e : ε} (hx : Throws x e) (f : α → Checked ε β) :
    Throws (x >>= f) e := by
  rw [Throws, ExceptT.run_bind, hx]
  rfl

/-- What has returned is out of the way. -/
theorem Returns.bind_eq {x : Checked ε α} {a : α} (hx : Returns x a) (f : α → Checked ε β) :
    x >>= f = f a := by
  apply ExceptT.ext
  rw [ExceptT.run_bind, hx]
  rfl

/-- A computation does not both refuse and return. -/
theorem Throws.not_returns {x : Checked ε α} {e : ε} (hx : Throws x e) (a : α) : ¬Returns x a := by
  intro h
  rw [Returns, hx] at h
  cases h

theorem Returns.unique {x : Checked ε α} {a b : α} (ha : Returns x a) (hb : Returns x b) :
    a = b := by
  rw [Returns, ha] at hb
  exact Except.ok.inj (Option.some.inj hb)

/-- A loop whose test has failed returns. -/
theorem returns_loop_end {test : σ → Bool} {body : σ → Checked ε σ} {state : σ}
    (htest : test state = false) (rounds : Nat) : Returns (loop test body rounds state) state := by
  have hstop : ¬test state = true := by simp [htest]
  cases rounds with
  | zero =>
      rw [loop, if_neg hstop]
      exact returns_pure state
  | succ rounds =>
      rw [loop, if_neg hstop]
      exact returns_pure state

/-- One round of a loop. -/
theorem Returns.loop {test : σ → Bool} {body : σ → Checked ε σ} {state next last : σ}
    {rounds : Nat} (htest : test state = true) (hbody : Returns (body state) next)
    (hrest : Returns (Checked.loop test body rounds next) last) :
    Returns (Checked.loop test body (rounds + 1) state) last := by
  rw [Checked.loop, if_pos htest]
  exact hbody.bind hrest

/-- A loop of rounds that all return does, if a variant falls in each. -/
theorem exists_returns_loop (test : σ → Bool) (body : σ → Checked ε σ) (variant : σ → Nat)
    (hbody : ∀ state, test state = true →
      ∃ next, Returns (body state) next ∧ variant next < variant state)
    {rounds : Nat} (state : σ) (hrounds : variant state < rounds) :
    ∃ last, Returns (Checked.loop test body rounds state) last := by
  induction rounds generalizing state with
  | zero => omega
  | succ rounds ih =>
      by_cases htest : test state = true
      · obtain ⟨next, hnext, hless⟩ := hbody state htest
        obtain ⟨last, hlast⟩ := ih next (by omega)
        exact ⟨last, .loop htest hnext hlast⟩
      · exact ⟨state, returns_loop_end (by simpa using htest) _⟩

/-- Rounds of a loop, from one state to another. -/
inductive Walk (test : σ → Bool) (body : σ → Checked ε σ) : Nat → σ → σ → Prop
  | done (state : σ) : Walk test body 0 state state
  | round {state next last : σ} {rounds : Nat} (htest : test state = true)
      (hbody : Returns (body state) next) (hrest : Walk test body rounds next last) :
      Walk test body (rounds + 1) state last

section
variable {test : σ → Bool} {body : σ → Checked ε σ} {rounds more : Nat} {state next last : σ}

theorem Walk.single (htest : test state = true) (hbody : Returns (body state) next) :
    Walk test body 1 state next := .round htest hbody (.done next)

theorem Walk.trans (h : Walk test body rounds state next) (hrest : Walk test body more next last) :
    Walk test body (rounds + more) state last := by
  induction h with
  | done state => rwa [Nat.zero_add]
  | @round state next last rounds htest hbody _ ih =>
      rw [Nat.add_right_comm]
      exact .round htest hbody (ih hrest)

/-- A loop returns where its rounds end, if there are enough of them. -/
theorem Walk.returns_loop (h : Walk test body rounds state last) (htest : test last = false)
    {fuel : Nat} (hfuel : rounds ≤ fuel) : Returns (Checked.loop test body fuel state) last := by
  induction h generalizing fuel with
  | done state => exact returns_loop_end htest fuel
  | round hround hbody _ ih =>
      obtain ⟨fuel, rfl⟩ : ∃ fewer, fuel = fewer + 1 := ⟨fuel - 1, by omega⟩
      exact .loop hround hbody (ih htest (by omega))

end

/-! ## Partial correctness -/

/-- Whatever the computation returns satisfies `post`. -/
def Ensures (x : Checked ε α) (post : α → Prop) : Prop := ∀ a, Returns x a → post a

theorem ensures_pure {post : α → Prop} {a : α} (h : post a) :
    Ensures (pure a : Checked ε α) post := by
  intro b hb
  obtain rfl := hb.unique (returns_pure a)
  exact h

theorem ensures_throw (e : ε) (post : α → Prop) : Ensures (throw e : Checked ε α) post :=
  fun a h => absurd h ((throws_throw e).not_returns a)

theorem ensures_wrong (post : α → Prop) : Ensures (wrong : Checked ε α) post := by
  intro a h
  cases h

theorem ensures_any (x : Checked ε α) : Ensures x fun _ => True := fun _ _ => trivial

theorem Ensures.bind {x : Checked ε α} {f : α → Checked ε β} {mid : α → Prop} {post : β → Prop}
    (hx : Ensures x mid) (hf : ∀ a, mid a → Ensures (f a) post) : Ensures (x >>= f) post := by
  intro b hb
  rw [Returns, ExceptT.run_bind] at hb
  cases hrun : x.run with
  | none =>
      rw [hrun] at hb
      cases hb
  | some out =>
      rw [hrun] at hb
      cases out with
      | error e => cases hb
      | ok a => exact hf a (hx a hrun) b hb

/-- Any value may come before. -/
theorem ensures_bind {x : Checked ε α} {f : α → Checked ε β} {post : β → Prop}
    (hf : ∀ a, Ensures (f a) post) : Ensures (x >>= f) post :=
  (ensures_any x).bind fun a _ => hf a

theorem Ensures.mono {x : Checked ε α} {post weaker : α → Prop} (h : Ensures x post)
    (hle : ∀ a, post a → weaker a) : Ensures x weaker := fun a ha => hle a (h a ha)

theorem ensures_unless {test : Prop} [Decidable test] {e : ε} {x : Checked ε α} {post : α → Prop}
    (h : ¬test → Ensures x post) : Ensures (if test then throw e else x) post := by
  by_cases htest : test
  · rw [if_pos htest]
    exact ensures_throw e post
  · rw [if_neg htest]
    exact h htest

/-- A loop keeps its invariant, for whatever time it runs. -/
theorem ensures_loop {test : σ → Bool} {body : σ → Checked ε σ} (I : σ → Prop)
    (hbody : ∀ state, I state → Ensures (body state) I) (rounds : Nat) {state : σ}
    (hstate : I state) : Ensures (loop test body rounds state) I := by
  induction rounds generalizing state with
  | zero =>
      rw [loop]
      split_ifs
      · exact ensures_wrong I
      · exact ensures_pure hstate
  | succ rounds ih =>
      rw [loop]
      split_ifs
      · exact (hbody state hstate).bind fun next hnext => ih hnext
      · exact ensures_pure hstate

theorem returns_byte {bytes : Bytes} {offset : Nat} {b : UInt8} (h : bytes[offset]? = some b) :
    Returns (byte bytes offset : Checked ε UInt8) b := by
  show bytes[offset]?.map Except.ok = _
  rw [h]
  rfl

end Checked
end Base
