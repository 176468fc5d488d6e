import Mathlib.Logic.Function.Basic

/-!
# Labelled transition systems

The vocabulary every whole-run statement is phrased in. A system is
deterministic: whatever the environment chooses (a request, a clock reading, a
batch of frames) sits in the label, so a run is a list of labels and a witness
can execute it.

* **reachability and invariants** — `Reachable`, `Inductive.invariant`;
* **runs** — `exec`, and the two ways a run is judged: `States` (every state it
  passes through) and `Steps` (every step it takes), each with its induction
  rule (`States.of_inductive`, `Steps.of_inductive`);
* **history variables** — `withGhost` carries a value computed along the run;
* **intervals** — `Since start keep a b`: a step out of `a` satisfied `start`
  and every step from there to `b` satisfied `keep`.
-/

namespace Base

/-- A deterministic labelled transition system; `none` is a call that does not
return. -/
structure TSys (σ ι : Type*) where
  init : σ → Prop
  step : σ → ι → Option σ

namespace TSys

variable {σ ι γ : Type*}

/-- The states a system can be in. -/
inductive Reachable (T : TSys σ ι) : σ → Prop
  | init {s} : T.init s → Reachable T s
  | step {s a s'} : Reachable T s → T.step s a = some s' → Reachable T s'

/-- `P` holds in every reachable state. -/
def Invariant (T : TSys σ ι) (P : σ → Prop) : Prop := ∀ s, T.Reachable s → P s

/-- `P` holds initially and no step breaks it. -/
structure Inductive (T : TSys σ ι) (P : σ → Prop) : Prop where
  init : ∀ s, T.init s → P s
  step : ∀ s a s', P s → T.step s a = some s' → P s'

theorem Inductive.invariant {T : TSys σ ι} {P : σ → Prop} (h : T.Inductive P) :
    T.Invariant P := by
  intro s hs
  induction hs with
  | init hinit => exact h.init _ hinit
  | step _ hstep ih => exact h.step _ _ _ ih hstep

/-- Run a list of labels. -/
def exec (T : TSys σ ι) : σ → List ι → Option σ
  | s, [] => some s
  | s, a :: as => (T.step s a).bind fun s' => T.exec s' as

/-- Where a run ends is reachable. -/
theorem Reachable.exec {T : TSys σ ι} {s t : σ} {as : List ι} (hs : T.Reachable s)
    (hrun : T.exec s as = some t) : T.Reachable t := by
  induction as generalizing s with
  | nil =>
      simp only [TSys.exec, Option.some.injEq] at hrun
      exact hrun ▸ hs
  | cons a as ih =>
      simp only [TSys.exec, Option.bind_eq_some_iff] at hrun
      obtain ⟨s', hs', hrun⟩ := hrun
      exact ih (.step hs hs') hrun

/-- A system whose every call returns runs to the end. -/
theorem exec_returns {T : TSys σ ι} (h : ∀ s a, ∃ s', T.step s a = some s') (as : List ι) (s : σ) :
    ∃ t, T.exec s as = some t := by
  induction as generalizing s with
  | nil => exact ⟨s, rfl⟩
  | cons a as ih =>
      obtain ⟨s', hs'⟩ := h s a
      rw [exec, hs']
      exact ih s'

/-- Every state the run from `s` passes through satisfies `P`. -/
def States (T : TSys σ ι) (P : σ → Prop) : σ → List ι → Prop
  | s, [] => P s
  | s, a :: as => P s ∧ ∀ s', T.step s a = some s' → T.States P s' as

/-- Every step the run from `s` takes satisfies `Q`. -/
def Steps (T : TSys σ ι) (Q : σ → ι → σ → Prop) : σ → List ι → Prop
  | _, [] => True
  | s, a :: as => ∀ s', T.step s a = some s' → Q s a s' ∧ T.Steps Q s' as

/-- A run of a system whose states can be judged can be judged. -/
instance States.decidable (T : TSys σ ι) (P : σ → Prop) [DecidablePred P] :
    ∀ (s : σ) (as : List ι), Decidable (T.States P s as)
  | s, [] => inferInstanceAs (Decidable (P s))
  | s, a :: as =>
      have : ∀ s', Decidable (T.States P s' as) := fun s' => States.decidable T P s' as
      inferInstanceAs (Decidable (P s ∧ ∀ s' ∈ T.step s a, T.States P s' as))

/-- A run of a system whose steps can be judged can be judged. -/
instance Steps.decidable (T : TSys σ ι) (Q : σ → ι → σ → Prop)
    [∀ s a s', Decidable (Q s a s')] : ∀ (s : σ) (as : List ι), Decidable (T.Steps Q s as)
  | _, [] => inferInstanceAs (Decidable True)
  | s, a :: as =>
      have : ∀ s', Decidable (T.Steps Q s' as) := fun s' => Steps.decidable T Q s' as
      inferInstanceAs (Decidable (∀ s' ∈ T.step s a, Q s a s' ∧ T.Steps Q s' as))

/-- An invariant that the steps of a run preserve holds in all its states. -/
theorem States.of_inductive {T : TSys σ ι} {I P : σ → Prop} {ok : σ → ι → σ → Prop}
    (hI : ∀ s, I s → P s)
    (hstep : ∀ s a s', I s → ok s a s' → T.step s a = some s' → I s') :
    ∀ (as : List ι) (s : σ), I s → T.Steps ok s as → T.States P s as := by
  intro as
  induction as with
  | nil => intro s hs _; exact hI s hs
  | cons a as ih =>
      intro s hs hok
      refine ⟨hI s hs, fun s' hs' => ?_⟩
      obtain ⟨hnow, hrest⟩ := hok s' hs'
      exact ih s' (hstep s a s' hs hnow hs') hrest

/-- An invariant under which every admitted step satisfies `Q` gives `Q` along
the whole run. -/
theorem Steps.of_inductive {T : TSys σ ι} {I : σ → Prop} {ok Q : σ → ι → σ → Prop}
    (hstep : ∀ s a s', I s → ok s a s' → T.step s a = some s' → Q s a s' ∧ I s') :
    ∀ (as : List ι) (s : σ), I s → T.Steps ok s as → T.Steps Q s as := by
  intro as
  induction as with
  | nil => intro _ _ _; trivial
  | cons a as ih =>
      intro s hs hok s' hs'
      obtain ⟨hnow, hrest⟩ := hok s' hs'
      obtain ⟨hq, hI⟩ := hstep s a s' hs hnow hs'
      exact ⟨hq, ih s' hI hrest⟩

/-- The first state of a run is one of its states. -/
theorem States.head {T : TSys σ ι} {P : σ → Prop} {s : σ} {as : List ι}
    (h : T.States P s as) : P s := by
  cases as with
  | nil => exact h
  | cons a as => exact h.1

/-- What the labels of a run satisfy, its steps satisfy. -/
theorem Steps.of_forall {T : TSys σ ι} {Q : ι → Prop} {as : List ι} (h : ∀ a ∈ as, Q a)
    (s : σ) : T.Steps (fun _ a _ => Q a) s as := by
  induction as generalizing s with
  | nil => trivial
  | cons a as ih =>
      exact fun s' _ => ⟨h a (by simp), ih (fun b hb => h b (by simp [hb])) s'⟩

/-- Two properties of every step are one. -/
theorem Steps.and {T : TSys σ ι} {Q R : σ → ι → σ → Prop} {as : List ι} {s : σ}
    (hQ : T.Steps Q s as) (hR : T.Steps R s as) :
    T.Steps (fun s a s' => Q s a s' ∧ R s a s') s as := by
  induction as generalizing s with
  | nil => trivial
  | cons a as ih =>
      exact fun s' hs' => ⟨⟨(hQ s' hs').1, (hR s' hs').1⟩, ih (hQ s' hs').2 (hR s' hs').2⟩

/-- What must have held of a step because of the states it joins. -/
theorem States.steps {T : TSys σ ι} {P : σ → Prop} {Q : σ → ι → σ → Prop}
    (hstep : ∀ s a s', T.step s a = some s' → P s → P s' → Q s a s') {as : List ι} {s : σ}
    (h : T.States P s as) : T.Steps Q s as := by
  induction as generalizing s with
  | nil => trivial
  | cons a as ih =>
      intro s' hs'
      have hrest := h.2 s' hs'
      exact ⟨hstep s a s' hs' h.1 hrest.head, ih hrest⟩

/-- Where every admitted step keeps `P` exactly when it satisfies `Q`, a run of
admitted steps keeps `P` exactly when all its steps satisfy `Q`. -/
theorem States.iff_admitted {T : TSys σ ι} {I P : σ → Prop} {ok Q : σ → ι → σ → Prop}
    (hI : ∀ s a s', I s → ok s a s' → T.step s a = some s' → I s')
    (hstep : ∀ s a s', I s → P s → ok s a s' → T.step s a = some s' → (P s' ↔ Q s a s')) :
    ∀ (as : List ι) (s : σ), I s → P s → T.Steps ok s as →
      (T.States P s as ↔ T.Steps Q s as) := by
  intro as
  induction as with
  | nil => exact fun s _ hs _ => ⟨fun _ => trivial, fun _ => hs⟩
  | cons a as ih =>
      intro s hinv hs hok
      constructor
      · rintro ⟨_, hrest⟩ s' hs'
        obtain ⟨hadmitted, hadmits⟩ := hok s' hs'
        have hnow := (hrest s' hs').head
        exact ⟨(hstep s a s' hinv hs hadmitted hs').mp hnow,
          (ih s' (hI s a s' hinv hadmitted hs') hnow hadmits).mp (hrest s' hs')⟩
      · intro hsteps
        refine ⟨hs, fun s' hs' => ?_⟩
        obtain ⟨hadmitted, hadmits⟩ := hok s' hs'
        obtain ⟨hnow, hrest⟩ := hsteps s' hs'
        exact (ih s' (hI s a s' hinv hadmitted hs')
          ((hstep s a s' hinv hs hadmitted hs').mpr hnow) hadmits).mpr hrest

/-- Where every step keeps `P` exactly when it satisfies `Q`, a run keeps `P`
exactly when all its steps satisfy `Q`. -/
theorem States.iff_steps {T : TSys σ ι} {I P : σ → Prop} {Q : σ → ι → σ → Prop}
    (hI : ∀ s a s', I s → T.step s a = some s' → I s')
    (hstep : ∀ s a s', I s → P s → T.step s a = some s' → (P s' ↔ Q s a s'))
    (as : List ι) (s : σ) (hs : I s) (hP : P s) : T.States P s as ↔ T.Steps Q s as := by
  have hall : T.Steps (fun _ _ _ => True) s as :=
    Steps.of_forall (Q := fun _ => True) (fun _ _ => trivial) s
  exact States.iff_admitted (fun s a s' h _ => hI s a s' h)
    (fun s a s' h hP _ => hstep s a s' h hP) as s hs hP hall

/-- The last state of a run is one of its states. -/
theorem States.last {T : TSys σ ι} {P : σ → Prop} {as : List ι} {s t : σ}
    (h : T.States P s as) (hrun : T.exec s as = some t) : P t := by
  induction as generalizing s with
  | nil =>
      simp only [exec, Option.some.injEq] at hrun
      exact hrun ▸ h
  | cons a as ih =>
      simp only [exec, Option.bind_eq_some_iff] at hrun
      obtain ⟨s', hs', hrun⟩ := hrun
      exact ih (h.2 s' hs') hrun

/-- The system with a history variable: `note` updates it from the step just
taken and nothing reads it. -/
def withGhost (T : TSys σ ι) (g₀ : γ) (note : γ → σ → ι → σ → γ) : TSys (σ × γ) ι where
  init p := T.init p.1 ∧ p.2 = g₀
  step p a := (T.step p.1 a).map fun s' => (s', note p.2 p.1 a s')

theorem withGhost_step {T : TSys σ ι} {g₀ : γ} {note : γ → σ → ι → σ → γ}
    {p p' : σ × γ} {a : ι} :
    (T.withGhost g₀ note).step p a = some p' ↔
      T.step p.1 a = some p'.1 ∧ p'.2 = note p.2 p.1 a p'.1 := by
  obtain ⟨s', g'⟩ := p'
  simp only [withGhost, Option.map_eq_some_iff, Prod.mk.injEq]
  constructor
  · rintro ⟨t, ht, rfl, rfl⟩
    exact ⟨ht, rfl⟩
  · rintro ⟨ht, rfl⟩
    exact ⟨s', ht, rfl, rfl⟩

/-- `Since T start keep a b`: from the reachable state `a` a step satisfying
`start` was taken, and every later step up to `b` satisfied `keep`. -/
inductive Since (T : TSys σ ι) (start keep : σ → ι → σ → Prop) : σ → σ → Prop
  | start {a op b} : T.Reachable a → T.step a op = some b → start a op b →
      Since T start keep a b
  | keep {a b op c} : Since T start keep a b → T.step b op = some c → keep b op c →
      Since T start keep a c

theorem Since.reachable {T : TSys σ ι} {start keep : σ → ι → σ → Prop} {a b : σ}
    (h : T.Since start keep a b) : T.Reachable b := by
  induction h with
  | start ha hstep _ => exact .step ha hstep
  | keep _ hstep _ ih => exact .step ih hstep

end TSys
end Base
