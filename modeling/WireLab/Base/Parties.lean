import WireLab.Base.TSys

/-!
# Parties over an unreliable network

Parties that exchange messages over a network which may lose, repeat and reorder them,
but neither makes nor changes one. Everything that was ever sent is kept, and a turn may
receive any of it, any number of times: a message that is never received again was lost.

`Sound` is how a property of all messages is proved. What the parties keep and what
their messages say may lean on each other and on the turns so far (`turns`), as long as
every turn that was told the truth tells the truth, and no turn makes an earlier message
wrong.
-/

namespace Base

/-- Parties as one state. A turn is given an input and at most one message, and answers
the messages it sends; `none` is a turn that cannot be taken. -/
structure Parties (σ ι μ : Type*) where
  init : σ → Prop
  turn : σ → ι → Option μ → Option (σ × List μ)

namespace Parties

variable {σ ι μ : Type*}

/-- A turn over a network that holds what was sent. A label chooses the input, and the
message that is received, if one is. -/
def step (E : Parties σ ι μ) (s : σ × List μ) (label : ι × Option Nat) : Option (σ × List μ) :=
  match label.2 with
  | none => (E.turn s.1 label.1 none).map fun (t, sent) => (t, s.2 ++ sent)
  | some index =>
      (s.2[index]?).bind fun message =>
        (E.turn s.1 label.1 (some message)).map fun (t, sent) => (t, s.2 ++ sent)

/-- The parties and their network, over their turns. -/
def system (E : Parties σ ι μ) : TSys (σ × List μ) (ι × Option Nat) where
  init s := E.init s.1 ∧ s.2 = []
  step := E.step

/-- A turn as it was taken: from what, on which input, and with which message. -/
structure Turn (σ ι μ : Type*) where
  before : σ
  input : ι
  received : Option μ

/-- The turn that a label chooses. -/
def turnOf (s : σ × List μ) (label : ι × Option Nat) : Turn σ ι μ where
  before := s.1
  input := label.1
  received := label.2.bind fun index => s.2[index]?

/-- The turns of a run. -/
def turns (E : Parties σ ι μ) : σ × List μ → List (ι × Option Nat) → List (Turn σ ι μ)
  | _, [] => []
  | s, label :: labels =>
      match E.step s label with
      | none => []
      | some s' => turnOf s label :: E.turns s' labels

theorem turns_cons {E : Parties σ ι μ} {s s' : σ × List μ} {label : ι × Option Nat}
    (h : E.step s label = some s') (labels : List (ι × Option Nat)) :
    E.turns s (label :: labels) = turnOf s label :: E.turns s' labels := by
  simp only [turns, h]

/-- A step is a turn that receives nothing, or something that was sent. -/
theorem step_eq_some {E : Parties σ ι μ} {s s' : σ × List μ} {label : ι × Option Nat}
    (h : E.step s label = some s') :
    ∃ t sent, (∀ message ∈ (turnOf s label).received, message ∈ s.2) ∧
      E.turn s.1 label.1 (turnOf s label).received = some (t, sent) ∧ s' = (t, s.2 ++ sent) := by
  obtain ⟨input, index⟩ := label
  cases index with
  | none =>
      obtain ⟨⟨t, sent⟩, hturn, rfl⟩ := Option.map_eq_some_iff.mp h
      exact ⟨t, sent, fun _ hnone => absurd hnone (Option.not_mem_none _), hturn, rfl⟩
  | some index =>
      obtain ⟨message, hmessage, hstep⟩ := Option.bind_eq_some_iff.mp h
      obtain ⟨⟨t, sent⟩, hturn, rfl⟩ := Option.map_eq_some_iff.mp hstep
      have hreceived : (turnOf s (input, some index)).received = some message := hmessage
      rw [hreceived]
      refine ⟨t, sent, ?_, hturn, rfl⟩
      intro other hother
      obtain rfl := Option.some.inj hother
      exact List.mem_of_getElem? hmessage

/-- `I` is kept, and `P` says the truth of every message: every turn that is told the truth
tells it. Both may depend on the turns that were taken. -/
def Sound (E : Parties σ ι μ) (I : List (Turn σ ι μ) → σ → Prop)
    (P : List (Turn σ ι μ) → σ → μ → Prop) : Prop :=
  ∀ past turn t sent, I past turn.before →
    (∀ message ∈ turn.received, P past turn.before message) →
    E.turn turn.before turn.input turn.received = some (t, sent) →
      I (past ++ [turn]) t ∧ (∀ message ∈ sent, P (past ++ [turn]) t message) ∧
        ∀ message, P past turn.before message → P (past ++ [turn]) t message

section
variable {E : Parties σ ι μ} {I : List (Turn σ ι μ) → σ → Prop}
  {P : List (Turn σ ι μ) → σ → μ → Prop}

/-- **A step keeps the truth.** -/
theorem Sound.step (h : E.Sound I P) {past : List (Turn σ ι μ)} {s s' : σ × List μ}
    {label : ι × Option Nat} (hkept : I past s.1) (htrue : ∀ message ∈ s.2, P past s.1 message)
    (hstep : E.step s label = some s') :
    I (past ++ [turnOf s label]) s'.1 ∧
      ∀ message ∈ s'.2, P (past ++ [turnOf s label]) s'.1 message := by
  obtain ⟨t, sent, hreceived, hturn, rfl⟩ := step_eq_some hstep
  obtain ⟨hkept', hsent, hstays⟩ := h past (turnOf s label) t sent hkept
    (fun message hmessage => htrue message (hreceived message hmessage)) hturn
  refine ⟨hkept', fun message hmessage => ?_⟩
  rcases List.mem_append.mp hmessage with hearlier | hnow
  · exact hstays message (htrue message hearlier)
  · exact hsent message hnow

/-- Behind some turns, a run keeps the truth. -/
theorem Sound.execFrom (h : E.Sound I P) {labels : List (ι × Option Nat)}
    {past : List (Turn σ ι μ)} {s t : σ × List μ} (hkept : I past s.1)
    (htrue : ∀ message ∈ s.2, P past s.1 message) (hrun : E.system.exec s labels = some t) :
    I (past ++ E.turns s labels) t.1 ∧
      ∀ message ∈ t.2, P (past ++ E.turns s labels) t.1 message := by
  induction labels generalizing past s with
  | nil =>
      obtain rfl := Option.some.inj hrun
      rw [turns, List.append_nil]
      exact ⟨hkept, htrue⟩
  | cons label labels ih =>
      obtain ⟨s', hstep, hrest⟩ := Option.bind_eq_some_iff.mp hrun
      change E.step s label = some s' at hstep
      obtain ⟨hkept', htrue'⟩ := h.step hkept htrue hstep
      have hlater := ih hkept' htrue' hrest
      rw [List.append_assoc, List.singleton_append] at hlater
      rw [turns_cons hstep]
      exact hlater

/-- **What is told is true**, in whatever order and however often it arrives. -/
theorem Sound.exec (h : E.Sound I P) {s : σ} (hinit : I [] s) {labels : List (ι × Option Nat)}
    {t : σ × List μ} (hrun : E.system.exec (s, []) labels = some t) :
    I (E.turns (s, []) labels) t.1 ∧ ∀ message ∈ t.2, P (E.turns (s, []) labels) t.1 message := by
  have hresult := h.execFrom hinit (fun message hmessage => absurd hmessage List.not_mem_nil) hrun
  rwa [List.nil_append] at hresult

/-- Behind some turns, every turn of a run starts from what is kept. -/
theorem Sound.turnsFrom (h : E.Sound I P) {labels : List (ι × Option Nat)}
    {past : List (Turn σ ι μ)} {s : σ × List μ} (hkept : I past s.1)
    (htrue : ∀ message ∈ s.2, P past s.1 message) :
    ∀ turn ∈ E.turns s labels, ∃ earlier, earlier ++ [turn] <+: past ++ E.turns s labels ∧
      I earlier turn.before := by
  induction labels generalizing past s with
  | nil => exact fun turn hturn => absurd hturn List.not_mem_nil
  | cons label labels ih =>
      intro turn hturn
      cases hstep : E.step s label with
      | none =>
          simp only [turns, hstep] at hturn
          exact absurd hturn List.not_mem_nil
      | some s' =>
          rw [turns_cons hstep] at hturn ⊢
          rcases List.mem_cons.mp hturn with rfl | hlater
          · exact ⟨past, List.prefix_append_right_inj past |>.mpr (List.prefix_append [_] _), hkept⟩
          · obtain ⟨hkept', htrue'⟩ := h.step hkept htrue hstep
            obtain ⟨earlier, hprefix, hearlier⟩ := ih hkept' htrue' turn hlater
            rw [List.append_assoc, List.singleton_append] at hprefix
            exact ⟨earlier, hprefix, hearlier⟩

/-- **Every turn of a run** starts from what is kept. -/
theorem Sound.turns (h : E.Sound I P) {s : σ} (hinit : I [] s) {labels : List (ι × Option Nat)} :
    ∀ turn ∈ E.turns (s, []) labels, ∃ earlier, earlier ++ [turn] <+: E.turns (s, []) labels ∧
      I earlier turn.before := by
  intro turn hturn
  obtain ⟨earlier, hprefix, hearlier⟩ :=
    h.turnsFrom hinit (fun message hmessage => absurd hmessage List.not_mem_nil) turn hturn
  exact ⟨earlier, by rwa [List.nil_append] at hprefix, hearlier⟩

end

end Parties
end Base
