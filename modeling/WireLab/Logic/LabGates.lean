import WireLab.Logic.LabRuns

/-!
# The gate of a lab network

What a gate keeps from frame to frame and from tick to tick (`FrameGate.Keeps`), it keeps
over every run of the lab network, whatever the frames that reach the switch
(`labNetwork_gate`), and every turn starts from it (`labNetwork_turn_gate`).
-/

namespace WireLab

open Base

variable {γ : Type} {plane : FrameGate γ}

/-- `I` holds of a gate and the frames it was asked about, with their senders. -/
structure FrameGate.Keeps (plane : FrameGate γ) (I : List (Endpoint × Bytes) → γ → Prop) :
    Prop where
  inspect : ∀ seen gate frameData sender now, I seen gate → frameData.length ≤ receiveBuffer →
    I (seen ++ [(sender, frameData)]) (plane.inspect gate frameData sender now).2
  tick : ∀ seen gate now, I seen gate → I seen (plane.tick gate now)

namespace VSwitch

theorem drainDue_gate (vswitch : VSwitch γ) (now : Int) :
    (vswitch.drainDue now).gate = vswitch.gate := by
  obtain ⟨delivered, hoffers, hdrained⟩ := vswitch.drainDue_eq now
  rw [hdrained]
  exact hoffers.gate

/-- The gate behind a turn of the loop: it may have seen a frame, and was ticked. -/
theorem turn_gate (vswitch : VSwitch γ) (loopTurn : LoopTurn) :
    (vswitch.turn plane loopTurn).gate =
      (match loopTurn.received with
        | none => vswitch.gate
        | some (frameData, sender, now) =>
            match EthernetFrame.tryParse frameData with
            | .error _ => vswitch.gate
            | .ok _ => vswitch.gate.map fun gate => (plane.inspect gate frameData sender now).2).map
        fun gate => plane.tick gate loopTurn.ticked := by
  unfold turn
  cases loopTurn.received with
  | none => exact congrArg (Option.map _) (vswitch.drainDue_gate loopTurn.drained)
  | some received =>
      obtain ⟨frameData, sender, now⟩ := received
      refine congrArg (Option.map _) ?_
      exact (processFrame_spec plane _ frameData sender now).gate.trans
        (congrArg (fun gate =>
          match EthernetFrame.tryParse frameData with
          | .error _ => gate
          | .ok _ => gate.map fun gate => (plane.inspect gate frameData sender now).2)
          (vswitch.drainDue_gate loopTurn.drained))

end VSwitch

namespace LabNetwork

/-- The frame that a turn asks the gate about: one that the switch receives, and that is
well formed. -/
def inspectedIn (turn : Parties.Turn (LabNetwork γ) LabTurn Datagram) : Option (Endpoint × Bytes) :=
  match turn.input, turn.received with
  | .vswitch _ _ _, some datagram =>
      let frameData := datagram.data.take receiveBuffer
      match EthernetFrame.tryParse frameData with
      | .error _ => none
      | .ok _ => some (datagram.source, frameData)
  | _, _ => none

/-- The frames that some turns ask the gate about. -/
def inspectedFrames (past : LabHistory γ) : List (Endpoint × Bytes) := past.filterMap inspectedIn

theorem inspectedFrames_append (past : LabHistory γ)
    (turn : Parties.Turn (LabNetwork γ) LabTurn Datagram) :
    inspectedFrames (past ++ [turn]) = inspectedFrames past ++ (inspectedIn turn).toList := by
  rw [inspectedFrames, List.filterMap_append, ← inspectedFrames]
  cases hinspected : inspectedIn turn with
  | none => simp [hinspected]
  | some frame => simp [hinspected]

/-- The switch has a gate, of which `I` holds. -/
def Guarded (I : List (Endpoint × Bytes) → γ → Prop) (past : LabHistory γ)
    (network : LabNetwork γ) : Prop :=
  ∃ gate, network.vswitch.gate = some gate ∧ I (inspectedFrames past) gate

section
variable {I : List (Endpoint × Bytes) → γ → Prop} {past : LabHistory γ}
  {network after : LabNetwork γ} {sent : List Datagram}

/-- A turn of the switch. -/
theorem Guarded.vswitch (hkeeps : plane.Keeps I) (h : network.Guarded I past)
    {drained processed ticked : Int} {received : Option Datagram}
    (hturn : network.turn plane (.vswitch drained processed ticked) received =
      some (after, sent)) :
    after.Guarded I
      (past ++ [{ before := network, input := .vswitch drained processed ticked, received }]) := by
  obtain ⟨gate, hgate, hholds⟩ := h
  simp only [turn, Option.ite_none_right_eq_some, Option.some.injEq, Prod.mk.injEq] at hturn
  obtain ⟨_, rfl, _⟩ := hturn
  rw [Guarded, inspectedFrames_append, VSwitch.turn_gate, hgate]
  cases received with
  | none =>
      rw [inspectedIn, Option.toList_none, List.append_nil]
      exact ⟨_, rfl, hkeeps.tick _ gate ticked hholds⟩
  | some datagram =>
      simp only [Option.map_some, inspectedIn]
      cases EthernetFrame.tryParse (datagram.data.take receiveBuffer) with
      | error _ =>
          rw [Option.toList_none, List.append_nil]
          exact ⟨_, rfl, hkeeps.tick _ gate ticked hholds⟩
      | ok _ =>
          rw [Option.toList_some]
          exact ⟨_, rfl, hkeeps.tick _ _ ticked
            (hkeeps.inspect _ gate _ _ processed hholds (List.length_take_le _ _))⟩

/-- **Every turn keeps what the gate keeps**: the ports do not touch it. -/
theorem guarded_sound (hkeeps : plane.Keeps I) :
    (labNetwork plane).Sound (Guarded I) fun _ _ _ => True := by
  intro past turn after sent h _ hturn
  refine ⟨?_, fun _ _ => trivial, fun _ _ => trivial⟩
  obtain ⟨network, input, received⟩ := turn
  obtain ⟨gate, hgate, hholds⟩ := h
  cases input with
  | vswitch drained processed ticked => exact Guarded.vswitch hkeeps ⟨gate, hgate, hholds⟩ hturn
  | tapToSwitch index frame sends =>
      cases received with
      | some _ => cases hturn
      | none =>
          obtain ⟨port, _, hafter⟩ := Option.map_eq_some_iff.mp hturn
          obtain ⟨rfl, _⟩ := Prod.mk.inj hafter
          rw [Guarded, inspectedFrames_append, inspectedIn, Option.toList_none, List.append_nil]
          exact ⟨gate, hgate, hholds⟩
  | switchToTap index writes =>
      cases received with
      | none => cases hturn
      | some datagram =>
          obtain ⟨port, _, hafter⟩ := Option.bind_eq_some_iff.mp hturn
          simp only [Option.ite_none_right_eq_some, Option.some.injEq, Prod.mk.injEq] at hafter
          obtain ⟨_, rfl, _⟩ := hafter
          rw [Guarded, inspectedFrames_append, inspectedIn, Option.toList_none, List.append_nil]
          exact ⟨gate, hgate, hholds⟩

/-- **A run of the lab network** keeps what its gate keeps. -/
theorem labNetwork_gate (hkeeps : plane.Keeps I) {gate : γ} (hgate : network.vswitch.gate = some gate)
    (hholds : I [] gate) {labels : List (LabTurn × Option Nat)}
    {state : LabNetwork γ × List Datagram}
    (hrun : (labNetwork plane).system.exec (network, []) labels = some state) :
    state.1.Guarded I ((labNetwork plane).turns (network, []) labels) :=
  ((guarded_sound hkeeps).exec ⟨gate, hgate, hholds⟩ hrun).1

/-- **Every turn of a run** starts from what the gate keeps. -/
theorem labNetwork_turn_gate (hkeeps : plane.Keeps I) {gate : γ}
    (hgate : network.vswitch.gate = some gate) (hholds : I [] gate)
    {labels : List (LabTurn × Option Nat)} {turn : Parties.Turn (LabNetwork γ) LabTurn Datagram}
    (hturn : turn ∈ (labNetwork plane).turns (network, []) labels) :
    ∃ earlier, earlier ++ [turn] <+: (labNetwork plane).turns (network, []) labels ∧
      turn.before.Guarded I earlier :=
  (guarded_sound hkeeps).turns ⟨gate, hgate, hholds⟩ turn hturn

end
end LabNetwork
end WireLab
