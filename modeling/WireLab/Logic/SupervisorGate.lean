import WireLab.Logic.LabGates
import WireLab.Logic.SupervisorCalls

/-!
# The supervisor as a gate

The supervisor of a switch without a control channel is its gate (`supervisorGate`). A
frame is recorded, a batch that it fills is analysed, and then the port of its sender
decides (`inspect_spec`); what those three steps keep, the gate keeps.
-/

namespace WireLab

open Base

section
variable {α : Type} {analyzer : PacketAnalyzer α}

namespace SwitchSupervisor

variable {supervisor after : SwitchSupervisor α} {frameData : Bytes} {sender : Endpoint}
  {arrival now : Int} {served : TopologyController → TopologyController}

theorem judge_count (supervisor : SwitchSupervisor α) (portId frameData : Bytes) (arrival : Int) :
    (supervisor.judge portId frameData arrival).1.deliveryCount ≤ deliveryTimesSize := by
  unfold judge
  dsimp only
  split
  · exact Nat.le_succ 1
  · split
    · exact Nat.le_succ 1
    · next evaluated controller hevaluated =>
        show evaluated.deliveryCount ≤ 2
        simp only [TopologyController.evaluatePort] at hevaluated
        split at hevaluated
        · cases hevaluated
        · split at hevaluated
          · cases hevaluated
          · obtain ⟨rfl, _⟩ := Prod.mk.inj (Except.ok.inj hevaluated)
            unfold FaultEngine.evaluate
            split
            · exact Nat.le_succ 1
            · exact FaultState.judge_count _ _ _

/-- **Inspecting a frame**: it is recorded, what then is a full batch is analysed, and the
port of the sender decides. -/
theorem inspect_spec {decision : FaultDecision} {outcome : TickOutcome}
    (h : supervisor.inspect analyzer served frameData sender arrival =
      some (decision, outcome, after)) :
    ∃ ready,
      (ready = (supervisor.record frameData sender).2 ∨
        (supervisor.record frameData sender).2.tick analyzer served arrival =
          some (outcome, ready)) ∧
      ready.judge (supervisor.bind sender).1.portId frameData arrival = (decision, after) := by
  obtain ⟨hbinding, _⟩ := record_same supervisor frameData sender
  simp only [inspect, hbinding] at h
  split at h
  · cases h
  · next outcome' ready hready =>
      simp only [Option.some.injEq, Prod.mk.injEq] at h
      obtain ⟨rfl, rfl, rfl⟩ := h
      refine ⟨ready, ?_, rfl⟩
      split at hready
      · exact .inr hready
      · obtain ⟨_, rfl⟩ := Prod.mk.inj (Option.some.inj hready)
        exact .inl rfl

theorem inspect_count {decision : FaultDecision} {outcome : TickOutcome}
    (h : supervisor.inspect analyzer served frameData sender arrival =
      some (decision, outcome, after)) : decision.deliveryCount ≤ deliveryTimesSize := by
  obtain ⟨ready, _, hjudge⟩ := inspect_spec h
  have hcount := ready.judge_count (supervisor.bind sender).1.portId frameData arrival
  rwa [hjudge] at hcount

/-- What an analysis does: the batch is analysed and evaluated, and a new one begins. -/
structure AnalysesBatch (analyzer : PacketAnalyzer α) (now : Int)
    (before after : SwitchSupervisor α) : Prop where
  evaluated : ∃ outcome, before.pipeline.evaluate before.controller
    (analyzer.analyze before.analyzer before.batch).1 (timestampNs now) now =
      some (outcome, after.pipeline, after.controller)
  batch : after.batch = []
  bindings : after.bindings = before.bindings
  controlled : after.controlled = before.controlled

/-- **A tick** without a control channel analyses the batch, if it does anything. -/
theorem tick_spec {outcome : TickOutcome} (huncontrolled : supervisor.controlled = false)
    (h : supervisor.tick analyzer served now = some (outcome, after)) :
    after = supervisor ∨ AnalysesBatch analyzer now supervisor after := by
  have hserve : supervisor.serve served = supervisor := by
    rw [serve, huncontrolled, if_neg (by simp)]
  simp only [tick, hserve] at h
  split at h
  · obtain ⟨_, rfl⟩ := Prod.mk.inj (Option.some.inj h)
    exact .inl rfl
  · split at h
    · cases h
    · next analysis analysed hanalyse =>
        simp only [analyse] at hanalyse
        split at hanalyse
        · cases hanalyse
        · next pipeline controller hevaluate =>
            obtain ⟨rfl, rfl⟩ := Prod.mk.inj (Option.some.inj hanalyse)
            simp only [huncontrolled, Bool.not_false, if_true, Option.some.injEq,
              Prod.mk.injEq] at h
            obtain ⟨_, rfl⟩ := h
            exact .inr ⟨⟨_, hevaluate⟩, rfl, rfl, huncontrolled.symm⟩

end SwitchSupervisor

/-- The supervisor of a switch without a control channel. -/
def supervisorGate (analyzer : PacketAnalyzer α) : FrameGate (SwitchSupervisor α) where
  inspect supervisor frameData sender arrival :=
    let out := (supervisor.inspect analyzer id frameData sender arrival).get
      (Option.isSome_iff_exists.mpr (inspect_returns analyzer id supervisor frameData sender arrival))
    (out.1, out.2.2)
  tick supervisor now :=
    ((supervisor.tick analyzer id now).get
      (Option.isSome_iff_exists.mpr (tick_returns analyzer id supervisor now))).2
  tickInterval supervisor := supervisor.config.tickInterval / 1000000
  bounded supervisor frameData sender arrival := by
    obtain ⟨out, hout⟩ := inspect_returns analyzer id supervisor frameData sender arrival
    simp only [hout, Option.get_some]
    exact SwitchSupervisor.inspect_count hout

variable {supervisor after : SwitchSupervisor α}

theorem supervisorGate_inspect {frameData : Bytes} {sender : Endpoint} {arrival : Int}
    {decision : FaultDecision} {outcome : TickOutcome}
    (h : supervisor.inspect analyzer id frameData sender arrival = some (decision, outcome, after)) :
    (supervisorGate analyzer).inspect supervisor frameData sender arrival = (decision, after) := by
  simp only [supervisorGate, h, Option.get_some]

theorem supervisorGate_tick {now : Int} {outcome : TickOutcome}
    (h : supervisor.tick analyzer id now = some (outcome, after)) :
    (supervisorGate analyzer).tick supervisor now = after := by
  simp only [supervisorGate, h, Option.get_some]

/-- **What the steps keep, the gate keeps**: `I` holds of a supervisor without a control
channel and of the frames it was asked about. -/
theorem supervisorGate_keeps {I : List (Endpoint × Bytes) → SwitchSupervisor α → Prop}
    (huncontrolled : ∀ seen supervisor, I seen supervisor → supervisor.controlled = false)
    (hrecord : ∀ seen supervisor frameData sender, I seen supervisor →
      frameData.length ≤ receiveBuffer →
        I (seen ++ [(sender, frameData)]) (supervisor.record frameData sender).2)
    (hanalyse : ∀ seen before after now, I seen before →
      SwitchSupervisor.AnalysesBatch analyzer now before after → I seen after)
    (hjudge : ∀ seen supervisor portId frameData arrival, I seen supervisor →
      I seen (supervisor.judge portId frameData arrival).2) :
    (supervisorGate analyzer).Keeps I := by
  have htick : ∀ seen supervisor served now outcome after, I seen supervisor →
      supervisor.tick analyzer served now = some (outcome, after) → I seen after := by
    intro seen supervisor served now outcome after hkept h
    rcases SwitchSupervisor.tick_spec (huncontrolled seen supervisor hkept) h with rfl | hanalyses
    · exact hkept
    · exact hanalyse seen supervisor after now hkept hanalyses
  constructor
  · intro seen supervisor frameData sender arrival hkept hfits
    obtain ⟨⟨decision, outcome, after⟩, hout⟩ :=
      inspect_returns analyzer id supervisor frameData sender arrival
    obtain ⟨ready, hready, hjudged⟩ := SwitchSupervisor.inspect_spec hout
    rw [supervisorGate_inspect hout]
    have hrecorded := hrecord seen supervisor frameData sender hkept hfits
    have hkept' : I (seen ++ [(sender, frameData)]) ready := by
      rcases hready with rfl | hticked
      · exact hrecorded
      · exact htick _ _ id arrival outcome ready hrecorded hticked
    have hresult := hjudge _ ready (supervisor.bind sender).1.portId frameData arrival hkept'
    rwa [hjudged] at hresult
  · intro seen supervisor now hkept
    obtain ⟨⟨outcome, after⟩, hout⟩ := tick_returns analyzer id supervisor now
    rw [supervisorGate_tick hout]
    exact htick seen supervisor id now outcome after hkept hout

end
end WireLab
