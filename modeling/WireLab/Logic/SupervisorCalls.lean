import WireLab.Logic.Enforcement
import WireLab.Model.SwitchSupervisor

/-!
# What a call of the supervisor touches

Binding and recording leave the enforcer and the controller alone, and every call
returns.
-/

namespace WireLab

open Base TopologyController PolicyEnforcer

/-- A strong lease drops. -/
theorem Lease.blocks {lease : Lease} (h : 2 ≤ lease.action.kind.severity) :
    lease.enforced.blackhole = true ∨ lease.enforced.isolated = true := by
  unfold Lease.enforced overlay
  cases hkind : lease.action.kind with
  | none => rw [hkind] at h; exact absurd h (by decide)
  | rateLimit => rw [hkind] at h; exact absurd h (by decide)
  | blackhole => exact .inl rfl
  | isolate => exact .inr rfl

/-- The enforcer and the controller of a supervisor. -/
def SwitchSupervisor.dataplane {α : Type} (supervisor : SwitchSupervisor α) :
    PolicyEnforcer × TopologyController :=
  (supervisor.pipeline.enforcer, supervisor.controller)

section
variable {α : Type}

/-- Binding a sender changes nothing but the bindings. -/
theorem bind_same (supervisor : SwitchSupervisor α) (sender : Endpoint) :
    (supervisor.bind sender).2.pipeline = supervisor.pipeline ∧
      (supervisor.bind sender).2.controller = supervisor.controller ∧
      (supervisor.bind sender).2.controlled = supervisor.controlled := by
  unfold SwitchSupervisor.bind
  split
  · exact ⟨rfl, rfl, rfl⟩
  · exact ⟨rfl, rfl, rfl⟩

/-- Recording a frame changes nothing but the bindings and the batch. -/
theorem record_same (supervisor : SwitchSupervisor α) (frameData : Bytes)
    (sender : Endpoint) :
    (supervisor.record frameData sender).1 = (supervisor.bind sender).1 ∧
      (supervisor.record frameData sender).2.pipeline = supervisor.pipeline ∧
      (supervisor.record frameData sender).2.controller = supervisor.controller ∧
      (supervisor.record frameData sender).2.controlled = supervisor.controlled := by
  have hsame := bind_same supervisor sender
  unfold SwitchSupervisor.record
  dsimp only
  split
  · exact ⟨rfl, hsame⟩
  · exact ⟨rfl, hsame⟩

/-- A tick returns. -/
theorem tick_returns (analyzer : PacketAnalyzer α)
    (served : TopologyController → TopologyController) (supervisor : SwitchSupervisor α)
    (now : Int) : ∃ out, supervisor.tick analyzer served now = some out := by
  have hanalyse : ∀ supervisor : SwitchSupervisor α,
      ∃ out, supervisor.analyse analyzer now = some out := by
    intro supervisor
    obtain ⟨out, hout⟩ := supervisor.pipeline.evaluate_returns supervisor.controller
      (analyzer.analyze supervisor.analyzer supervisor.batch).1 (SwitchSupervisor.timestampNs now)
      now
    simp only [SwitchSupervisor.analyse, hout]
    exact ⟨_, rfl⟩
  simp only [SwitchSupervisor.tick]
  split
  · exact ⟨_, rfl⟩
  · obtain ⟨out, hout⟩ := hanalyse (supervisor.serve served)
    simp only [hout]
    split
    · exact ⟨_, rfl⟩
    · exact ⟨_, rfl⟩

/-- A frame is always judged. -/
theorem inspect_returns (analyzer : PacketAnalyzer α)
    (served : TopologyController → TopologyController) (supervisor : SwitchSupervisor α)
    (frameData : Bytes) (sender : Endpoint) (arrival : Int) :
    ∃ out, supervisor.inspect analyzer served frameData sender arrival = some out := by
  simp only [SwitchSupervisor.inspect]
  split
  · next hready =>
      split at hready
      · obtain ⟨out, hout⟩ :=
          tick_returns analyzer served (supervisor.record frameData sender).2 arrival
        rw [hready] at hout
        exact absurd hout (by simp)
      · exact absurd hready (by simp)
  · exact ⟨_, rfl⟩

end
end WireLab
