import WireLab.Model.PolicyEnforcer

/-!
# The analysis pipeline

`analysis_pipeline.cpp`: detection, policy and enforcement in one call. The
controller a pipeline is attached to is passed to its methods; a detached
pipeline is given one and leaves it alone.

`AnalysisPipeline.clamped` carries what clamping the clock is for: the detector
is never ahead of it, so that it never throws (`evaluate_returns`).
-/

namespace WireLab

open Base

/-- What one analysed batch produced, in the order it was produced. -/
structure AnalysisOutcome where
  anomalies : List AnomalyEvent := []
  decisions : List PolicyDecision := []
  released : List EnforcementAction := []
  enforced : List EnforcementAction := []
  timestampNs : Nat := 0

theorem unclocked_clamped : ∀ timestampNs ∈ (none : Option Nat), timestampNs ≤ 0 := by
  simp

structure AnalysisPipeline where
  detector : AnomalyDetector := {}
  policies : PolicyEngine := {}
  enforcer : PolicyEnforcer := {}
  attached : Bool := false
  lastTimestampNs : Nat := 0
  clamped : ∀ timestampNs ∈ detector.lastTimestampNs, timestampNs ≤ lastTimestampNs := by
    exact unclocked_clamped

/-- A detector that returns is at the time it was given. -/
theorem AnomalyDetector.evaluate_clock {before after : AnomalyDetector} {batch : AnalysisBatch}
    {timestampNs : Nat} {events : List AnomalyEvent}
    (h : before.evaluate batch timestampNs = some (events, after)) :
    ∀ t ∈ after.lastTimestampNs, t ≤ timestampNs := by
  simp only [evaluate] at h
  split at h
  · exact absurd h (by simp)
  · obtain ⟨_, rfl⟩ := Prod.mk.inj (Option.some.inj h)
    exact fun t ht => (Option.some.inj ht).ge

namespace AnalysisPipeline

/-- Detect, decide, release what has expired, enforce what was decided. The
detection clock is clamped forward. -/
def evaluate (pipeline : AnalysisPipeline) (controller : TopologyController)
    (batch : AnalysisBatch) (timestampNs : Nat) (now : Int) :
    Option (AnalysisOutcome × AnalysisPipeline × TopologyController) :=
  let lastTimestampNs := max pipeline.lastTimestampNs timestampNs
  match hdetect : pipeline.detector.evaluate batch lastTimestampNs with
  | none => none
  | some (anomalies, detector) =>
      let clamped := AnomalyDetector.evaluate_clock hdetect
      let (decisions, policies) := pipeline.policies.evaluate anomalies
      if !pipeline.attached then
        some ({ anomalies, decisions, timestampNs := lastTimestampNs },
          { pipeline with detector, policies, lastTimestampNs, clamped }, controller)
      else
        let (released, enforcer, controller) :=
          pipeline.enforcer.releaseExpired controller now
        let (enforced, enforcer, controller) := enforcer.apply decisions controller now
        some ({ anomalies, decisions, released, enforced, timestampNs := lastTimestampNs },
          { pipeline with detector, policies, enforcer, lastTimestampNs, clamped }, controller)

def attach (pipeline : AnalysisPipeline) : AnalysisPipeline := { pipeline with attached := true }

def detach (pipeline : AnalysisPipeline) : AnalysisPipeline := { pipeline with attached := false }

/-- Forget what was observed, counted and enforced; faults stay as they are. -/
def reset (pipeline : AnalysisPipeline) : AnalysisPipeline where
  detector := pipeline.detector.reset
  policies := pipeline.policies.reset
  enforcer := pipeline.enforcer.forget
  attached := pipeline.attached

/-- End a lease by hand; the flag says whether there was one. -/
def release (pipeline : AnalysisPipeline) (controller : TopologyController) (portId : Bytes) :
    Bool × AnalysisPipeline × TopologyController :=
  if !pipeline.attached then (false, pipeline, controller)
  else
    let (released, enforcer, controller) := pipeline.enforcer.release portId controller
    (released, { pipeline with enforcer }, controller)

/-- **A pipeline never throws**, whatever clock it is given. -/
theorem evaluate_returns (pipeline : AnalysisPipeline) (controller : TopologyController)
    (batch : AnalysisBatch) (timestampNs : Nat) (now : Int) :
    ∃ out, pipeline.evaluate controller batch timestampNs now = some out := by
  simp only [evaluate]
  split
  · next hdetect =>
      simp only [AnomalyDetector.evaluate] at hdetect
      split at hdetect
      · next hearlier =>
          obtain ⟨t, ht, hlt⟩ := (Option.any_eq_true _ _).mp hearlier
          have hclamped := pipeline.clamped t ht
          rw [decide_eq_true_eq] at hlt
          omega
      · exact absurd hdetect (by simp)
  · split
    · exact ⟨_, rfl⟩
    · exact ⟨_, rfl⟩

/-- What a call analyses, whether or not it may enforce. -/
structure Analyses (pipeline : AnalysisPipeline) (batch : AnalysisBatch) (timestampNs : Nat)
    (outcome : AnalysisOutcome) (after : AnalysisPipeline) : Prop where
  detected : pipeline.detector.evaluate batch (max pipeline.lastTimestampNs timestampNs) =
    some (outcome.anomalies, after.detector)
  decided : pipeline.policies.evaluate outcome.anomalies = (outcome.decisions, after.policies)
  attached : after.attached = pipeline.attached
  clock : after.lastTimestampNs = max pipeline.lastTimestampNs timestampNs

/-- What a call that returns does: it analyses the batch, and an attached
pipeline then ends the leases that have run out and enforces the decisions. -/
theorem evaluate_spec {pipeline after : AnalysisPipeline}
    {controller controller' : TopologyController} {batch : AnalysisBatch} {timestampNs : Nat}
    {now : Int} {outcome : AnalysisOutcome}
    (h : pipeline.evaluate controller batch timestampNs now = some (outcome, after, controller')) :
    pipeline.Analyses batch timestampNs outcome after ∧
      (pipeline.attached = false ∧ outcome.released = [] ∧ outcome.enforced = [] ∧
          after.enforcer = pipeline.enforcer ∧ controller' = controller ∨
        pipeline.attached = true ∧ ∃ enforcer middle,
          pipeline.enforcer.releaseExpired controller now = (outcome.released, enforcer, middle) ∧
          enforcer.apply outcome.decisions middle now =
            (outcome.enforced, after.enforcer, controller')) := by
  simp only [evaluate] at h
  split at h
  · exact absurd h (by simp)
  · next anomalies detector hdetect =>
      cases hattached : pipeline.attached with
      | false =>
          simp only [hattached, Bool.not_false, if_true, Option.some.injEq, Prod.mk.injEq] at h
          obtain ⟨rfl, rfl, rfl⟩ := h
          exact ⟨⟨hdetect, rfl, hattached.symm, rfl⟩, .inl ⟨rfl, rfl, rfl, rfl, rfl⟩⟩
      | true =>
          simp only [hattached, Bool.not_true, Bool.false_eq_true, if_false, Option.some.injEq,
            Prod.mk.injEq] at h
          obtain ⟨rfl, rfl, rfl⟩ := h
          exact ⟨⟨hdetect, rfl, hattached.symm, rfl⟩, .inr ⟨rfl, _, _, rfl, rfl⟩⟩

end AnalysisPipeline
end WireLab
