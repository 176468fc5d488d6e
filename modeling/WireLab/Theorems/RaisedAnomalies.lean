import WireLab.Logic.RaisedAnomalies
import WireLab.Theorems.SlidingWindow

/-!
# Who raises an anomaly

Over the calls of a pipeline: what is remembered as active exceeds in the window
(`evaluating_remembers`), so that a call reports only what its own packets have raised.
-/

namespace WireLab

open Base

/-- The invariant of the runs. -/
theorem evaluating_remembers :
    evaluating.Inductive fun state => state.1.detector.Remembers where
  init state h := AnomalyDetector.remembers_fresh h.1 h.2.1
  step state call next _ hstep := by
    obtain ⟨⟨outcome, after, controller⟩, hevaluate, rfl⟩ := Option.map_eq_some_iff.mp hstep
    obtain ⟨hanalyses, _⟩ := AnalysisPipeline.evaluate_spec hevaluate
    exact (AnomalyDetector.evaluate_detects hanalyses.detected).remembers_after

/-- **A call reports what its packets have raised.** Whatever calls came before, a call
returns, and each anomaly it reports is about a source that packets of this very batch come
from; it names the addresses of that source, and the port by which the last of these packets
came in. Quiet sources are never reported, even where the window slides. -/
theorem anomaly_raised_by_batch (state : AnalysisPipeline × AnalysisOutcome) (call : EvaluateCall)
    (h : evaluating.Reachable state) :
    ∃ outcome after controller,
      state.1.evaluate call.controller call.batch call.timestampNs call.now =
        some (outcome, after, controller) ∧
      ∀ event ∈ outcome.anomalies, ∃ source, event.About source
        (call.batch.packets.map (AnomalyDetector.observed
          (max state.1.lastTimestampNs call.timestampNs))) := by
  obtain ⟨⟨outcome, after, controller⟩, hevaluate⟩ := state.1.evaluate_returns call.controller
    call.batch call.timestampNs call.now
  obtain ⟨hanalyses, _⟩ := AnalysisPipeline.evaluate_spec hevaluate
  have hdetects := AnomalyDetector.evaluate_detects hanalyses.detected
  have hremembers := evaluating_remembers.invariant state h
  exact ⟨outcome, after, controller, hevaluate, fun event hevent =>
    hdetects.raised_by_batch hremembers hevent⟩

/-- A storm in the first batch. -/
theorem anomaly_raised_by_batch_storm :
    ∃ outcome after controller,
      ({ detector := { config := { broadcastPacketsThreshold := 1 } } } :
          AnalysisPipeline).evaluate {} stormCall.batch 5 0 = some (outcome, after, controller) ∧
      ∀ event ∈ outcome.anomalies, ∃ source, event.About source
        (stormCall.batch.packets.map (AnomalyDetector.observed 5)) :=
  anomaly_raised_by_batch ({ detector := { config := { broadcastPacketsThreshold := 1 } } }, {})
    stormCall (.init ⟨rfl, rfl, rfl⟩)

end WireLab
