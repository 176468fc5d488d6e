import WireLab.Logic.FaultRuns

/-!
# Faults on one target never influence another

Random streams, pacing clocks and configurations are kept in one cell a target,
and a call reads and writes the cell of its own target only. Two runs that agree
on the calls about a target therefore decide every frame of it alike, whatever
else they contain.
-/

namespace WireLab

open Base

/-- The decisions a run takes about a target's frames, in order. -/
def FaultEngine.decisions (target : Bytes) (engine : FaultEngine)
    (operations : List FaultOperation) : List FaultDecision :=
  (faultCells.answers target engine operations).filterMap FaultAnswer.decision?

/-- **Targets are isolated**: two runs of engines with one seed that contain the
same calls about a target take the same decisions about it. -/
theorem targets_isolated (seed : UInt64) (target : Bytes) (first second : List FaultOperation)
    (hsame : (first.filter fun operation => operation.target = target) =
      second.filter fun operation => operation.target = target) :
    FaultEngine.decisions target { seed } first = FaultEngine.decisions target { seed } second := by
  have hanswers : faultCells.answers target { seed } first =
      faultCells.answers target { seed } second :=
    faultCells.answers_congr target rfl hsame
  rw [FaultEngine.decisions, FaultEngine.decisions, hanswers]

/-- A lossy target beside a second one that is set, used and cleared, and by
itself. -/
theorem targets_isolated_beside :
    FaultEngine.decisions (bytes "port:a") { seed := 7 }
        [.setFault (bytes "port:a") { lossBasisPoints := 5000, jitter := 100 },
          .evaluate (bytes "port:a") 64 0, .evaluate (bytes "port:a") 1500 10] =
      FaultEngine.decisions (bytes "port:a") { seed := 7 }
        [.setFault (bytes "port:b") { jitter := 9 }, .evaluate (bytes "port:b") 64 0,
          .setFault (bytes "port:a") { lossBasisPoints := 5000, jitter := 100 },
          .evaluate (bytes "port:a") 64 0, .clearFault (bytes "port:b"),
          .evaluate (bytes "port:a") 1500 10] :=
  targets_isolated 7 (bytes "port:a") _ _ (by decide)

end WireLab
