import WireLab.Logic.Lab

/-!
# When a dispatch returns

With the CPU backend and source every request is answered, but for one kind: a
benchmark whose latencies do not fit in memory. `create` checks the batch a run
handles at a time and not the number of batches, for which it reserves one
latency each.
-/

namespace WireLab

open Base

/-- How many batches a benchmark makes room for; the sum wraps at 64 bits. -/
def BenchmarkParameters.batches (benchmark : BenchmarkParameters) : UInt64 :=
  (benchmark.packetCount + benchmark.batchSize.toUInt64 - 1) / benchmark.batchSize.toUInt64

/-- A text that asks for a CPU benchmark of more batches than there is memory
for, when no benchmark is running. -/
structure Overcommits {β τ : Type} (service : ControlService β τ)
    (controller : TopologyController) (env : Environment) (json : Bytes)
    (request : ControlRequest) : Prop where
  admitted : service.admits controller json = some request
  command : request.command = .startBenchmark
  idle : service.benchmarkRun = none
  scenario : ∃ scenario, trafficScenarioFromString request.benchmark.scenario = .ok scenario
  backend : request.benchmark.backend = .cpu
  generator : request.benchmark.generator = bytes "cpu"
  memory : env.allocates request.benchmark.batches.toNat = false

section
variable {β τ : Type} {service : ControlService β τ} {controller : TopologyController}
  {env : Environment} {json : Bytes} {request : ControlRequest}

/-- Only a benchmark can fail to return. -/
private theorem execute_returns (h : request.command ≠ .startBenchmark) :
    (service.execute controller env request).isSome = true := by
  unfold ControlService.execute
  cases hcommand : request.command <;> first | exact absurd hcommand h | rfl

/-- A batch of the largest size a request may ask for can be addressed. -/
private theorem batch_addressable {frameSize batchSize : UInt32} (hlow : frameSize ≥ 14)
    (hhigh : frameSize ≤ 9000) (hbatch : batchSize ≤ 8192) :
    ¬batchSize.toUInt64 > UInt64.ofNat (2 ^ 32 - 1) / frameSize.toUInt64 := by
  have hoffsets : (UInt64.ofNat (2 ^ 32 - 1)).toNat = 2 ^ 32 - 1 := rfl
  have hmin : (14 : UInt32).toNat = 14 := rfl
  have hmax : (9000 : UInt32).toNat = 9000 := rfl
  have hmost : (8192 : UInt32).toNat = 8192 := rfl
  rw [ge_iff_le, UInt32.le_iff_toNat_le, hmin] at hlow
  rw [UInt32.le_iff_toNat_le] at hhigh hbatch
  rw [gt_iff_lt, UInt64.lt_iff_toNat_lt, UInt64.toNat_div, UInt32.toNat_toUInt64,
    UInt32.toNat_toUInt64, hoffsets, not_lt]
  calc batchSize.toNat ≤ 8192 := by omega
    _ ≤ (2 ^ 32 - 1) / frameSize.toNat := (Nat.le_div_iff_mul_le (by omega)).mpr (by omega)

/-- A valid benchmark passes the checks of `create`. -/
private theorem create_checks (scenario : TrafficScenario)
    (hvalid : isValidBenchmark request.benchmark = true) :
    let config := ControlService.benchmarkConfig request.benchmark scenario
    ¬(config.packetCount = 0 ∨ config.batchSize = 0) ∧
      ¬(config.traffic.frameSize < .ofNat ethernetHeaderSize ∨
        config.traffic.frameSize > maxBenchmarkFrameSize) ∧
      ¬config.traffic.hostCount < 2 ∧
      ¬config.batchSize > UInt64.ofNat (2 ^ 32 - 1) / config.traffic.frameSize := by
  simp only [isValidBenchmark, Bool.and_eq_true, decide_eq_true_eq] at hvalid
  obtain ⟨⟨⟨⟨⟨⟨_, hbatchLow⟩, hbatch⟩, _⟩, hpackets⟩, hlow⟩, hhigh⟩ := hvalid
  simp only [ControlService.benchmarkConfig]
  refine ⟨?_, ?_, by decide, batch_addressable hlow hhigh hbatch⟩
  · rintro (hzero | hzero)
    · rw [hzero] at hpackets
      exact absurd hpackets (by decide)
    · have hnat := congrArg UInt64.toNat hzero
      rw [UInt32.toNat_toUInt64] at hnat
      rw [gt_iff_lt, UInt32.lt_iff_toNat_lt, hnat] at hbatchLow
      exact absurd hbatchLow (by decide)
  · have hheader : (UInt64.ofNat ethernetHeaderSize).toNat = (14 : UInt32).toNat := rfl
    have hlongest : maxBenchmarkFrameSize.toNat = (9000 : UInt32).toNat := rfl
    rw [ge_iff_le, UInt32.le_iff_toNat_le, ← hheader] at hlow
    rw [UInt32.le_iff_toNat_le, ← hlongest] at hhigh
    rw [gt_iff_lt, UInt64.lt_iff_toNat_lt, UInt64.lt_iff_toNat_lt, UInt32.toNat_toUInt64]
    omega

private theorem toString_ne_cpu {backend : AnalyzerBackend} (h : backend ≠ .cpu) :
    backend.toString ≠ bytes "cpu" := by
  cases backend with
  | cpu => exact absurd rfl h
  | cuda => decide

/-- A guarded result is missing when the guard fails. -/
private theorem reserve_eq_none {α : Type} {granted : Bool} {run : α} :
    (if granted = true then some run else none) = none ↔ granted = false := by
  cases granted <;> simp

/-- `create` throws for the CPU exactly when it cannot reserve. -/
private theorem create_cpu_eq_none (cpu : CpuDevices β τ) (allocates : Nat → Bool)
    (scenario : TrafficScenario) (hvalid : isValidBenchmark request.benchmark = true) :
    BenchmarkRun.create allocates (ControlService.benchmarkConfig request.benchmark scenario)
        (some (cpuBenchmarkBackendFactory cpu)) (some (cpuTrafficSourceFactory cpu)) = none ↔
      request.benchmark.backend = .cpu ∧ request.benchmark.generator = bytes "cpu" ∧
        allocates request.benchmark.batches.toNat = false := by
  obtain ⟨hcounts, hframe, hhosts, hbatch⟩ := create_checks scenario hvalid
  obtain ⟨analyzer, hanalyzer⟩ := Option.isSome_iff_exists.mp cpu.present
  unfold BenchmarkRun.create
  rw [if_neg hcounts, if_neg hframe, if_neg hhosts, if_neg hbatch]
  simp only [cpuBenchmarkBackendFactory, cpuTrafficSourceFactory]
  by_cases hbackend : request.benchmark.backend = .cpu
  · rw [if_neg (by simp [ControlService.benchmarkConfig, hbackend, AnalyzerBackend.toString])]
    simp only [hanalyzer]
    by_cases hgenerator : request.benchmark.generator = bytes "cpu"
    · rw [if_neg (by simp [ControlService.benchmarkConfig, hgenerator])]
      simp only [hbackend, hgenerator, true_and]
      exact reserve_eq_none
    · rw [if_pos (by simp [ControlService.benchmarkConfig, hgenerator])]
      simp [hgenerator]
  · rw [if_pos (by simpa [ControlService.benchmarkConfig] using toString_ne_cpu hbackend)]
    simp [hbackend]

private theorem startBenchmark_eq_none (hbackends : service.benchmarkBackends = none)
    (hsources : service.trafficSources = none)
    (hvalid : isValidBenchmark request.benchmark = true) :
    service.startBenchmark controller env.allocates request = none ↔
      service.benchmarkRun = none ∧
        (∃ scenario, trafficScenarioFromString request.benchmark.scenario = .ok scenario) ∧
        request.benchmark.backend = .cpu ∧ request.benchmark.generator = bytes "cpu" ∧
        env.allocates request.benchmark.batches.toNat = false := by
  unfold ControlService.startBenchmark
  simp only [hbackends, hsources, Option.getD_none]
  cases hrun : service.benchmarkRun with
  | some run => simp
  | none =>
      simp only [Option.isSome_none, Bool.false_eq_true, if_false, true_and]
      cases hscenario : trafficScenarioFromString request.benchmark.scenario with
      | error e => simp
      | ok scenario =>
          have hcreate := create_cpu_eq_none service.cpu env.allocates scenario hvalid
          simp only [Except.ok.injEq, exists_eq', true_and]
          rw [← hcreate]
          split
          · next hnone => simp [hnone]
          · next hrefused => simp [hrefused]
          · next hmade => simp [hmade]

/-- A valid request to start a benchmark has a valid benchmark. -/
private theorem benchmark_of_validate (hvalid : request.validate = .ok ())
    (hcommand : request.command = .startBenchmark) :
    isValidBenchmark request.benchmark = true := by
  unfold ControlRequest.validate at hvalid
  split_ifs at hvalid with _ _ hbenchmark
  simpa [hcommand] using hbenchmark

/-- **When a dispatch returns.** With the CPU backend and source, every text is
answered unless it overcommits memory. -/
theorem dispatch_returns_iff {β τ : Type} (service : ControlService β τ)
    (controller : TopologyController) (env : Environment) (json : Bytes)
    (hbackends : service.benchmarkBackends = none) (hsources : service.trafficSources = none) :
    (service.dispatch controller env json).isSome = true ↔
      ∀ request, ¬Overcommits service controller env json request := by
  cases hadmits : service.admits controller json with
  | none =>
      obtain ⟨d, hd, _⟩ := dispatch_of_not_admits env hadmits
      refine iff_of_true (by rw [hd]; rfl) fun request h => ?_
      rw [h.admitted] at hadmits
      exact absurd hadmits (by simp)
  | some request =>
      obtain ⟨_, hvalid, _⟩ := ControlService.admits_eq_some.mp hadmits
      rw [dispatch_of_admits hadmits]
      by_cases hcommand : request.command = .startBenchmark
      · rw [← not_iff_not, not_forall_not]
        simp only [Bool.not_eq_true, Option.isSome_eq_false_iff, Option.isNone_iff_eq_none,
          ControlService.execute, hcommand]
        rw [startBenchmark_eq_none hbackends hsources (benchmark_of_validate hvalid hcommand)]
        constructor
        · rintro ⟨hidle, hscenario, hbackend, hgenerator, hmemory⟩
          exact ⟨request, hadmits, hcommand, hidle, hscenario, hbackend, hgenerator, hmemory⟩
        · rintro ⟨other, h⟩
          obtain rfl : request = other := Option.some.inj (hadmits.symm.trans h.admitted)
          exact ⟨h.idle, h.scenario, h.backend, h.generator, h.memory⟩
      · refine iff_of_true (execute_returns hcommand) fun other h => ?_
        obtain rfl : request = other := Option.some.inj (hadmits.symm.trans h.admitted)
        exact hcommand h.command

end

/-- An ordinary benchmark is answered. -/
theorem dispatch_returns_iff_hundredPackets :
    (labService.dispatch {} labEnv (benchmarkLab 100)).isSome = true := by
  refine (dispatch_returns_iff labService {} labEnv (benchmarkLab 100) rfl rfl).mpr
    fun request h => ?_
  have hbatches : (labService.admits {} (benchmarkLab 100)).map
      (fun request => request.benchmark.batches.toNat) = some 100 := by decide +kernel
  rw [h.admitted, Option.map_some, Option.some.injEq] at hbatches
  have hmemory := h.memory
  rw [hbatches] at hmemory
  exact absurd hmemory (by decide)

/-- **One request takes the switch down**: a benchmark of the largest packet
count, in batches of one, is not answered. -/
theorem dispatch_throws :
    ¬∀ json, (labService.dispatch {} labEnv json).isSome = true := by
  intro h
  have hthrows : (labService.dispatch {} labEnv (benchmarkLab (2 ^ 64 - 1))).isSome = false := by
    decide +kernel
  rw [h (benchmarkLab (2 ^ 64 - 1))] at hthrows
  exact absurd hthrows (by simp)

end WireLab
