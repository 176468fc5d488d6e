import WireLab.Model.Benchmark
import WireLab.Model.SessionDetail

/-!
# The benchmark report of a session

`session_report.cpp`: a report measures every backend of a list, one after the
other, a slice at a time. The texts that `export_report` writes are left out; whether
each file could be written is an argument.
-/

namespace WireLab

open Base

/-- How a call ends. An exception leaves what it was called on as far as it got. -/
inductive Completion
  | returned
  | threw
  deriving DecidableEq, Repr

structure ReportRow where
  backendLabel : Bytes
  backendId : Bytes
  scenario : Bytes
  packets : UInt64
  elapsedNs : UInt64
  packetsPerSecond : Float
  goodputBitsPerSecond : Float
  lossPercent : Float
  latencyP50Ns : UInt64
  latencyP95Ns : UInt64
  latencyP99Ns : UInt64
  hostToDeviceNs : UInt64
  kernelNs : UInt64
  deviceToHostNs : UInt64
  transferInclusiveNs : UInt64
  queueWaitNs : UInt64
  speedup : Float

structure ReportProvenance where
  scenario : Bytes := []
  seed : UInt64 := 0
  packets : UInt64 := 0
  batchSize : UInt64 := 0
  frameSize : UInt64 := 0
  hostCount : UInt64 := 0
  generator : Bytes := []
  version : Bytes := []
  buildType : Bytes := []
  backendsCompiledIn : List Bytes := []
  backendsPresent : List Bytes := []
  generatedAt : Bytes := []

/-- What a build and its machine offer to a session. An analyzer of a device has a
constructor that may throw, and so may its analysis. -/
structure SessionEnvironment (δ β τ : Type) where
  /-- The labels of the accelerated backends that are present. -/
  accelerated : List Bytes := []
  device : Bytes → Option δ := fun _ => none
  analyze : δ → List PacketView → Option (AnalysisBatch × δ) := fun _ _ => none
  benchmarkFactory : BenchmarkBackendFactory β
  trafficFactory : TrafficSourceFactory τ
  allocates : Nat → Bool
  compiledIn : Bytes → Bool := fun id => id = bytes "cpu"
  version : Bytes := []
  buildType : Bytes := bytes "Unknown"
  formatFixed : Float → Nat → Bytes
  lround : Float → Int

variable {δ β τ : Type}

def SessionEnvironment.availableBackends (env : SessionEnvironment δ β τ) : List Bytes :=
  bytes "CPU" :: env.accelerated

/-- The part of a session that belongs to its report. -/
structure BenchmarkReport (β τ : Type) where
  running : Bool := false
  progress : Float := 0.0
  stage : Bytes := []
  exportPath : Bytes := []
  config : BenchmarkConfig := {}
  queue : List Bytes := []
  index : Nat := 0
  sliceBudget : UInt64 := 0
  completedPackets : UInt64 := 0
  totalPackets : UInt64 := 0
  run : Option (BenchmarkRun β τ) := none
  results : List BenchmarkResult := []
  rows : List ReportRow := []
  provenance : ReportProvenance := {}

/-- How arming the next backend ends. -/
inductive Begun
  | armed
  | exhausted
  | threw
  deriving DecidableEq, Repr

namespace BenchmarkReport

/-- Arm the first of the queued backends that a run can be built for. -/
def beginBackends (env : SessionEnvironment δ β τ) :
    List Bytes → BenchmarkReport β τ → Begun × BenchmarkReport β τ
  | [], report => (.exhausted, report)
  | label :: rest, report =>
      match BenchmarkRun.create env.allocates
        { report.config with backend := SessionDetail.benchmarkBackendId label }
        (some env.benchmarkFactory) (some env.trafficFactory) with
      | none => (.threw, report)
      | some (.ok run) =>
          (.armed, { report with
            run := some run
            stage := bytes "Measuring " ++ label ++ bytes " (" ++ decimal (report.index + 1) ++
              bytes " of " ++ decimal report.queue.length ++ bytes ")" })
      | some (.error _) =>
          beginBackends env rest
            { report with
              completedPackets := report.completedPackets + report.config.packetCount
              index := report.index + 1 }

/-- `begin_next_report_backend`. -/
def beginNext (env : SessionEnvironment δ β τ) (report : BenchmarkReport β τ) :
    Begun × BenchmarkReport β τ :=
  beginBackends env (report.queue.drop report.index) report

/-- A result as a row; without a CPU measurement there is nothing to be a multiple
of. -/
def reportRow (cpuPacketsPerSecond : Float) (result : BenchmarkResult) : ReportRow where
  backendLabel := SessionDetail.benchmarkBackendLabel result.backend
  backendId := result.backend
  scenario := result.scenario
  packets := result.completedPackets
  elapsedNs := result.elapsedNs
  packetsPerSecond := result.packetsPerSecond
  goodputBitsPerSecond := result.goodputBitsPerSecond
  lossPercent := result.lossPercentage
  latencyP50Ns := result.batchAnalysisLatencyP50Ns
  latencyP95Ns := result.batchAnalysisLatencyP95Ns
  latencyP99Ns := result.batchAnalysisLatencyP99Ns
  hostToDeviceNs := result.timing.hostToDeviceNs
  kernelNs := result.timing.kernelNs
  deviceToHostNs := result.timing.deviceToHostNs
  transferInclusiveNs := result.timing.transferInclusiveNs
  queueWaitNs := result.timing.queueWaitNs
  speedup := if cpuPacketsPerSecond ≤ 0.0 then 0.0 else result.packetsPerSecond / cpuPacketsPerSecond

/-- `rebuild_report_rows`. -/
def rebuildRows (report : BenchmarkReport β τ) : BenchmarkReport β τ :=
  let cpuPacketsPerSecond := report.results.foldl
    (fun found result => if result.backend = bytes "cpu" then result.packetsPerSecond else found) 0.0
  { report with rows := report.results.map (reportRow cpuPacketsPerSecond) }

/-- `rebuild_report_provenance`, at a time. -/
def rebuildProvenance (env : SessionEnvironment δ β τ) (generatedAt : Bytes)
    (report : BenchmarkReport β τ) : BenchmarkReport β τ :=
  { report with
    provenance :=
      { scenario := report.config.traffic.scenario.toString
        seed := report.config.traffic.seed
        packets := report.config.packetCount
        batchSize := report.config.batchSize
        frameSize := report.config.traffic.frameSize
        hostCount := report.config.traffic.hostCount.toUInt64
        generator := report.config.generator
        version := env.version
        buildType := env.buildType
        backendsCompiledIn :=
          [bytes "CPU", bytes "CUDA", bytes "Metal", bytes "Metal (live)"].filter fun label =>
            env.compiledIn (SessionDetail.benchmarkBackendId label)
        backendsPresent := env.availableBackends
        generatedAt } }

/-- What `finish_report` leaves of a report. -/
def finished (report : BenchmarkReport β τ) : BenchmarkReport β τ :=
  { report with
    run := none
    running := false
    progress := 1.0
    stage := decimal report.rows.length ++ bytes " backend(s) measured" ++
      SessionDetail.middleDot ++ decimal report.config.packetCount.toNat ++
      bytes " packets each" }

/-- The checked configuration of a report. -/
def configured (scenario : TrafficScenario) (packets batchSize frameSize seed : Int32) :
    BenchmarkConfig where
  traffic := { scenario, seed := .ofNat seed.toInt.toNat, frameSize := .ofNat frameSize.toInt.toNat }
  packetCount := .ofNat packets.toInt.toNat
  batchSize := .ofNat batchSize.toInt.toNat

/-- A report that starts: nothing measured, every available backend queued. -/
def started (env : SessionEnvironment δ β τ) (generatedAt : Bytes) (config : BenchmarkConfig)
    (report : BenchmarkReport β τ) : BenchmarkReport β τ :=
  rebuildProvenance env generatedAt
    { report with
      config
      queue := env.availableBackends
      index := 0
      results := []
      rows := []
      exportPath := []
      completedPackets := 0
      totalPackets := config.packetCount * .ofNat env.availableBackends.length
      sliceBudget := max config.batchSize ((config.packetCount + 19) / 20)
      running := true
      progress := 0.0 }

/-- One slice of the armed run; the result and the rows where it was the last. -/
def advanced (latencyNs : Nat → UInt64) (sliceNs : UInt64) (run : BenchmarkRun β τ)
    (report : BenchmarkReport β τ) : BenchmarkReport β τ :=
  let after := (run.advance latencyNs sliceNs report.sliceBudget).2
  let report :=
    { report with
      run := some after
      completedPackets := report.completedPackets + (after.completedPackets - run.completedPackets) }
  if after.finished then
    rebuildRows { report with
      results := report.results ++ [after.result]
      run := none
      index := report.index + 1 }
  else report

/-- The share that is done. -/
def progressed (report : BenchmarkReport β τ) : BenchmarkReport β τ :=
  { report with
    progress :=
      if report.totalPackets = 0 then 1.0
      else report.completedPackets.toFloat / report.totalPackets.toFloat }

end BenchmarkReport

/-- Whether a path ends in `.json`, in whatever case. -/
def endsWithJson (path : Bytes) : Bool :=
  5 ≤ path.length && (path.drop (path.length - 5)).map SessionDetail.toLower = bytes ".json"

end WireLab
