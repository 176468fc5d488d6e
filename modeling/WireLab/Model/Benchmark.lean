import WireLab.Model.PacketBatch
import WireLab.Model.TrafficGenerator

/-!
# Benchmark runs

`benchmark.cpp`: a run analyses generated frames batch by batch, in slices.
The analyzer and the frame source are interfaces, as in the source
(`PacketAnalyzer`, `StreamingPacketAnalyzer`, `TrafficBatchSource`): a run is
generic in the type `β` of the analyzer object and `τ` of the source object.

Durations that the code measures are arguments of the calls that measure them.
The one allocation whose size a request chooses is `BenchmarkRun.create`'s
`reserve`; whether it succeeds is the allocator's answer (`allocates`).
-/

namespace WireLab

open Base

inductive BenchmarkError
  | unknownScenario
  | unknownBackend
  | backendUnavailable
  | invalidConfiguration
  deriving DecidableEq, Repr

def BenchmarkError.toString : BenchmarkError → Bytes
  | .unknownScenario => bytes "unknown traffic scenario"
  | .unknownBackend => bytes "unknown benchmark backend"
  | .backendUnavailable => bytes "benchmark backend is unavailable"
  | .invalidConfiguration => bytes "invalid benchmark configuration"

def TrafficScenario.toString : TrafficScenario → Bytes
  | .knownUnicast => bytes "known-unicast"
  | .broadcast => bytes "broadcast"
  | .unknownUnicast => bytes "unknown-unicast"
  | .mixed => bytes "mixed-traffic"
  | .udpFlood => bytes "udp-flood"
  | .portScan => bytes "port-scan"
  | .broadcastStorm => bytes "broadcast-storm"

def trafficScenarioFromString (name : Bytes) : Except BenchmarkError TrafficScenario :=
  if name = bytes "known-unicast" then .ok .knownUnicast
  else if name = bytes "broadcast" then .ok .broadcast
  else if name = bytes "unknown-unicast" then .ok .unknownUnicast
  else if name = bytes "mixed-traffic" then .ok .mixed
  else if name = bytes "udp-flood" then .ok .udpFlood
  else if name = bytes "port-scan" then .ok .portScan
  else if name = bytes "broadcast-storm" then .ok .broadcastStorm
  else .error .unknownScenario

structure BenchmarkConfig where
  traffic : TrafficGeneratorConfig := {}
  packetCount : UInt64 := 100000
  batchSize : UInt64 := 1
  backend : Bytes := bytes "cpu"
  generator : Bytes := bytes "cpu"
  deriving DecidableEq, Repr

structure AnalyzerTiming where
  hostToDeviceNs : UInt64 := 0
  kernelNs : UInt64 := 0
  deviceToHostNs : UInt64 := 0
  transferInclusiveNs : UInt64 := 0
  queueWaitNs : UInt64 := 0
  deriving DecidableEq, Repr

structure BenchmarkResult where
  backend : Bytes
  scenario : Bytes
  seed : UInt64
  frameSize : UInt64
  batchSize : UInt64
  totalPackets : UInt64
  completedPackets : UInt64
  receivedPackets : UInt64
  receivedBytes : UInt64
  malformedPackets : UInt64
  broadcastPackets : UInt64
  unknownUnicastPackets : UInt64
  knownUnicastPackets : UInt64
  elapsedNs : UInt64
  packetsPerSecond : Float
  goodputBitsPerSecond : Float
  lossPercentage : Float
  batchAnalysisLatencyP50Ns : UInt64
  batchAnalysisLatencyP95Ns : UInt64
  batchAnalysisLatencyP99Ns : UInt64
  timing : AnalyzerTiming

/-! ## Interfaces -/

/-- An analyzer that is handed a batch now and asked for the answer later. -/
structure StreamingPacketAnalyzer (β : Type) where
  submit : β → PacketBatch → β
  tryCollect : β → Option AnalysisBatch × β
  drain : β → List AnalysisBatch × β
  inFlight : β → Nat

/-- What a backend factory builds; a missing analyzer is a null pointer. -/
structure BenchmarkBackend (β : Type) where
  analyzer : Option β
  analyze : β → PacketBatch → AnalysisBatch × β
  timing : Option (β → AnalyzerTiming × β) := none
  streaming : Option (StreamingPacketAnalyzer β) := none

/-- Frames addressed by absolute sequence. -/
structure TrafficBatchSource (τ : Type) where
  source : τ
  fill : τ → UInt64 → UInt64 → List Bytes × τ

abbrev BenchmarkBackendFactory (β : Type) :=
  BenchmarkConfig → Except BenchmarkError (BenchmarkBackend β)

/-- A source factory; a missing source is a null pointer. -/
abbrev TrafficSourceFactory (τ : Type) :=
  BenchmarkConfig → Except BenchmarkError (Option (TrafficBatchSource τ))

/-- The analyzer and the generator the core library links. -/
structure CpuDevices (β τ : Type) where
  analyzer : BenchmarkBackend β
  source : TrafficGeneratorConfig → TrafficBatchSource τ
  present : analyzer.analyzer.isSome

variable {β τ : Type}

def cpuBenchmarkBackendFactory (cpu : CpuDevices β τ) : BenchmarkBackendFactory β := fun config =>
  if config.backend ≠ bytes "cpu" then .error .unknownBackend else .ok cpu.analyzer

def cpuTrafficSourceFactory (cpu : CpuDevices β τ) : TrafficSourceFactory τ := fun config =>
  if config.generator ≠ bytes "cpu" then .error .unknownBackend
  else .ok (some (cpu.source config.traffic))

/-! ## Runs -/

def maxBenchmarkFrameSize : UInt64 := 9000

/-- A run: its configuration, its devices and what it has counted so far. -/
structure BenchmarkRun (β τ : Type) where
  config : BenchmarkConfig
  backend : BenchmarkBackend β
  analyzer : β
  source : TrafficBatchSource τ
  analysisLatencyNs : List UInt64 := []
  accumulatedTiming : AnalyzerTiming := {}
  completedPackets : UInt64 := 0
  receivedPackets : UInt64 := 0
  receivedBytes : UInt64 := 0
  malformedPackets : UInt64 := 0
  broadcastPackets : UInt64 := 0
  unknownUnicastPackets : UInt64 := 0
  knownUnicastPackets : UInt64 := 0
  elapsedNs : UInt64 := 0

namespace BenchmarkRun

/-- How many latencies `create` makes room for; the sum wraps at 64 bits. -/
def reservedLatencies (config : BenchmarkConfig) : UInt64 :=
  (config.packetCount + config.batchSize - 1) / config.batchSize

/-- Build a run. `none` is the exception of a `reserve` that the allocator
refuses. -/
def create (allocates : Nat → Bool) (config : BenchmarkConfig)
    (factory : Option (BenchmarkBackendFactory β)) (traffic : Option (TrafficSourceFactory τ)) :
    Option (Except BenchmarkError (BenchmarkRun β τ)) :=
  if config.packetCount = 0 ∨ config.batchSize = 0 then some (.error .invalidConfiguration)
  else if config.traffic.frameSize < .ofNat ethernetHeaderSize ∨
      config.traffic.frameSize > maxBenchmarkFrameSize then some (.error .invalidConfiguration)
  else if config.traffic.hostCount < 2 then some (.error .invalidConfiguration)
  else if config.batchSize > UInt64.ofNat (2 ^ 32 - 1) / config.traffic.frameSize then
    some (.error .invalidConfiguration)
  else
    match factory, traffic with
    | some factory, some traffic =>
        match factory config with
        | .error e => some (.error e)
        | .ok backend =>
            match backend.analyzer with
            | none => some (.error .backendUnavailable)
            | some analyzer =>
                match traffic config with
                | .error e => some (.error e)
                | .ok none => some (.error .backendUnavailable)
                | .ok (some source) =>
                    if allocates (reservedLatencies config).toNat then
                      some (.ok { config, backend, analyzer, source })
                    else none
    | _, _ => some (.error .invalidConfiguration)

def finished (run : BenchmarkRun β τ) : Bool := run.completedPackets ≥ run.config.packetCount

def totalPackets (run : BenchmarkRun β τ) : UInt64 := run.config.packetCount

/-- Count one analysed batch. -/
def account (run : BenchmarkRun β τ) (analysis : AnalysisBatch) : BenchmarkRun β τ :=
  let run :=
    { run with
      receivedPackets := run.receivedPackets + analysis.receivedPackets
      receivedBytes := run.receivedBytes + analysis.receivedBytes
      malformedPackets := run.malformedPackets + analysis.malformedPackets
      broadcastPackets := run.broadcastPackets + analysis.broadcastPackets
      unknownUnicastPackets := run.unknownUnicastPackets + analysis.unknownUnicastPackets
      knownUnicastPackets := run.knownUnicastPackets + analysis.knownUnicastPackets }
  match run.backend.timing with
  | none => run
  | some timing =>
      let (batch, analyzer) := timing run.analyzer
      let total := run.accumulatedTiming
      { run with
        analyzer
        accumulatedTiming :=
          { hostToDeviceNs := total.hostToDeviceNs + batch.hostToDeviceNs
            kernelNs := total.kernelNs + batch.kernelNs
            deviceToHostNs := total.deviceToHostNs + batch.deviceToHostNs
            transferInclusiveNs := total.transferInclusiveNs + batch.transferInclusiveNs
            queueWaitNs := total.queueWaitNs + batch.queueWaitNs }
        analysisLatencyNs :=
          if run.backend.streaming.isSome then run.analysisLatencyNs ++ [batch.transferInclusiveNs]
          else run.analysisLatencyNs }

/-- Count every batch the device has finished by now. Each turn but the last takes one
batch out of the device. -/
def collect (streaming : StreamingPacketAnalyzer β) :
    Nat → BenchmarkRun β τ → BenchmarkRun β τ
  | 0, run => run
  | pending + 1, run =>
      match streaming.tryCollect run.analyzer with
      | (none, analyzer) => { run with analyzer }
      | (some analysis, analyzer) =>
          collect streaming pending ({ run with analyzer }.account analysis)

/-- One batch of the loop in `advance`; `latencyNs` is its measured analysis
time. The flag says whether the batch could be built. -/
def advanceBatch (run : BenchmarkRun β τ) (latencyNs : UInt64) : Bool × UInt64 × BenchmarkRun β τ :=
  let remaining := run.config.packetCount - run.completedPackets
  let currentBatchSize := min run.config.batchSize remaining
  let (frames, source) := run.source.fill run.source.source run.completedPackets currentBatchSize
  let run := { run with source := { run.source with source } }
  match PacketBatch.create (frames.map fun frame => { bytes := frame }) 0 with
  | .error _ => (false, 0, { run with completedPackets := run.config.packetCount })
  | .ok batch =>
      let run :=
        match run.backend.streaming with
        | some streaming =>
            let run := { run with analyzer := streaming.submit run.analyzer batch }
            collect streaming (streaming.inFlight run.analyzer + 1) run
        | none =>
            let (analysis, analyzer) := run.backend.analyze run.analyzer batch
            { run with analyzer, analysisLatencyNs := run.analysisLatencyNs ++ [latencyNs] }.account
              analysis
      (true, currentBatchSize,
        { run with completedPackets := run.completedPackets + currentBatchSize })

/-- The loop of `advance`: a batch completes at least one packet, so the
remaining budget bounds its rounds. -/
def advanceLoop (latencyNs : Nat → UInt64) (maxPackets : UInt64) :
    Nat → UInt64 → BenchmarkRun β τ → UInt64 × BenchmarkRun β τ
  | 0, completedHere, run => (completedHere, run)
  | fuel + 1, completedHere, run =>
      match run.advanceBatch (latencyNs fuel) with
      | (false, _, run) => (completedHere, run)
      | (true, completed, run) =>
          let completedHere := completedHere + completed
          if completedHere < maxPackets ∧ !run.finished then
            advanceLoop latencyNs maxPackets fuel completedHere run
          else (completedHere, run)

/-- Analyse whole batches until `maxPackets` are done. The clock is read around
each analysis (`latencyNs`) and around the call (`sliceNs`). -/
def advance (run : BenchmarkRun β τ) (latencyNs : Nat → UInt64) (sliceNs maxPackets : UInt64) :
    UInt64 × BenchmarkRun β τ :=
  if maxPackets = 0 ∨ run.finished then (0, run)
  else
    let (completedHere, run) := advanceLoop latencyNs maxPackets maxPackets.toNat 0 run
    let run :=
      match run.backend.streaming with
      | some streaming =>
          if run.finished then
            let (analyses, analyzer) := streaming.drain run.analyzer
            analyses.foldl account { run with analyzer }
          else run
      | none => run
    (completedHere, { run with elapsedNs := run.elapsedNs + sliceNs })

/-- The latency below which `numerator` out of `denominator` batches fall. -/
def percentile (latencies : List UInt64) (numerator denominator : Nat) : UInt64 :=
  let index := (latencies.length * numerator + denominator - 1) / denominator - 1
  ((latencies.mergeSort (· ≤ ·))[index]?).getD 0

def result (run : BenchmarkRun β τ) : BenchmarkResult :=
  let elapsedSeconds := run.elapsedNs.toFloat / 1e9
  { backend := run.config.backend
    scenario := run.config.traffic.scenario.toString
    seed := run.config.traffic.seed
    frameSize := run.config.traffic.frameSize
    batchSize := run.config.batchSize
    totalPackets := run.config.packetCount
    completedPackets := run.completedPackets
    receivedPackets := run.receivedPackets
    receivedBytes := run.receivedBytes
    malformedPackets := run.malformedPackets
    broadcastPackets := run.broadcastPackets
    unknownUnicastPackets := run.unknownUnicastPackets
    knownUnicastPackets := run.knownUnicastPackets
    elapsedNs := run.elapsedNs
    packetsPerSecond :=
      if elapsedSeconds == 0.0 then 0.0 else run.receivedPackets.toFloat / elapsedSeconds
    goodputBitsPerSecond :=
      if elapsedSeconds == 0.0 then 0.0 else run.receivedBytes.toFloat * 8.0 / elapsedSeconds
    lossPercentage :=
      if run.receivedPackets = 0 then 0.0
      else run.malformedPackets.toFloat * 100.0 / run.receivedPackets.toFloat
    batchAnalysisLatencyP50Ns := percentile run.analysisLatencyNs 50 100
    batchAnalysisLatencyP95Ns := percentile run.analysisLatencyNs 95 100
    batchAnalysisLatencyP99Ns := percentile run.analysisLatencyNs 99 100
    timing := run.accumulatedTiming }

end BenchmarkRun
end WireLab
