import WireLab.Model.Benchmark
import WireLab.Model.PacketAnalyzer

/-!
# The CPU's devices

`cpu_benchmark_backend_factory` and `traffic_source.cpp`: the analyzer of packets that
the core library links, and the source of frames that it links.
-/

namespace WireLab

open Base

/-- `analyze`, as the interface of an analyzer has it. Offsets that lead out of a batch
are not followed. -/
def CpuPacketAnalyzer.answer (learnedMacs : List MacAddress) (batch : PacketBatch) :
    AnalysisBatch × List MacAddress :=
  (analyzeBatch learnedMacs batch).getD ({}, learnedMacs)

namespace CpuTrafficSource

/-- A frame, in a buffer of the size of frames. -/
def frame (config : TrafficGeneratorConfig) (sequence : UInt64) : Bytes :=
  let written := TrafficGenerator.writeTrafficFrame config sequence (some 0)
  let writes := (written.map Prod.snd).getD []
  (List.range config.frameSize.toNat).map fun index => (writes.memory index).getD 0

def fill (config : TrafficGeneratorConfig) (firstSequence count : UInt64) : List Bytes :=
  (List.range count.toNat).map fun index => frame config (firstSequence + .ofNat index)

end CpuTrafficSource

def cpuDevices : CpuDevices (List MacAddress) Unit where
  analyzer := { analyzer := some [], analyze := CpuPacketAnalyzer.answer }
  source config :=
    { source := ()
      fill := fun _ firstSequence count => (CpuTrafficSource.fill config firstSequence count, ()) }
  present := rfl

end WireLab
