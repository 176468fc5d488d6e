import WireLab.Model.TrafficGenerator

/-!
# The traffic kernel

`metal_traffic_kernel.metal`: one thread a frame, each in its place of one buffer,
and the dispatch `metal_traffic_generator.mm` makes of it. A thread is what it writes;
its pointers into the buffer are 64 bits wide, its offsets into a frame 32.
-/

namespace WireLab

open Base

/-- `static_cast<uint32_t>(config.scenario)`. -/
def TrafficScenario.code : TrafficScenario → UInt32
  | .knownUnicast => 0
  | .broadcast => 1
  | .unknownUnicast => 2
  | .mixed => 3
  | .udpFlood => 4
  | .portScan => 5
  | .broadcastStorm => 6

namespace Metal.Traffic

def ethernetHeaderSize : UInt32 := 14
def ipv4MinimumHeaderSize : UInt32 := 20
def udpHeaderSize : UInt32 := 8
def ipv4MaximumTotalSize : UInt32 := 65535
def udpProtocol : UInt8 := 17
def splitmixGamma : UInt64 := 0x9E3779B97F4A7C15

def scenarioBroadcast : UInt32 := 1
def scenarioUnknownUnicast : UInt32 := 2
def scenarioMixed : UInt32 := 3
def scenarioUdpFlood : UInt32 := 4
def scenarioPortScan : UInt32 := 5
def scenarioBroadcastStorm : UInt32 := 6

structure TrafficKernelParameters where
  seed : UInt64 := 0
  firstSequence : UInt64 := 0
  frameSize : UInt32 := 0
  hostCount : UInt32 := 0
  scenario : UInt32 := 0
  frameCount : UInt32 := 0

def splitmixNext (state : UInt64) : UInt64 × UInt64 :=
  let state := state + splitmixGamma
  let z := state
  let z := (z ^^^ (z >>> 30)) * 0xBF58476D1CE4E5B9
  let z := (z ^^^ (z >>> 27)) * 0x94D049BB133111EB
  (z ^^^ (z >>> 31), state)

def writeHostMac (writes : Writes) (out : Nat) (host : UInt32) : Writes :=
  writes.copy out
    [0x02, 0x57, 0x4c, (host >>> 16).toUInt8, (host >>> 8).toUInt8, host.toUInt8]

def writeU16 (writes : Writes) (out : Nat) (value : UInt16) : Writes :=
  (writes.write out (value >>> 8).toUInt8).write (out + 1) value.toUInt8

/-! ## The payload -/

/-- Between two words: the random state, and how much of the payload is filled. -/
structure Filling where
  state : UInt64
  offset : UInt32 := 0
  writes : Writes

/-- One byte of a word, the least significant first. -/
def writeByte (payload : Nat) (offset : UInt32) (value : UInt64) (writes : Writes)
    (byte : UInt32) : Writes :=
  writes.write (payload + (offset + byte).toNat) (value >>> (8 * byte).toUInt64).toUInt8

/-- One turn of the loop over whole words. -/
def fillWord (payload : Nat) (filling : Filling) : Filling :=
  let (value, state) := splitmixNext filling.state
  { state
    offset := filling.offset + 8
    writes := ((List.range 8).map UInt32.ofNat).foldl (writeByte payload filling.offset value)
      filling.writes }

/-- Between two bytes of the last word. -/
structure Rest where
  byte : UInt32 := 0
  writes : Writes

/-- One turn of the loop over the bytes of the last word. -/
def fillByte (payload : Nat) (offset : UInt32) (value : UInt64) (rest : Rest) : Rest where
  byte := rest.byte + 1
  writes := writeByte payload offset value rest.writes rest.byte

/-- The loop over the bytes of the last word. -/
def fillRest (payload : Nat) (payloadSize offset : UInt32) (value : UInt64) (writes : Writes) :
    Option Writes := do
  let rest ← loop (fun rest => offset + rest.byte < payloadSize) (fillByte payload offset value)
    payloadSize.toNat { writes }
  return rest.writes

def fillPayload (state : UInt64) (payload : Nat) (payloadSize : UInt32) (writes : Writes) :
    Option Writes := do
  let filling ← loop (fun filling => filling.offset + 8 ≤ payloadSize) (fillWord payload)
    payloadSize.toNat { state, writes }
  if filling.offset < payloadSize then
    fillRest payload payloadSize filling.offset (splitmixNext filling.state).1 filling.writes
  else return filling.writes

/-! ## Frames -/

/-- What the scenarios decide. -/
structure FramePlan where
  sourceHost : UInt32
  destinationHost : UInt32
  protocol : UInt8 := 0
  sourcePort : UInt16 := 0
  destinationPort : UInt16 := 0
  broadcastDestination : Bool := false
  unknownDestination : Bool := false

def framePlan (parameters : TrafficKernelParameters) (scenario : UInt32)
    (sequence entropy : UInt64) : FramePlan :=
  let sourceHost := (sequence % parameters.hostCount.toUInt64).toUInt32
  let plan : FramePlan :=
    { sourceHost, destinationHost := (sourceHost + 1) % parameters.hostCount }
  if scenario = scenarioBroadcast then { plan with broadcastDestination := true }
  else if scenario = scenarioUnknownUnicast then { plan with unknownDestination := true }
  else if scenario = scenarioUdpFlood then
    { plan with
      sourceHost := 0
      destinationHost := 1
      protocol := udpProtocol
      sourcePort := (0xC000 ||| (entropy.toUInt32 &&& 0x3FFF)).toUInt16
      destinationPort := 9000 }
  else if scenario = scenarioPortScan then
    { plan with
      sourceHost := 0
      destinationHost := 1
      protocol := udpProtocol
      sourcePort := 44444
      destinationPort := (1 + sequence % 1024).toUInt16 }
  else if scenario = scenarioBroadcastStorm then
    { plan with
      broadcastDestination := true
      sourceHost := (sequence % (min parameters.hostCount 3).toUInt64).toUInt32
      destinationHost := 0xffff
      protocol := udpProtocol
      sourcePort := 137
      destinationPort := 137 }
  else plan

def writeDestination (writes : Writes) (frame : Nat) (plan : FramePlan) (entropy : UInt64) :
    Writes :=
  if plan.broadcastDestination then writes.copy frame (List.replicate 6 0xff)
  else if plan.unknownDestination then
    writes.copy frame [0x02, 0xfe, (entropy >>> 24).toUInt8, (entropy >>> 16).toUInt8,
      (entropy >>> 8).toUInt8, entropy.toUInt8]
  else writeHostMac writes frame plan.destinationHost

/-- The sum of the ten words of a header. -/
def sumWords (memory : Memory) (payload : Nat) : Option UInt32 :=
  (List.range 10).foldlM (fun sum word => do
    let high ← memory (payload + 2 * word)
    let low ← memory (payload + (2 * word + 1))
    return sum + (high.toUInt32 <<< 8 ||| low.toUInt32)) 0

/-- One turn of the loop that folds the carries of a sum into its lower half. -/
def foldCarry (sum : UInt32) : UInt32 := (sum &&& 0xffff) + (sum >>> (16 : UInt32))

/-- The fields of a header, its checksum zero. -/
def writeIpv4Fields (writes : Writes) (payload : Nat) (size identification : UInt16)
    (protocol : UInt8) (source destination : UInt16) : Writes :=
  let writes := writes.write payload 0x45
  let writes := writes.write (payload + 1) 0
  let writes := writeU16 writes (payload + 2) size
  let writes := writeU16 writes (payload + 4) identification
  let writes := writeU16 writes (payload + 6) 0
  let writes := writes.write (payload + 8) 64
  let writes := writes.write (payload + 9) protocol
  let writes := writeU16 writes (payload + 10) 0
  let writes := writes.write (payload + 12) 10
  let writes := writes.write (payload + 13) 0
  let writes := writeU16 writes (payload + 14) source
  let writes := writes.write (payload + 16) 10
  let writes := writes.write (payload + 17) 0
  writeU16 writes (payload + 18) destination

def writeIpv4Header (writes : Writes) (payload : Nat) (payloadSize : UInt32) (sequence : UInt64)
    (protocol : UInt8) (sourceHost destinationHost : UInt32) : Option Writes := do
  let writes := writeIpv4Fields writes payload payloadSize.toUInt16 sequence.toUInt16 protocol
    sourceHost.toUInt16 destinationHost.toUInt16
  let words ← sumWords writes.memory payload
  let sum ← loop (fun sum : UInt32 => sum >>> (16 : UInt32) ≠ 0) foldCarry words.toNat words
  return writeU16 writes (payload + 10) (~~~sum).toUInt16

def writeUdpHeader (writes : Writes) (transport : Nat) (transportSize : UInt32)
    (sourcePort destinationPort : UInt16) : Writes :=
  let writes := writeU16 writes transport sourcePort
  let writes := writeU16 writes (transport + 2) destinationPort
  let writes := writeU16 writes (transport + 4) transportSize.toUInt16
  writeU16 writes (transport + 6) 0

/-- What the thread at `index` writes into the buffer of frames, the last write
first. -/
def generateFrames (parameters : TrafficKernelParameters) (index : UInt32) : Option Writes := do
  if parameters.frameCount ≤ index then return []
  let sequence := parameters.firstSequence + index.toUInt64
  let (entropy, state) := splitmixNext (parameters.seed ^^^ (sequence * splitmixGamma))
  let scenario :=
    if parameters.scenario = scenarioMixed then (sequence % 3).toUInt32 else parameters.scenario
  let frame := (index.toUInt64 * parameters.frameSize.toUInt64).toNat
  let payload := frame + ethernetHeaderSize.toNat
  let payloadSize := parameters.frameSize - ethernetHeaderSize
  let writes ← fillPayload state payload payloadSize []
  let plan := framePlan parameters scenario sequence entropy
  let writes := writeDestination writes frame plan entropy
  let writes := writeHostMac writes (frame + 6) plan.sourceHost
  let writes := writeU16 writes (frame + 12) 0x0800
  if payloadSize < ipv4MinimumHeaderSize ∨ ipv4MaximumTotalSize < payloadSize then return writes
  let protocol :=
    if plan.protocol = udpProtocol ∧ payloadSize < ipv4MinimumHeaderSize + udpHeaderSize then 0
    else plan.protocol
  let writes ← writeIpv4Header writes payload payloadSize sequence protocol plan.sourceHost
    plan.destinationHost
  if protocol ≠ udpProtocol then return writes
  return writeUdpHeader writes (payload + ipv4MinimumHeaderSize.toNat)
    (payloadSize - ipv4MinimumHeaderSize) plan.sourcePort plan.destinationPort

/-! ## The dispatch -/

/-- What `generate` hands to the kernel. -/
def trafficKernelParameters (config : TrafficGeneratorConfig) (firstSequence count : UInt64) :
    TrafficKernelParameters where
  seed := config.seed
  firstSequence := firstSequence
  frameSize := config.frameSize.toUInt32
  hostCount := config.hostCount
  scenario := config.scenario.code
  frameCount := count.toUInt32

def metalThreadsPerGroup : Nat := 256

/-- The threads of the dispatch, by their positions in the grid. -/
def threads (count : Nat) : List UInt32 :=
  (List.range ((count + metalThreadsPerGroup - 1) / metalThreadsPerGroup * metalThreadsPerGroup)).map
    .ofNat

end Metal.Traffic
end WireLab
