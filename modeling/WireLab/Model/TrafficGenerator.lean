import WireLab.Base.Loop
import WireLab.Base.Memory
import WireLab.Model.PacketAnalysis

/-!
# The traffic generator

`traffic_generator.cpp`: the frame of each sequence number, a function of the
configuration and that number. A frame is written through a pointer; the header
checksum reads back what has been written.
-/

namespace WireLab

open Base

inductive TrafficScenario
  | knownUnicast
  | broadcast
  | unknownUnicast
  | mixed
  | udpFlood
  | portScan
  | broadcastStorm
  deriving DecidableEq, Repr

structure TrafficGeneratorConfig where
  scenario : TrafficScenario := .mixed
  seed : UInt64 := 1
  frameSize : UInt64 := 64
  hostCount : UInt32 := 16
  deriving DecidableEq, Repr

namespace TrafficGenerator

def splitmixGamma : UInt64 := 0x9E3779B97F4A7C15
def ipv4HeaderSize : UInt64 := 20
def udpHeaderSize : UInt64 := 8
def udpProtocol : UInt8 := 17
def noTransportProtocol : UInt8 := 0
def ipv4TimeToLive : UInt8 := 64
def floodSourceHost : UInt32 := 0
def floodDestinationHost : UInt32 := 1
def udpFloodDestinationPort : UInt16 := 9000
def ephemeralPortBase : UInt16 := 0xC000
def ephemeralPortMask : UInt16 := 0x3FFF
def portScanSourcePort : UInt16 := 44444
def portScanFirstPort : UInt16 := 1
def portScanPortSpan : UInt64 := 1024
def broadcastStormPort : UInt16 := 137
def broadcastStormSourceLimit : UInt32 := 3
def broadcastStormDestinationHost : UInt32 := 0xffff

/-- `EtherType::IPv4`. -/
def ethertypeIpv4 : UInt16 := 0x0800

/-- The drawn value and the advanced state. -/
def splitmix64 (state : UInt64) : UInt64 × UInt64 :=
  let state := state + splitmixGamma
  let value := state
  let value := (value ^^^ (value >>> 30)) * 0xBF58476D1CE4E5B9
  let value := (value ^^^ (value >>> 27)) * 0x94D049BB133111EB
  (value ^^^ (value >>> 31), state)

def hostMac (host : UInt32) : MacAddress where
  bytes := [0x02, 0x57, 0x4c, ((host >>> 16) &&& 0xff).toUInt8, ((host >>> 8) &&& 0xff).toUInt8,
    (host &&& 0xff).toUInt8]
  size := rfl

def unknownMac (value : UInt64) : MacAddress where
  bytes := [0x02, 0xfe, ((value >>> 24) &&& 0xff).toUInt8, ((value >>> 16) &&& 0xff).toUInt8,
    ((value >>> 8) &&& 0xff).toUInt8, (value &&& 0xff).toUInt8]
  size := rfl

def writeNetworkU16 (writes : Writes) (out : Nat) (value : UInt16) : Writes :=
  (writes.write out (value >>> 8).toUInt8).write (out + 1) value.toUInt8

/-! ## The payload -/

/-- Between two words: the random state, and how much of the payload is filled. -/
structure Filling where
  state : UInt64
  index : UInt64 := 0
  writes : Writes

/-- The eight bytes of a word, the least significant first. -/
def writeWord (writes : Writes) (payload : Nat) (index value : UInt64) : Writes :=
  ((List.range 8).foldl (fun (value, writes) offset =>
    (value >>> 8, writes.write (payload + (index + .ofNat offset).toNat) value.toUInt8))
    (value, writes)).2

/-- One turn of the loop over whole words. -/
def fillWord (payload : Nat) (filling : Filling) : Filling :=
  let (value, state) := splitmix64 filling.state
  { state
    index := filling.index + 8
    writes := writeWord filling.writes payload filling.index value }

/-- What is left of the last word, before each of its bytes. -/
structure LastWord where
  value : UInt64
  index : UInt64
  writes : Writes

/-- One turn of the loop over the bytes of the last word. -/
def fillByte (payload : Nat) (last : LastWord) : LastWord where
  value := last.value >>> 8
  index := last.index + 1
  writes := last.writes.write (payload + last.index.toNat) last.value.toUInt8

def fillRandomPayload (state : UInt64) (payload : Nat) (size : UInt64) (writes : Writes) :
    Option Writes := do
  let filling ← loop (fun filling => filling.index + 8 ≤ size) (fillWord payload) size.toNat
    { state, writes }
  if filling.index < size then
    let (value, _) := splitmix64 filling.state
    let last ← loop (fun last => last.index < size) (fillByte payload) size.toNat
      { value, index := filling.index, writes := filling.writes }
    return last.writes
  else return filling.writes

/-! ## Headers -/

/-- The sum of the ten words of a header. -/
def sumWords (memory : Memory) (header : Nat) : Option UInt32 :=
  (List.range 10).foldlM (fun sum word => do
    let high ← memory (header + 2 * word)
    let low ← memory (header + (2 * word + 1))
    return sum + (high.toUInt32 <<< 8 ||| low.toUInt32)) 0

/-- One turn of the loop that folds the carries of a sum into its lower half. -/
def foldCarry (sum : UInt32) : UInt32 := (sum &&& 0xffff) + (sum >>> (16 : UInt32))

def ipv4Checksum (memory : Memory) (header : Nat) : Option UInt16 := do
  let words ← sumWords memory header
  let sum ← loop (fun sum : UInt32 => sum >>> (16 : UInt32) ≠ 0) foldCarry words.toNat words
  return (~~~sum).toUInt16

/-- The fields of a header, its checksum zero. -/
def writeIpv4Fields (writes : Writes) (payload : Nat) (size identification : UInt16)
    (protocol : UInt8) (source destination : UInt16) : Writes :=
  let writes := writes.write payload 0x45
  let writes := writes.write (payload + 1) 0
  let writes := writeNetworkU16 writes (payload + 2) size
  let writes := writeNetworkU16 writes (payload + 4) identification
  let writes := writeNetworkU16 writes (payload + 6) 0
  let writes := writes.write (payload + 8) ipv4TimeToLive
  let writes := writes.write (payload + 9) protocol
  let writes := writeNetworkU16 writes (payload + 10) 0
  let writes := writes.write (payload + 12) 10
  let writes := writes.write (payload + 13) 0
  let writes := writeNetworkU16 writes (payload + 14) source
  let writes := writes.write (payload + 16) 10
  let writes := writes.write (payload + 17) 0
  writeNetworkU16 writes (payload + 18) destination

def writeIpv4Header (writes : Writes) (payload : Nat) (payloadSize : UInt64)
    (identification : UInt16) (protocol : UInt8) (sourceHost destinationHost : UInt32) :
    Option Writes := do
  let writes := writeIpv4Fields writes payload payloadSize.toUInt16 identification protocol
    sourceHost.toUInt16 destinationHost.toUInt16
  let checksum ← ipv4Checksum writes.memory payload
  return writeNetworkU16 writes (payload + 10) checksum

def writeUdpHeader (writes : Writes) (transport : Nat) (transportSize : UInt64)
    (sourcePort destinationPort : UInt16) : Writes :=
  let writes := writeNetworkU16 writes transport sourcePort
  let writes := writeNetworkU16 writes (transport + 2) destinationPort
  let writes := writeNetworkU16 writes (transport + 4) transportSize.toUInt16
  writeNetworkU16 writes (transport + 6) 0

/-! ## Frames -/

structure FrameShape where
  destinationMac : MacAddress := .zero
  sourceMac : MacAddress := .zero
  sourceHost : UInt32 := 0
  destinationHost : UInt32 := 0
  udp : Bool := false
  sourcePort : UInt16 := 0
  destinationPort : UInt16 := 0

/-- Mixed traffic takes turns with the three benign scenarios. -/
def frameScenario (config : TrafficGeneratorConfig) (sequence : UInt64) : TrafficScenario :=
  if config.scenario ≠ .mixed then config.scenario
  else if sequence % 3 = 0 then .knownUnicast
  else if sequence % 3 = 1 then .broadcast
  else .unknownUnicast

/-- The shape of the benign scenarios. -/
def benignShape (config : TrafficGeneratorConfig) (scenario : TrafficScenario)
    (sequence entropy : UInt64) : FrameShape :=
  let sourceHost := (sequence % config.hostCount.toUInt64).toUInt32
  let destinationHost := (sourceHost + 1) % config.hostCount
  { sourceHost
    destinationHost
    sourceMac := hostMac sourceHost
    destinationMac :=
      if scenario = .broadcast then .broadcast
      else if scenario = .unknownUnicast then unknownMac entropy
      else hostMac destinationHost }

def frameShape (config : TrafficGeneratorConfig) (scenario : TrafficScenario)
    (sequence entropy : UInt64) : FrameShape :=
  match scenario with
  | .mixed | .knownUnicast | .broadcast | .unknownUnicast =>
      benignShape config scenario sequence entropy
  | .udpFlood =>
      { sourceHost := floodSourceHost
        destinationHost := floodDestinationHost
        sourceMac := hostMac floodSourceHost
        destinationMac := hostMac floodDestinationHost
        udp := true
        sourcePort := (ephemeralPortBase.toUInt64 ||| (entropy &&& ephemeralPortMask.toUInt64)).toUInt16
        destinationPort := udpFloodDestinationPort }
  | .portScan =>
      { sourceHost := floodSourceHost
        destinationHost := floodDestinationHost
        sourceMac := hostMac floodSourceHost
        destinationMac := hostMac floodDestinationHost
        udp := true
        sourcePort := portScanSourcePort
        destinationPort := (portScanFirstPort.toUInt64 + sequence % portScanPortSpan).toUInt16 }
  | .broadcastStorm =>
      let sourceHost :=
        (sequence % (min config.hostCount broadcastStormSourceLimit).toUInt64).toUInt32
      { sourceHost
        destinationHost := broadcastStormDestinationHost
        sourceMac := hostMac sourceHost
        destinationMac := .broadcast
        udp := true
        sourcePort := broadcastStormPort
        destinationPort := broadcastStormPort }

/-- The bytes written, zero for a configuration without frames; a missing pointer is
null. -/
def writeTrafficFrame (config : TrafficGeneratorConfig) (sequence : UInt64) :
    Option Nat → Option (UInt64 × Writes)
  | none => some (0, [])
  | some out => do
      if config.frameSize < .ofNat ethernetHeaderSize ∨ config.hostCount < 2 then
        return (0, [])
      let (entropy, state) := splitmix64 (config.seed ^^^ (sequence * splitmixGamma))
      let shape := frameShape config (frameScenario config sequence) sequence entropy
      let writes := Writes.copy [] out shape.destinationMac.bytes
      let writes := writes.copy (out + macAddressSize) shape.sourceMac.bytes
      let writes := writeNetworkU16 writes (out + macAddressSize * 2) ethertypeIpv4
      let payload := out + ethernetHeaderSize
      let payloadSize := config.frameSize - .ofNat ethernetHeaderSize
      let writes ← fillRandomPayload state payload payloadSize writes
      if payloadSize < ipv4HeaderSize ∨ 65535 < payloadSize then
        return (config.frameSize, writes)
      let withUdp := shape.udp && payloadSize ≥ ipv4HeaderSize + udpHeaderSize
      let writes ← writeIpv4Header writes payload payloadSize sequence.toUInt16
        (if withUdp then udpProtocol else noTransportProtocol) shape.sourceHost shape.destinationHost
      if withUdp then
        return (config.frameSize, writeUdpHeader writes (payload + ipv4HeaderSize.toNat)
          (payloadSize - ipv4HeaderSize) shape.sourcePort shape.destinationPort)
      else return (config.frameSize, writes)

/-- The frame in a vector of its own, which is zero before it is written. -/
def trafficFrame (config : TrafficGeneratorConfig) (sequence : UInt64) : Option Bytes := do
  let (size, writes) ← writeTrafficFrame config sequence (some 0)
  return (List.range size.toNat).map fun index => (writes.memory index).getD 0

end TrafficGenerator

/-- A generator of the frames of a configuration, one after the other. Its
constructor checks the configuration. -/
structure DeterministicTrafficGenerator where
  config : TrafficGeneratorConfig
  sequence : UInt64 := 0
  sized : .ofNat ethernetHeaderSize ≤ config.frameSize
  populated : 2 ≤ config.hostCount

namespace DeterministicTrafficGenerator

/-- `none` is the exception thrown at a configuration that does not do. -/
def create (config : TrafficGeneratorConfig) : Option DeterministicTrafficGenerator :=
  if hsized : .ofNat ethernetHeaderSize ≤ config.frameSize then
    if hpopulated : 2 ≤ config.hostCount then
      some { config, sized := hsized, populated := hpopulated }
    else none
  else none

/-- The next frames. A checked configuration has a frame of every number. -/
def generate (generator : DeterministicTrafficGenerator) (count : Nat) :
    List Bytes × DeterministicTrafficGenerator :=
  ((List.range count).map fun index =>
      (TrafficGenerator.trafficFrame generator.config
        (generator.sequence + .ofNat index)).getD [],
    { generator with sequence := generator.sequence + .ofNat count })

end DeterministicTrafficGenerator
end WireLab
