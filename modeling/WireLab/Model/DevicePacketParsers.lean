import WireLab.Base.Launch
import WireLab.Model.PacketBatch
import WireLab.Model.PacketParser

/-!
# The packet parsers of the devices

`metal_kernel.metal` and `cuda_packet_parser.cu`: the kernels named `parse_packets`.
They are one text but for the width of the integers that sizes are computed in, 32
bits (`uint`) in Metal and 64 (`size_t`) in CUDA, and for the way an index is found:
a Metal thread has one packet, a CUDA thread each packet of its stride.

Sizes of vectors and the indices of a CUDA thread are `Nat`: a vector of lengths in
memory has too few entries for either to overflow.
-/

namespace WireLab

open Base

/-- The value of an enumerator of `PacketValidity`. -/
def PacketValidity.code : PacketValidity → UInt8
  | .valid => 0
  | .malformedEthernet => 1
  | .malformedIpv4 => 2
  | .malformedTransport => 3

/-- The enumerator with a value, if there is one. -/
def PacketValidity.ofCode : UInt8 → Option PacketValidity
  | 0 => some .valid
  | 1 => some .malformedEthernet
  | 2 => some .malformedIpv4
  | 3 => some .malformedTransport
  | _ => none

structure DevicePacketAnalysis where
  sourceMac : Vector UInt8 macAddressSize := .replicate macAddressSize 0
  destinationMac : Vector UInt8 macAddressSize := .replicate macAddressSize 0
  sourceIpv4 : UInt32 := 0
  destinationIpv4 : UInt32 := 0
  ingressPort : UInt32 := 0
  sourcePort : UInt16 := 0
  destinationPort : UInt16 := 0
  ethertype : UInt16 := 0
  frameLength : UInt16 := 0
  protocol : UInt8 := 0
  tcpFlags : UInt8 := 0
  validity : UInt8 := PacketValidity.malformedEthernet.code
  flowHash : UInt64 := 0
  deriving DecidableEq

namespace DevicePacketAnalysis

def hashFlowKey (analysis : DevicePacketAnalysis) : UInt64 :=
  let hash := hashU32 fnv1aOffsetBasis analysis.sourceIpv4
  let hash := hashU32 hash analysis.destinationIpv4
  let hash := hashU16 hash analysis.sourcePort
  let hash := hashU16 hash analysis.destinationPort
  hashByte hash analysis.protocol

/-- What the host makes of a record. -/
def toPacketAnalysis (record : DevicePacketAnalysis) : Option PacketAnalysis := do
  let validity ← PacketValidity.ofCode record.validity
  return {
    sourceMac := { bytes := record.sourceMac.toList, size := record.sourceMac.length_toList }
    destinationMac :=
      { bytes := record.destinationMac.toList, size := record.destinationMac.length_toList }
    sourceIpv4 := record.sourceIpv4
    destinationIpv4 := record.destinationIpv4
    sourcePort := record.sourcePort
    destinationPort := record.destinationPort
    ethertype := record.ethertype
    frameLength := record.frameLength
    ingressPort := record.ingressPort
    protocol := record.protocol
    tcpFlags := record.tcpFlags
    flowHash := record.flowHash
    validity }

end DevicePacketAnalysis

/-- The loop over `mac_index`. -/
def copyMacAddresses (memory : Memory) (packet : Nat) (analysis : DevicePacketAnalysis) :
    Option DevicePacketAnalysis :=
  (List.finRange macAddressSize).foldlM (fun analysis (macIndex : Fin macAddressSize) => do
    let destination ← memory (packet + macIndex)
    let source ← memory (packet + (macAddressSize + macIndex))
    return { analysis with
      destinationMac := analysis.destinationMac.set macIndex destination
      sourceMac := analysis.sourceMac.set macIndex source }) analysis

/-- What a kernel does with the transport header; `w` is the width of its sizes. -/
def parseDeviceTransport (w : Nat) (memory : Memory) (transport : Nat) (transportSize : BitVec w)
    (analysis : DevicePacketAnalysis) : Option DevicePacketAnalysis := do
  let malformed := { analysis with validity := PacketValidity.malformedTransport.code }
  if analysis.protocol = udpProtocol then
    if transportSize < .ofNat w udpHeaderSize then
      return malformed
    let length ← readNetworkU16 memory (transport + 4)
    if length.toBitVec.setWidth w < .ofNat w udpHeaderSize ∨
        transportSize < length.toBitVec.setWidth w then
      return malformed
    let sourcePort ← readNetworkU16 memory transport
    let destinationPort ← readNetworkU16 memory (transport + 2)
    return { analysis with sourcePort, destinationPort }
  else if analysis.protocol = tcpProtocol then
    if transportSize < .ofNat w tcpMinimumHeaderSize then
      return malformed
    let offset ← memory (transport + 12)
    let tcpHeaderSize := (offset >>> 4).toBitVec.setWidth w * 4
    if tcpHeaderSize < .ofNat w tcpMinimumHeaderSize ∨ transportSize < tcpHeaderSize then
      return malformed
    let sourcePort ← readNetworkU16 memory transport
    let destinationPort ← readNetworkU16 memory (transport + 2)
    let tcpFlags ← memory (transport + 13)
    return { analysis with sourcePort, destinationPort, tcpFlags }
  else if analysis.protocol = icmpProtocol ∧ transportSize < .ofNat w icmpMinimumHeaderSize then
    return malformed
  else
    return analysis

/-- What a kernel writes for the packet whose bytes begin at the address `packet`. -/
def parseDevicePacket (w : Nat) (memory : Memory) (packet : Nat) (packetLength : UInt16)
    (senderId : UInt32) : Option DevicePacketAnalysis := do
  let packetSize := packetLength.toBitVec.setWidth w
  let analysis : DevicePacketAnalysis :=
    { ingressPort := senderId, frameLength := .ofBitVec (packetSize.setWidth 16) }
  if packetSize < .ofNat w ethernetHeaderSize then
    return analysis
  let analysis ← copyMacAddresses memory packet analysis
  let ethertype ← readNetworkU16 memory (packet + macAddressSize * 2)
  let analysis := { analysis with ethertype, validity := PacketValidity.valid.code }
  if analysis.ethertype ≠ ethertypeIpv4 then
    return analysis
  let payloadSize := packetSize - .ofNat w ethernetHeaderSize
  if payloadSize < .ofNat w ipv4MinimumHeaderSize then
    return { analysis with validity := PacketValidity.malformedIpv4.code }
  let ipv4 := packet + ethernetHeaderSize
  let first ← memory ipv4
  let version := first >>> 4
  let headerSize := (first &&& 0x0f).toBitVec.setWidth w * 4
  let total ← readNetworkU16 memory (ipv4 + 2)
  let totalSize := total.toBitVec.setWidth w
  if version ≠ ipv4Version ∨ headerSize < .ofNat w ipv4MinimumHeaderSize ∨
      payloadSize < headerSize ∨ totalSize < headerSize ∨ payloadSize < totalSize then
    return { analysis with validity := PacketValidity.malformedIpv4.code }
  let sourceIpv4 ← readNetworkU32 memory (ipv4 + 12)
  let destinationIpv4 ← readNetworkU32 memory (ipv4 + 16)
  let protocol ← memory (ipv4 + 9)
  let analysis := { analysis with sourceIpv4, destinationIpv4, protocol }
  let fragment ← readNetworkU16 memory (ipv4 + 6)
  if fragment &&& 0x1fff ≠ 0 then
    return { analysis with flowHash := analysis.hashFlowKey }
  let transportSize := totalSize - headerSize
  let transport := ipv4 + headerSize.toNat
  let analysis ← parseDeviceTransport w memory transport transportSize analysis
  if analysis.validity = PacketValidity.valid.code then
    return { analysis with flowHash := analysis.hashFlowKey }
  return analysis

/-- The record for the packet at `index` of a batch. -/
def parseAt (w : Nat) (batch : PacketBatch) (index : Nat) : Option DevicePacketAnalysis := do
  let offset ← batch.packetOffsets[index]?
  let packetLength ← batch.packetLengths[index]?
  let senderId ← batch.senderIds[index]?
  parseDevicePacket w (.ofBytes batch.packetBytes) offset.toNat packetLength senderId

namespace Metal

/-- The kernel, in the thread at `index` of the grid. -/
def parsePackets (batch : PacketBatch) (packetCount : UInt32) (index : UInt32) :
    Option (List (Nat × DevicePacketAnalysis)) :=
  if packetCount ≤ index then some []
  else (parseAt 32 batch index.toNat).map fun analysis => [(index.toNat, analysis)]

/-- The threads of a dispatch, by their positions in the grid. -/
def threads (count : Nat) : List UInt32 := (List.range count).map .ofNat

end Metal

namespace Cuda

/-- A thread of a grid. -/
structure Thread where
  blockIdx : Nat
  threadIdx : Nat

/-- The loop of the kernel, from `index` on; it may take `rounds` turns. -/
def parseFrom (batch : PacketBatch) (packetCount stride : Nat) :
    Nat → Nat → Option (List (Nat × DevicePacketAnalysis))
  | rounds, index =>
      if index < packetCount then
        match rounds with
        | 0 => none
        | rounds + 1 => do
            let analysis ← parseAt 64 batch index
            let later ← parseFrom batch packetCount stride rounds (index + stride)
            return (index, analysis) :: later
      else some []

/-- The kernel. Each turn of its loop moves on by a positive stride. -/
def parsePackets (batch : PacketBatch) (packetCount gridDim blockDim : Nat) (thread : Thread) :
    Option (List (Nat × DevicePacketAnalysis)) :=
  parseFrom batch packetCount (blockDim * gridDim) packetCount
    (thread.blockIdx * blockDim + thread.threadIdx)

/-- The threads of a launch. -/
def threads (gridDim blockDim : Nat) : List Thread :=
  (List.range gridDim).flatMap fun blockIdx =>
    (List.range blockDim).map fun threadIdx => { blockIdx, threadIdx }

end Cuda
end WireLab
