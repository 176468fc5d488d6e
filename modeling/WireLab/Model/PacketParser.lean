import WireLab.Base.Memory
import WireLab.Model.PacketAnalysis

/-!
# The packet parser

`packet_analyzer.cpp`, the parser: what the CPU reports about one packet. It reads
the packet through a checked memory, so a parse without a result has read outside of
it. The reads, the hash and the sizes of the headers are the same in the kernels.
-/

namespace WireLab

open Base

def ipv4MinimumHeaderSize : Nat := 20
def udpHeaderSize : Nat := 8
def tcpMinimumHeaderSize : Nat := 20
def icmpMinimumHeaderSize : Nat := 4

/-- `EtherType::IPv4`. -/
def ethertypeIpv4 : UInt16 := 0x0800

def ipv4Version : UInt8 := 4
def tcpProtocol : UInt8 := 6
def udpProtocol : UInt8 := 17
def icmpProtocol : UInt8 := 1

def readNetworkU16 (memory : Memory) (address : Nat) : Option UInt16 := do
  let high ← memory address
  let low ← memory (address + 1)
  return high.toUInt16 <<< 8 ||| low.toUInt16

def readNetworkU32 (memory : Memory) (address : Nat) : Option UInt32 := do
  let first ← memory address
  let second ← memory (address + 1)
  let third ← memory (address + 2)
  let fourth ← memory (address + 3)
  return first.toUInt32 <<< 24 ||| second.toUInt32 <<< 16 ||| third.toUInt32 <<< 8 |||
    fourth.toUInt32

/-- `MacAddress(const uint8_t*)`. -/
def readMacAddress (memory : Memory) (address : Nat) : Option MacAddress := do
  let b₀ ← memory address
  let b₁ ← memory (address + 1)
  let b₂ ← memory (address + 2)
  let b₃ ← memory (address + 3)
  let b₄ ← memory (address + 4)
  let b₅ ← memory (address + 5)
  return { bytes := [b₀, b₁, b₂, b₃, b₄, b₅], size := rfl }

/-! ## The hash of a flow -/

def fnv1aOffsetBasis : UInt64 := 14695981039346656037
def fnv1aPrime : UInt64 := 1099511628211

def hashByte (hash : UInt64) (byte : UInt8) : UInt64 := (hash ^^^ byte.toUInt64) * fnv1aPrime

def hashU16 (hash : UInt64) (value : UInt16) : UInt64 :=
  hashByte (hashByte hash (value >>> 8).toUInt8) value.toUInt8

def hashU32 (hash : UInt64) (value : UInt32) : UInt64 :=
  hashByte (hashByte (hashByte (hashByte hash (value >>> 24).toUInt8) (value >>> 16).toUInt8)
    (value >>> 8).toUInt8) value.toUInt8

def hashFlowKey (key : FlowKey) : UInt64 :=
  let hash := hashU32 fnv1aOffsetBasis key.sourceIpv4
  let hash := hashU32 hash key.destinationIpv4
  let hash := hashU16 hash key.sourcePort
  let hash := hashU16 hash key.destinationPort
  hashByte hash key.protocol

def makeFlowKey (analysis : PacketAnalysis) : FlowKey where
  sourceIpv4 := analysis.sourceIpv4
  destinationIpv4 := analysis.destinationIpv4
  sourcePort := analysis.sourcePort
  destinationPort := analysis.destinationPort
  protocol := analysis.protocol

/-! ## Parsing -/

abbrev SizeT := BitVec 64

/-- The number of bytes of a packet. -/
def PacketView.size (packet : PacketView) : SizeT := .ofNat 64 packet.bytes.length

/-- The validity, and the analysis with what could be read of the packet. -/
def parseIpv4 (packet : PacketView) (analysis : PacketAnalysis) :
    Option (PacketValidity × PacketAnalysis) := do
  let memory := Memory.ofBytes packet.bytes
  let payloadSize : SizeT := packet.size - .ofNat 64 ethernetHeaderSize
  if payloadSize < .ofNat 64 ipv4MinimumHeaderSize then
    return (.malformedIpv4, analysis)
  let ipv4 := ethernetHeaderSize
  let first ← memory ipv4
  let version := first >>> 4
  let headerSize : SizeT := (first &&& 0x0f).toBitVec.setWidth 64 * 4
  let total ← readNetworkU16 memory (ipv4 + 2)
  let totalSize : SizeT := total.toBitVec.setWidth 64
  if version ≠ ipv4Version ∨ headerSize < .ofNat 64 ipv4MinimumHeaderSize ∨
      payloadSize < headerSize ∨ totalSize < headerSize ∨ payloadSize < totalSize then
    return (.malformedIpv4, analysis)
  let sourceIpv4 ← readNetworkU32 memory (ipv4 + 12)
  let destinationIpv4 ← readNetworkU32 memory (ipv4 + 16)
  let protocol ← memory (ipv4 + 9)
  let analysis := { analysis with sourceIpv4, destinationIpv4, protocol }
  let fragment ← readNetworkU16 memory (ipv4 + 6)
  if fragment &&& 0x1fff ≠ 0 then
    return (.valid, analysis)
  let transportSize := totalSize - headerSize
  let transport := ipv4 + headerSize.toNat
  if analysis.protocol = udpProtocol then
    if transportSize < .ofNat 64 udpHeaderSize then
      return (.malformedTransport, analysis)
    let length ← readNetworkU16 memory (transport + 4)
    if length.toBitVec.setWidth 64 < .ofNat 64 udpHeaderSize ∨ transportSize < length.toBitVec.setWidth 64 then
      return (.malformedTransport, analysis)
    let sourcePort ← readNetworkU16 memory transport
    let destinationPort ← readNetworkU16 memory (transport + 2)
    return (.valid, { analysis with sourcePort, destinationPort })
  else if analysis.protocol = tcpProtocol then
    if transportSize < .ofNat 64 tcpMinimumHeaderSize then
      return (.malformedTransport, analysis)
    let offset ← memory (transport + 12)
    let tcpHeaderSize : SizeT := (offset >>> 4).toBitVec.setWidth 64 * 4
    if tcpHeaderSize < .ofNat 64 tcpMinimumHeaderSize ∨ transportSize < tcpHeaderSize then
      return (.malformedTransport, analysis)
    let sourcePort ← readNetworkU16 memory transport
    let destinationPort ← readNetworkU16 memory (transport + 2)
    let tcpFlags ← memory (transport + 13)
    return (.valid, { analysis with sourcePort, destinationPort, tcpFlags })
  else if analysis.protocol = icmpProtocol ∧ transportSize < .ofNat 64 icmpMinimumHeaderSize then
    return (.malformedTransport, analysis)
  else
    return (.valid, analysis)

def parsePacket (packet : PacketView) : Option PacketAnalysis := do
  let memory := Memory.ofBytes packet.bytes
  let analysis : PacketAnalysis :=
    { ingressPort := packet.ingressPort
      frameLength := .ofBitVec ((if packet.size < 65535 then packet.size else 65535).setWidth 16) }
  if packet.size < .ofNat 64 ethernetHeaderSize then
    return analysis
  let destinationMac ← readMacAddress memory 0
  let sourceMac ← readMacAddress memory macAddressSize
  let ethertype ← readNetworkU16 memory (macAddressSize * 2)
  let analysis := { analysis with destinationMac, sourceMac, ethertype }
  let (validity, analysis) ←
    if analysis.ethertype = ethertypeIpv4 then parseIpv4 packet analysis
    else pure (.valid, analysis)
  let analysis := { analysis with validity }
  if analysis.ethertype = ethertypeIpv4 ∧ analysis.validity = .valid then
    return { analysis with flowHash := hashFlowKey (makeFlowKey analysis) }
  return analysis

end WireLab
