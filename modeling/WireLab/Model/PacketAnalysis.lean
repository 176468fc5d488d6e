import WireLab.Base.Bytes

/-!
# Analysed packets

`packet_analyzer.hpp` and `ethernet_frame.hpp`: what a parser reports about a frame,
and what an analyzer reports about a batch of frames.
-/

namespace WireLab

open Base

abbrev macAddressSize : Nat := 6
def ethernetHeaderSize : Nat := 14

/-- A hardware address, ordered by its bytes. -/
structure MacAddress where
  bytes : Bytes
  size : bytes.length = 6
  deriving DecidableEq

/-- The all-zero address a default-constructed `MacAddress` holds. -/
def MacAddress.zero : MacAddress := { bytes := [0, 0, 0, 0, 0, 0], size := rfl }

def MacAddress.broadcast : MacAddress :=
  { bytes := [0xff, 0xff, 0xff, 0xff, 0xff, 0xff], size := rfl }

instance : LT MacAddress := ⟨fun first second => first.bytes < second.bytes⟩

instance : DecidableLT MacAddress := fun first second =>
  inferInstanceAs (Decidable (first.bytes < second.bytes))

def MacAddress.isBroadcast (mac : MacAddress) : Bool := mac.bytes.all (· == 0xff)

/-- `is_zero`. -/
def MacAddress.isZero (mac : MacAddress) : Bool := mac.bytes.all (· == 0x00)

inductive PacketClassification
  | malformed
  | broadcast
  | unknownUnicast
  | knownUnicast
  deriving DecidableEq, Repr

inductive PacketValidity
  | valid
  | malformedEthernet
  | malformedIpv4
  | malformedTransport
  deriving DecidableEq, Repr

def PacketClassification.toString : PacketClassification → Bytes
  | .malformed => bytes "malformed"
  | .broadcast => bytes "broadcast"
  | .unknownUnicast => bytes "unknown-unicast"
  | .knownUnicast => bytes "known-unicast"

def PacketValidity.toString : PacketValidity → Bytes
  | .valid => bytes "valid"
  | .malformedEthernet => bytes "malformed-ethernet"
  | .malformedIpv4 => bytes "malformed-ipv4"
  | .malformedTransport => bytes "malformed-transport"

/-- A frame as an analyzer receives it: its bytes and the port it came in by. -/
structure PacketView where
  bytes : Bytes
  ingressPort : UInt32 := 0
  deriving DecidableEq

structure PacketAnalysis where
  sourceMac : MacAddress := .zero
  destinationMac : MacAddress := .zero
  sourceIpv4 : UInt32 := 0
  destinationIpv4 : UInt32 := 0
  sourcePort : UInt16 := 0
  destinationPort : UInt16 := 0
  ethertype : UInt16 := 0
  frameLength : UInt16 := 0
  ingressPort : UInt32 := 0
  protocol : UInt8 := 0
  tcpFlags : UInt8 := 0
  flowHash : UInt64 := 0
  validity : PacketValidity := .malformedEthernet
  classification : PacketClassification := .malformed
  deriving DecidableEq

structure FlowKey where
  sourceIpv4 : UInt32 := 0
  destinationIpv4 : UInt32 := 0
  sourcePort : UInt16 := 0
  destinationPort : UInt16 := 0
  protocol : UInt8 := 0
  deriving DecidableEq

/-! ## Batches -/

structure PacketSizeHistogramBucket where
  inclusiveMinimum : UInt64 := 0
  inclusiveMaximum : UInt64 := 0
  packetCount : UInt64 := 0
  byteCount : UInt64 := 0
  deriving DecidableEq

structure HistogramEntry where
  value : UInt32 := 0
  packetCount : UInt64 := 0
  byteCount : UInt64 := 0
  deriving DecidableEq

structure FlowRecord where
  key : FlowKey
  flowHash : UInt64 := 0
  packetCount : UInt64 := 0
  byteCount : UInt64 := 0
  deriving DecidableEq

structure MacTrafficRecord where
  mac : MacAddress
  packetCount : UInt64 := 0
  byteCount : UInt64 := 0
  deriving DecidableEq

structure TrafficMatrixEntry where
  sourceMac : MacAddress
  destinationMac : MacAddress
  packetCount : UInt64 := 0
  byteCount : UInt64 := 0
  deriving DecidableEq

/-- What an analyzer reports about a batch. The two tables of addresses are ranked by
bytes, packets and address, the flows by bytes, packets and five-tuple. -/
structure AnalysisBatch where
  frameSizeHistogram : List PacketSizeHistogramBucket := []
  ethertypeHistogram : List HistogramEntry := []
  protocolHistogram : List HistogramEntry := []
  destinationPortHistogram : List HistogramEntry := []
  packets : List PacketAnalysis := []
  sourceMacTraffic : List MacTrafficRecord := []
  destinationMacTraffic : List MacTrafficRecord := []
  macTrafficMatrix : List TrafficMatrixEntry := []
  flows : List FlowRecord := []
  receivedPackets : UInt64 := 0
  receivedBytes : UInt64 := 0
  malformedPackets : UInt64 := 0
  broadcastPackets : UInt64 := 0
  unknownUnicastPackets : UInt64 := 0
  knownUnicastPackets : UInt64 := 0

end WireLab
