import WireLab.Base.SortMerge
import WireLab.Model.PacketBatch
import WireLab.Model.PacketParser

/-!
# The packet analyzer

`packet_analyzer.cpp`, the aggregator: tables of what a batch of analysed packets
carried, and the classification of each packet by the addresses learned before it. A
table is filled with one record a packet, sorted, merged in place and, where it is a
ranking, sorted again.
-/

namespace WireLab

open Base

namespace PacketAnalysisAggregator

def frameSizeBucketMinimums : List UInt64 := [0, 64, 128, 256, 512, 1024, 1519]

/-- The buckets, before anything is counted. -/
def frameSizeBuckets : List PacketSizeHistogramBucket :=
  frameSizeBucketMinimums.zipIdx.map fun (inclusiveMinimum, index) =>
    { inclusiveMinimum
      inclusiveMaximum :=
        match frameSizeBucketMinimums[index + 1]? with
        | none => 0xFFFFFFFFFFFFFFFF
        | some next => next - 1 }

/-- The bucket of a length: how many minimums after the first do not exceed it. -/
def frameSizeBucket (frameLength : UInt64) : Nat :=
  ((frameSizeBucketMinimums.drop 1).takeWhile fun minimum => minimum ≤ frameLength).length

/-! ## Tables -/

def flowKeyLess (first second : FlowRecord) : Bool :=
  if first.key.sourceIpv4 ≠ second.key.sourceIpv4 then
    first.key.sourceIpv4 < second.key.sourceIpv4
  else if first.key.destinationIpv4 ≠ second.key.destinationIpv4 then
    first.key.destinationIpv4 < second.key.destinationIpv4
  else if first.key.sourcePort ≠ second.key.sourcePort then
    first.key.sourcePort < second.key.sourcePort
  else if first.key.destinationPort ≠ second.key.destinationPort then
    first.key.destinationPort < second.key.destinationPort
  else first.key.protocol < second.key.protocol

def aggregateHistogram (histogram : List HistogramEntry) : List HistogramEntry :=
  mergeRuns (fun aggregate entry => aggregate.value == entry.value)
    (fun aggregate entry =>
      { aggregate with
        packetCount := aggregate.packetCount + entry.packetCount
        byteCount := aggregate.byteCount + entry.byteCount })
    (sortBy (fun first second => first.value < second.value) histogram)

def aggregateMacTraffic (traffic : List MacTrafficRecord) : List MacTrafficRecord :=
  mergeRuns (fun aggregate entry => aggregate.mac == entry.mac)
    (fun aggregate entry =>
      { aggregate with
        packetCount := aggregate.packetCount + entry.packetCount
        byteCount := aggregate.byteCount + entry.byteCount })
    (sortBy (fun first second => first.mac < second.mac) traffic)

/-- `std::sort` by the flows' keys, and the merge after it. -/
def aggregateFlows (flows : List FlowRecord) : List FlowRecord :=
  mergeRuns (fun aggregate entry => aggregate.key == entry.key)
    (fun aggregate entry =>
      { aggregate with
        packetCount := aggregate.packetCount + entry.packetCount
        byteCount := aggregate.byteCount + entry.byteCount })
    (sortBy flowKeyLess flows)

def aggregateTrafficMatrix (matrix : List TrafficMatrixEntry) : List TrafficMatrixEntry :=
  mergeRuns (fun aggregate entry =>
      aggregate.sourceMac == entry.sourceMac && aggregate.destinationMac == entry.destinationMac)
    (fun aggregate entry =>
      { aggregate with
        packetCount := aggregate.packetCount + entry.packetCount
        byteCount := aggregate.byteCount + entry.byteCount })
    (sortBy (fun first second =>
      if first.sourceMac = second.sourceMac then first.destinationMac < second.destinationMac
      else first.sourceMac < second.sourceMac) matrix)

def rankMacTraffic (traffic : List MacTrafficRecord) : List MacTrafficRecord :=
  sortBy (fun first second =>
    if first.byteCount ≠ second.byteCount then first.byteCount > second.byteCount
    else if first.packetCount ≠ second.packetCount then first.packetCount > second.packetCount
    else first.mac < second.mac) traffic

def rankFlows (flows : List FlowRecord) : List FlowRecord :=
  sortBy (fun first second =>
    if first.byteCount ≠ second.byteCount then first.byteCount > second.byteCount
    else if first.packetCount ≠ second.packetCount then first.packetCount > second.packetCount
    else flowKeyLess first second) flows

/-! ## Counting -/

/-- What is counted of every frame. -/
def countFrame (batch : AnalysisBatch) (frameLength : UInt64) : AnalysisBatch :=
  { batch with
    receivedPackets := batch.receivedPackets + 1
    receivedBytes := batch.receivedBytes + frameLength
    frameSizeHistogram := batch.frameSizeHistogram.modify (frameSizeBucket frameLength) fun bucket =>
      { bucket with
        packetCount := bucket.packetCount + 1
        byteCount := bucket.byteCount + frameLength } }

/-- A packet that the analyzer could read to its transport header. -/
def isValidIpv4 (analysis : PacketAnalysis) : Bool :=
  analysis.ethertype = ethertypeIpv4 && analysis.validity = .valid

/-- The records of a frame with an Ethernet header. -/
def recordEthernet (batch : AnalysisBatch) (analysis : PacketAnalysis) (frameLength : UInt64) :
    AnalysisBatch :=
  let batch :=
    { batch with
      ethertypeHistogram := batch.ethertypeHistogram ++
        [{ value := analysis.ethertype.toUInt32, packetCount := 1, byteCount := frameLength }]
      sourceMacTraffic := batch.sourceMacTraffic ++
        [{ mac := analysis.sourceMac, packetCount := 1, byteCount := frameLength }]
      destinationMacTraffic := batch.destinationMacTraffic ++
        [{ mac := analysis.destinationMac, packetCount := 1, byteCount := frameLength }]
      macTrafficMatrix := batch.macTrafficMatrix ++
        [{ sourceMac := analysis.sourceMac, destinationMac := analysis.destinationMac,
           packetCount := 1, byteCount := frameLength }] }
  let batch :=
    if analysis.validity ≠ .valid then { batch with malformedPackets := batch.malformedPackets + 1 }
    else batch
  if isValidIpv4 analysis then
    let batch :=
      { batch with
        protocolHistogram := batch.protocolHistogram ++
          [{ value := analysis.protocol.toUInt32, packetCount := 1, byteCount := frameLength }] }
    if analysis.protocol = tcpProtocol ∨ analysis.protocol = udpProtocol then
      { batch with
        destinationPortHistogram := batch.destinationPortHistogram ++
          [{ value := analysis.destinationPort.toUInt32, packetCount := 1,
             byteCount := frameLength }] }
    else batch
  else batch

/-- The classification of a frame, and the counter that it counts in. -/
def classify (learnedMacs : List MacAddress) (batch : AnalysisBatch) (analysis : PacketAnalysis) :
    PacketClassification × AnalysisBatch :=
  if analysis.destinationMac.isBroadcast then
    (.broadcast, { batch with broadcastPackets := batch.broadcastPackets + 1 })
  else if analysis.destinationMac ∉ learnedMacs then
    (.unknownUnicast, { batch with unknownUnicastPackets := batch.unknownUnicastPackets + 1 })
  else (.knownUnicast, { batch with knownUnicastPackets := batch.knownUnicastPackets + 1 })

/-- One turn of the loop over the packets: a packet and its frame length. -/
def aggregatePacket (state : AnalysisBatch × List MacAddress) (item : PacketAnalysis × UInt64) :
    AnalysisBatch × List MacAddress :=
  let (batch, learnedMacs) := state
  let (analysis, frameLength) := item
  let batch := countFrame batch frameLength
  if analysis.validity = .malformedEthernet then
    ({ batch with
       malformedPackets := batch.malformedPackets + 1
       packets := batch.packets ++ [analysis] }, learnedMacs)
  else
    let batch := recordEthernet batch analysis frameLength
    let (classification, batch) := classify learnedMacs batch analysis
    let analysis := { analysis with classification }
    let learnedMacs := learnedMacs.insert analysis.sourceMac
    let batch :=
      if isValidIpv4 analysis then
        { batch with
          flows := batch.flows ++
            [{ key := makeFlowKey analysis, flowHash := analysis.flowHash, packetCount := 1,
               byteCount := frameLength }] }
      else batch
    ({ batch with packets := batch.packets ++ [analysis] }, learnedMacs)

/-- The tables, once every packet has left its records. -/
def finishTables (batch : AnalysisBatch) : AnalysisBatch :=
  { batch with
    flows := rankFlows (aggregateFlows batch.flows)
    ethertypeHistogram := aggregateHistogram batch.ethertypeHistogram
    protocolHistogram := aggregateHistogram batch.protocolHistogram
    destinationPortHistogram := aggregateHistogram batch.destinationPortHistogram
    sourceMacTraffic := rankMacTraffic (aggregateMacTraffic batch.sourceMacTraffic)
    destinationMacTraffic := rankMacTraffic (aggregateMacTraffic batch.destinationMacTraffic)
    macTrafficMatrix := aggregateTrafficMatrix batch.macTrafficMatrix }

/-- The frame length of the packet at an index; a missing pointer is null. -/
def frameLengthAt (frameLengths : Option (List UInt64)) (analysis : PacketAnalysis) (index : Nat) :
    UInt64 :=
  match frameLengths with
  | none => analysis.frameLength.toUInt64
  | some frameLengths => frameLengths.getD index 0

/-- The packets with their frame lengths. -/
def measured (packets : List PacketAnalysis) (frameLengths : Option (List UInt64)) :
    List (PacketAnalysis × UInt64) :=
  packets.zipIdx.map fun (analysis, index) => (analysis, frameLengthAt frameLengths analysis index)

/-- The batch, and the addresses learned after it. -/
def aggregate (learnedMacs : List MacAddress) (packets : List PacketAnalysis)
    (frameLengths : Option (List UInt64)) : AnalysisBatch × List MacAddress :=
  let batch : AnalysisBatch := { frameSizeHistogram := frameSizeBuckets }
  if packets.isEmpty then (batch, learnedMacs)
  else
    let (batch, learnedMacs) :=
      (measured packets frameLengths).foldl aggregatePacket (batch, learnedMacs)
    (finishTables batch, learnedMacs)

end PacketAnalysisAggregator

/-! ## The CPU analyzer -/

/-- The view of the packet at an index, if the batch's offsets and lengths are in its
bytes. -/
def PacketBatch.packetView (batch : PacketBatch) (index : Nat) : Option PacketView := do
  let offset ← batch.packetOffsets[index]?
  let length ← batch.packetLengths[index]?
  let ingressPort ← batch.senderIds[index]?
  if offset.toNat + length.toNat ≤ batch.packetBytes.length then
    return { bytes := (batch.packetBytes.drop offset.toNat).take length.toNat, ingressPort }
  else none

def PacketBatch.packetViews (batch : PacketBatch) : Option (List PacketView) :=
  (List.range batch.packetCount).mapM batch.packetView

namespace CpuPacketAnalyzer

/-- The size of a view, as `frame_lengths` passes it on. -/
def frameLength (packet : PacketView) : UInt64 := .ofBitVec packet.size

/-- The analysis of some packets, and the addresses learned after it. -/
def analyze (learnedMacs : List MacAddress) (packets : List PacketView) :
    Option (AnalysisBatch × List MacAddress) := do
  let analyses ← packets.mapM parsePacket
  return PacketAnalysisAggregator.aggregate learnedMacs analyses (some (packets.map frameLength))

/-- The analysis of a batch. -/
def analyzeBatch (learnedMacs : List MacAddress) (batch : PacketBatch) :
    Option (AnalysisBatch × List MacAddress) := do
  let analyses ← (List.range batch.packetCount).mapM fun index => do
    parsePacket (← batch.packetView index)
  return PacketAnalysisAggregator.aggregate learnedMacs analyses none

end CpuPacketAnalyzer
end WireLab
