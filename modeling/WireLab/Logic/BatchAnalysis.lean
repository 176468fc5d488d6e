import WireLab.Logic.PacketFields
import WireLab.Logic.PacketTables

/-!
# The CPU's analysis of packets

The CPU analyzer parses each packet and aggregates the analyses. A batch holds the bytes
of its packets, so its analysis is that of the packets.
-/

namespace WireLab

open Base PacketAnalysisAggregator

/-! ## The Ethernet header of an analysis -/

/-- What an analysis says of the Ethernet header, and of the length. -/
def PacketAnalysis.header (analysis : PacketAnalysis) : MacAddress × MacAddress × UInt16 :=
  (analysis.destinationMac, analysis.sourceMac, analysis.frameLength)

private theorem withHash_header (analysis : PacketAnalysis) (flowHash : UInt64) :
    { analysis with flowHash }.header = analysis.header := rfl

private theorem withHash_validity (analysis : PacketAnalysis) (flowHash : UInt64) :
    { analysis with flowHash }.validity = analysis.validity := rfl

theorem hashed_header (analysis : PacketAnalysis) : analysis.hashed.header = analysis.header :=
  withHash_header _ _

theorem hashed_validity (analysis : PacketAnalysis) :
    analysis.hashed.validity = analysis.validity := withHash_validity _ _

theorem withTransport_header (bytes : Bytes) (analysis : PacketAnalysis) :
    (withTransport bytes analysis).header = analysis.header := by
  unfold withTransport
  cases transport bytes <;> rfl

/-- The header is read as it stands; of a packet without one, only the length is known. -/
theorem analysisOf_header (bytes : Bytes) (ingressPort : UInt32) :
    (analysisOf bytes ingressPort).header =
      if bytes.length < 14 then (shortAnalysis bytes ingressPort).header
      else (ethernetAnalysis bytes ingressPort).header := by
  unfold analysisOf
  split_ifs
  · rfl
  · rfl
  · rw [hashed_header]
    rfl
  · rw [hashed_header, transportAnalysis, withTransport_header]
    rfl
  · rfl
  · rfl

theorem analysisOf_frameLength (bytes : Bytes) (ingressPort : UInt32) :
    (analysisOf bytes ingressPort).frameLength = .ofNat (min bytes.length 65535) := by
  have hheader := analysisOf_header bytes ingressPort
  split at hheader
  · exact congrArg (fun header => header.2.2) hheader
  · exact congrArg (fun header => header.2.2) hheader

theorem analysisOf_hasEthernet (bytes : Bytes) (ingressPort : UInt32) :
    (analysisOf bytes ingressPort).HasEthernet ↔ 14 ≤ bytes.length := by
  unfold PacketAnalysis.HasEthernet analysisOf
  split_ifs with hshort
  · simp [shortAnalysis, hshort]
  · simp [ethernetAnalysis, not_lt.mp hshort]
  · rw [hashed_validity]
    simp [ipv4Analysis, withIpv4, ethernetAnalysis, not_lt.mp hshort]
  · rw [hashed_validity, transportAnalysis, withTransport_valid]
    simp [ipv4Analysis, withIpv4, ethernetAnalysis, not_lt.mp hshort]
  · simp [not_lt.mp hshort]
  · simp [not_lt.mp hshort]

/-! ## The analysis of packets -/

/-- The packets as the aggregator gets them. -/
def parsedPackets (packets : List PacketView) : List Measured :=
  packets.map fun packet =>
    (analysisOf packet.bytes packet.ingressPort, .ofNat packet.bytes.length)

/-- The batch, and the addresses learned after it. -/
def analysisBatch (learnedMacs : List MacAddress) (items : List Measured) :
    AnalysisBatch × List MacAddress :=
  (finishTables (recorded { frameSizeHistogram := frameSizeBuckets } learnedMacs items),
    learnAll learnedMacs items)

namespace CpuPacketAnalyzer

/-- Packets are parsed one by one. -/
private theorem mapM_parsePacket {packets : List PacketView}
    (hsize : ∀ packet ∈ packets, packet.bytes.length < 2 ^ 64) :
    packets.mapM parsePacket = some ((parsedPackets packets).map Prod.fst) := by
  induction packets with
  | nil => rfl
  | cons packet packets ih =>
      rw [List.mapM_cons, parsePacket_eq (hsize _ List.mem_cons_self),
        ih fun other hother => hsize other (List.mem_cons_of_mem _ hother)]
      rfl

private theorem measured_views (packets : List PacketView) :
    measured ((parsedPackets packets).map Prod.fst) (some (packets.map frameLength)) =
      parsedPackets packets := by
  refine List.ext_getElem? fun index => ?_
  rw [measured, List.getElem?_map, List.getElem?_zipIdx]
  simp only [parsedPackets, List.getElem?_map, List.map_map]
  cases hpacket : packets[index]? with
  | none => rfl
  | some packet =>
      have hlength : (packets.map frameLength)[index]? = some (frameLength packet) := by
        rw [List.getElem?_map, hpacket]
        rfl
      simp only [Option.map_some, Function.comp_apply, Nat.zero_add, frameLengthAt,
        List.getD_eq_getElem?_getD, hlength, Option.getD_some]
      rfl

/-- **The analysis of packets** groups them by what they carry. -/
theorem analyze_eq {packets : List PacketView}
    (hsize : ∀ packet ∈ packets, packet.bytes.length < 2 ^ 64) (learnedMacs : List MacAddress) :
    analyze learnedMacs packets = some (analysisBatch learnedMacs (parsedPackets packets)) := by
  rw [analyze, mapM_parsePacket hsize]
  refine congrArg some ?_
  rw [aggregate_eq, measured_views]
  rfl

end CpuPacketAnalyzer

/-! ## The analysis of a batch -/

section
variable {batch : PacketBatch} {packets : List PacketView} (h : batch.Holds packets)
include h

theorem packetCount_eq : batch.packetCount = packets.length := by
  rw [PacketBatch.packetCount, h.lengths, List.length_map]

/-- A batch gives its packets back. -/
theorem packetView_eq {index : Nat} (hindex : index < packets.length) :
    batch.packetView index = some packets[index] := by
  have hshort := h.short _ (List.getElem_mem hindex)
  -- Where the bytes of the packet are.
  have hsplit : batch.packetBytes = (packets.take index).flatMap PacketView.bytes ++
      (packets[index].bytes ++ (packets.drop (index + 1)).flatMap PacketView.bytes) := by
    rw [h.bytes, ← List.flatMap_cons, ← List.flatMap_append, ← List.drop_eq_getElem_cons hindex,
      List.take_append_drop]
  have hfits := h.fits
  have hbefore : ((packets.take index).flatMap PacketView.bytes).length < 2 ^ 32 := by
    rw [hsplit, List.length_append] at hfits
    omega
  have hwithin : ((packets.take index).flatMap PacketView.bytes).length +
      packets[index].bytes.length ≤ batch.packetBytes.length := by
    rw [hsplit, List.length_append, List.length_append]
    omega
  have hbytes : (batch.packetBytes.drop ((packets.take index).flatMap PacketView.bytes).length).take
      packets[index].bytes.length = packets[index].bytes := by
    rw [hsplit, List.drop_left, List.take_left]
  unfold PacketBatch.packetView
  rw [h.offsets, h.lengths, h.senders, List.getElem?_map, List.getElem?_range (by omega),
    List.getElem?_map, List.getElem?_map, List.getElem?_eq_getElem hindex]
  simp only [Option.map_some, Option.bind_eq_bind, Option.bind_some, UInt32.toNat_ofNat',
    UInt16.toNat_ofNat', Nat.mod_eq_of_lt hbefore, Nat.mod_eq_of_lt hshort, hwithin, if_true,
    hbytes]
  rfl

omit h in
/-- Each index of a list in turn. -/
private theorem mapM_range {α : Type} {f : Nat → Option α} {values : List α}
    (hf : ∀ index (hindex : index < values.length), f index = some values[index]) :
    (List.range values.length).mapM f = some values := by
  induction values using List.reverseRecOn with
  | nil => rfl
  | append_singleton values value ih =>
      have hlast := hf values.length (by simp)
      rw [List.getElem_append_right (Nat.le_refl _)] at hlast
      rw [List.length_append, List.length_singleton, List.range_succ, List.mapM_append,
        ih fun index hindex => ?_]
      · simp [hlast]
      · rw [hf index (by simp; omega), List.getElem_append_left hindex]

/-- A batch gives all its packets back. -/
theorem packetViews_eq : batch.packetViews = some packets := by
  rw [PacketBatch.packetViews, packetCount_eq h]
  exact mapM_range fun _ hindex => packetView_eq h hindex

/-- **The analysis of a batch** is that of its packets. -/
theorem CpuPacketAnalyzer.analyzeBatch_eq (learnedMacs : List MacAddress) :
    analyzeBatch learnedMacs batch = some (analysisBatch learnedMacs (parsedPackets packets)) := by
  have hparsed : (List.range batch.packetCount).mapM (fun index => do
      parsePacket (← batch.packetView index)) = some ((parsedPackets packets).map Prod.fst) := by
    rw [packetCount_eq h, show packets.length = ((parsedPackets packets).map Prod.fst).length by
      simp [parsedPackets]]
    refine mapM_range fun index hindex => ?_
    have hpacket : index < packets.length := by simpa [parsedPackets] using hindex
    have hshort := h.short _ (List.getElem_mem hpacket)
    rw [packetView_eq h hpacket, Option.bind_eq_bind, Option.bind_some, parsePacket_eq (by omega)]
    simp [parsedPackets]
  rw [analyzeBatch, hparsed]
  refine congrArg some ?_
  rw [aggregate_eq]
  -- A frame length in the analysis is the length of the packet, which is short.
  have hmeasured : measured ((parsedPackets packets).map Prod.fst) none = parsedPackets packets := by
    refine List.ext_getElem? fun index => ?_
    rw [measured, List.getElem?_map, List.getElem?_zipIdx]
    simp only [parsedPackets, List.getElem?_map, List.map_map]
    cases hpacket : packets[index]? with
    | none => rfl
    | some packet =>
        have hshort := h.short _ (List.mem_of_getElem? hpacket)
        have hlength : (analysisOf packet.bytes packet.ingressPort).frameLength =
            .ofNat packet.bytes.length := by
          rw [analysisOf_frameLength, Nat.min_eq_left (by omega)]
        simp only [Option.map_some, Function.comp_apply, frameLengthAt, hlength]
        congr 2
        apply UInt64.toNat_inj.mp
        rw [UInt16.toNat_toUInt64, UInt16.toNat_ofNat', UInt64.toNat_ofNat',
          Nat.mod_eq_of_lt hshort, Nat.mod_eq_of_lt (by omega)]
  rw [hmeasured]
  rfl

end

end WireLab
