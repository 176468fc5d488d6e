import WireLab.Logic.BatchAnalysis

/-!
# Packing packets into a batch

A batch has its lengths in 16 bits and its offsets in 32. The checks of `create` are
those that let nothing wrap around, and no others, so that a batch says of its packets
all that they say themselves.
-/

namespace WireLab

open Base

/-- **Which packets make a batch**: those whose sizes fit the fields. -/
theorem PacketBatch.create_iff {packets : List PacketView} {timestampNs : UInt64} :
    (∃ batch, create packets timestampNs = .ok batch) ↔
      (∀ packet ∈ packets, packet.bytes.length ≤ 65535) ∧
        (packets.map fun packet => packet.bytes.length).sum ≤ 2 ^ 32 - 1 := by
  have hsum : (packets.flatMap PacketView.bytes).length =
      (packets.map fun packet => packet.bytes.length).sum := List.length_flatMap
  rw [← hsum]
  constructor
  · intro ⟨batch, hcreate⟩
    have hholds := holds_create hcreate
    refine ⟨fun packet hpacket => ?_, ?_⟩
    · have := hholds.short packet hpacket
      omega
    · have := hholds.fits
      rw [hholds.bytes] at this
      omega
  · intro ⟨hshort, hfits⟩
    exact create_fits hshort hfits timestampNs

/-- **Packing packets loses nothing.** Packets make a batch exactly if each is at most
65535 bytes long and all are at most 2^32 - 1; and then the batch gives back the packets
in their order, its offsets start at zero, never decrease and differ by the lengths of
the packets, and whatever addresses were learned, the CPU analyzer has the same result
for the batch as for the packets. -/
theorem packet_batch_lossless (packets : List PacketView) (timestampNs : UInt64) :
    ((∃ batch, PacketBatch.create packets timestampNs = .ok batch) ↔
      (∀ packet ∈ packets, packet.bytes.length ≤ 65535) ∧
        (packets.map fun packet => packet.bytes.length).sum ≤ 2 ^ 32 - 1) ∧
    ∀ batch, PacketBatch.create packets timestampNs = .ok batch →
      batch.packetViews = some packets ∧
      batch.packetOffsets.head? = some 0 ∧ batch.packetOffsets.Pairwise (· ≤ ·) ∧
      batch.packetOffsets.length = packets.length + 1 ∧
      (∀ index (hindex : index < packets.length), ∃ offset next length,
        batch.packetOffsets[index]? = some offset ∧ batch.packetOffsets[index + 1]? = some next ∧
        batch.packetLengths[index]? = some length ∧
        length.toNat = packets[index].bytes.length ∧
        next.toNat = offset.toNat + length.toNat) ∧
      ∀ learnedMacs, ∃ analysis, CpuPacketAnalyzer.analyzeBatch learnedMacs batch = some analysis ∧
        CpuPacketAnalyzer.analyze learnedMacs packets = some analysis := by
  refine ⟨PacketBatch.create_iff, fun batch hcreate => ?_⟩
  have hholds := PacketBatch.holds_create hcreate
  have hcount : batch.packetOffsets.length = packets.length + 1 := by
    rw [hholds.offsets, List.length_map, List.length_range]
  refine ⟨packetViews_eq hholds, hholds.offsets_head, hholds.offsets_sorted, hcount,
    fun index hindex => hholds.offsets_differ hindex, fun learnedMacs => ?_⟩
  have hsize : ∀ packet ∈ packets, packet.bytes.length < 2 ^ 64 := fun packet hpacket => by
    have := hholds.short packet hpacket
    omega
  exact ⟨_, CpuPacketAnalyzer.analyzeBatch_eq hholds learnedMacs,
    CpuPacketAnalyzer.analyze_eq hsize learnedMacs⟩

/-- Two packets, the first of which is empty. -/
theorem packet_batch_lossless_empty :
    ∃ batch, PacketBatch.create [{ bytes := [] }, { bytes := [1, 2], ingressPort := 7 }] 5 = .ok batch ∧
      batch.packetViews = some [{ bytes := [] }, { bytes := [1, 2], ingressPort := 7 }] := by
  obtain ⟨hcreates, hlossless⟩ :=
    packet_batch_lossless [{ bytes := [] }, { bytes := [1, 2], ingressPort := 7 }] 5
  obtain ⟨batch, hcreate⟩ := hcreates.mpr (by decide)
  exact ⟨batch, hcreate, (hlossless batch hcreate).1⟩

end WireLab
