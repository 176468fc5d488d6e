import WireLab.Logic.DeviceParsing

/-!
# The packet parsers stay in their packets

A parser has no result if it reads outside of its memory. The CPU's memory is its packet.
A kernel has the bytes of all packets in one buffer, and would not fail where it reads
another packet's; so here it gets the bytes between two offsets and no others.
-/

namespace WireLab

open Base

/-- As `parseAt`, in a memory from which only the bytes between the packet's offset and the
next one may be read. -/
def parseAtWithin (w : Nat) (batch : PacketBatch) (index : Nat) : Option DevicePacketAnalysis := do
  let offset ← batch.packetOffsets[index]?
  let next ← batch.packetOffsets[index + 1]?
  let packetLength ← batch.packetLengths[index]?
  let senderId ← batch.senderIds[index]?
  let memory := Memory.ofBytes batch.packetBytes
  parseDevicePacket w (memory.within offset.toNat next.toNat) offset.toNat packetLength senderId

section
variable {batch : PacketBatch} {packets : List PacketView} (h : batch.Holds packets)
include h

/-- A packet's bytes are between its offset and the next. -/
theorem parseAtWithin_eq {w : Nat} (hw : 16 ≤ w) {index : Nat} (hindex : index < packets.length) :
    ∃ record, parseAtWithin w batch index = some record ∧
      (deviceRecords packets)[index]? = some record := by
  obtain ⟨offset, length, hoffset, hlength, hsender, hsize, hshows⟩ := h.lays.packet index hindex
  obtain ⟨offset', next, length', hoffset', hnext, hlength', -, hdiffer⟩ :=
    h.offsets_differ hindex
  obtain rfl : offset = offset' := Option.some.inj (hoffset.symm.trans hoffset')
  obtain rfl : length = length' := Option.some.inj (hlength.symm.trans hlength')
  have hwithin := Memory.shows_within hshows
    (show offset.toNat + packets[index].bytes.length ≤ next.toNat by omega)
  refine ⟨(analysisOf packets[index].bytes packets[index].ingressPort).toDevice, ?_, ?_⟩
  · unfold parseAtWithin
    rw [hoffset, hnext, hlength, hsender]
    exact parseDevicePacket_eq hw hwithin hsize _
  · rw [deviceRecords, List.getElem?_map, List.getElem?_eq_getElem hindex]
    rfl

/-- A record that is right can be made within the packet. -/
private theorem parseAtWithin_of_record {w : Nat} (hw : 16 ≤ w) {index : Nat}
    {record : DevicePacketAnalysis} (hrecord : (deviceRecords packets)[index]? = some record) :
    parseAtWithin w batch index = some record := by
  have hindex : index < packets.length := by
    have hlt := (List.getElem?_eq_some_iff.mp hrecord).1
    rwa [deviceRecords, List.length_map] at hlt
  obtain ⟨record', hparse, hrecord'⟩ := parseAtWithin_eq h hw hindex
  rw [hparse, ← hrecord', hrecord]

/-- A thread of Metal, whatever its number and that of the packets is taken to be. -/
private theorem metal_within {count : UInt32} (hcount : count.toNat ≤ packets.length)
    (index : UInt32) :
    ∃ own, Metal.parsePackets batch count index = some own ∧
      ∀ write ∈ own, parseAtWithin 32 batch write.1 = some write.2 := by
  unfold Metal.parsePackets
  by_cases hindex : count ≤ index
  · exact ⟨[], if_pos hindex, by simp⟩
  · have hlt : index.toNat < packets.length := by
      rw [UInt32.le_iff_toNat_le] at hindex
      omega
    obtain ⟨record, hparse, hrecord⟩ := parseAt_eq h.lays (show 16 ≤ 32 by decide) hlt
    have hwithin := parseAtWithin_of_record h (show 16 ≤ 32 by decide) hrecord
    rw [if_neg hindex, hparse]
    exact ⟨_, rfl, by simpa using hwithin⟩

/-- A thread of CUDA. -/
private theorem cuda_within {gridDim blockDim : Nat} {thread : Cuda.Thread}
    (hthread : thread ∈ Cuda.threads gridDim blockDim) :
    ∃ own, Cuda.parsePackets batch batch.packetCount gridDim blockDim thread = some own ∧
      ∀ write ∈ own, parseAtWithin 64 batch write.1 = some write.2 := by
  obtain ⟨block, hblock, hin⟩ := List.mem_flatMap.mp hthread
  obtain ⟨position, hposition, -⟩ := List.mem_map.mp hin
  have hstride : 0 < blockDim * gridDim :=
    Nat.mul_pos (Nat.zero_lt_of_lt (List.mem_range.mp hposition))
      (Nat.zero_lt_of_lt (List.mem_range.mp hblock))
  have hcount : batch.packetCount = packets.length := by
    rw [PacketBatch.packetCount, h.lengths, List.length_map]
  obtain ⟨own, hown, hright, -⟩ := cuda_loop h.lays hstride
    (Nat.le_add_right packets.length (thread.blockIdx * blockDim + thread.threadIdx))
  refine ⟨own, ?_, fun write hwrite => ?_⟩
  · rw [Cuda.parsePackets, hcount]
    exact hown
  · exact parseAtWithin_of_record h (by decide) (hright write hwrite)

end

/-- **No packet parser reads outside its packet.** On the CPU every packet has a result,
and so has every packet that `parse_packet` hands to `parse_ipv4`. In a batch that was
created, the kernels have for each packet the result that they have between its offset
and the next; so has each record that a thread of Metal or CUDA writes, and no thread is
without a result. -/
theorem parsers_read_inside :
    (∀ packet : PacketView, packet.bytes.length < 2 ^ 64 →
      (parsePacket packet).isSome ∧
      (ethernetHeaderSize ≤ packet.bytes.length →
        ∀ analysis, (parseIpv4 packet analysis).isSome)) ∧
    ∀ packets timestampNs batch, PacketBatch.create packets timestampNs = .ok batch →
      (∀ w, 16 ≤ w → ∀ index < batch.packetCount,
        (parseAtWithin w batch index).isSome ∧
          parseAt w batch index = parseAtWithin w batch index) ∧
      (∀ index, ∃ own, Metal.parsePackets batch (.ofNat batch.packetCount) index = some own ∧
        ∀ write ∈ own, parseAtWithin 32 batch write.1 = some write.2) ∧
      ∀ gridDim blockDim, ∀ thread ∈ Cuda.threads gridDim blockDim, ∃ own,
        Cuda.parsePackets batch batch.packetCount gridDim blockDim thread = some own ∧
        ∀ write ∈ own, parseAtWithin 64 batch write.1 = some write.2 := by
  refine ⟨fun packet hsize => ⟨?_, fun hethernet analysis => ?_⟩,
    fun packets timestampNs batch hcreate => ?_⟩
  · rw [parsePacket_eq hsize, Option.isSome_some]
  · rw [parseIpv4_eq hsize hethernet, Option.isSome_some]
  · have hholds := PacketBatch.holds_create hcreate
    have hcount : batch.packetCount = packets.length := by
      rw [PacketBatch.packetCount, hholds.lengths, List.length_map]
    refine ⟨fun w hw index hindex => ?_, fun index => ?_, fun gridDim blockDim thread hthread => ?_⟩
    · rw [hcount] at hindex
      obtain ⟨record, hparse, hrecord⟩ := parseAt_eq hholds.lays hw hindex
      have hwithin := parseAtWithin_of_record hholds hw hrecord
      rw [hparse, hwithin]
      exact ⟨rfl, rfl⟩
    · refine metal_within hholds ?_ index
      rw [UInt32.toNat_ofNat', hcount]
      exact Nat.mod_le _ _
    · exact cuda_within hholds hthread

/-- A packet whose header claims to be longer than the packet. -/
private def crampedPacket : PacketView :=
  { bytes := List.replicate 12 0 ++ [8, 0, 0x4f] ++ List.replicate 19 0xff }

theorem parsers_read_inside_cramped :
    (parsePacket crampedPacket).isSome ∧
    ∃ batch, PacketBatch.create [crampedPacket, { bytes := [1, 2, 3] }] 0 = .ok batch ∧
      (parseAtWithin 32 batch 0).isSome ∧ (parseAtWithin 64 batch 1).isSome := by
  obtain ⟨hcpu, hkernels⟩ := parsers_read_inside
  obtain ⟨batch, hcreate⟩ : ∃ batch,
      PacketBatch.create [crampedPacket, { bytes := [1, 2, 3] }] 0 = .ok batch :=
    PacketBatch.create_fits (by decide) (by decide) 0
  obtain ⟨hpackets, -, -⟩ := hkernels _ 0 batch hcreate
  have hcount : batch.packetCount = 2 := by
    rw [PacketBatch.packetCount, (PacketBatch.holds_create hcreate).lengths, List.length_map]
    rfl
  exact ⟨(hcpu crampedPacket (by decide)).1, batch, hcreate,
    (hpackets 32 (by decide) 0 (by omega)).1, (hpackets 64 (by decide) 1 (by omega)).1⟩

end WireLab
