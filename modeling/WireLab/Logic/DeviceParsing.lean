import WireLab.Logic.PacketFields

/-!
# What the kernels write

A kernel finds a packet by its offset, length and port. Whatever else lies in the
buffers, it writes for each packet the record that the CPU's analysis corresponds to.
-/

namespace WireLab

open Base

/-- The buffers of a kernel lay packets out: one finds each of them where its offset and
length say. -/
structure PacketBatch.Lays (buffers : PacketBatch) (packets : List PacketView) : Prop where
  packet : ∀ index (hindex : index < packets.length), ∃ offset length,
    buffers.packetOffsets[index]? = some offset ∧ buffers.packetLengths[index]? = some length ∧
      buffers.senderIds[index]? = some packets[index].ingressPort ∧
      length.toNat = packets[index].bytes.length ∧
      (Memory.ofBytes buffers.packetBytes).Shows offset.toNat packets[index].bytes

/-- A batch lays its packets out. -/
theorem PacketBatch.Holds.lays {batch : PacketBatch} {packets : List PacketView}
    (h : batch.Holds packets) : batch.Lays packets where
  packet index hindex := by
    have hlength : packets[index].bytes.length < 2 ^ 16 := h.short _ (List.getElem_mem hindex)
    have hoffset : ((packets.take index).flatMap PacketView.bytes).length < 2 ^ 32 := by
      refine lt_of_le_of_lt (List.Sublist.length_le ?_) h.fits
      rw [h.bytes]
      exact List.Sublist.flatMap (List.take_sublist _ _) _
    have hsplit : packets = packets.take index ++ packets[index] :: packets.drop (index + 1) := by
      rw [← List.drop_eq_getElem_cons hindex, List.take_append_drop]
    have hbytes : batch.packetBytes = (packets.take index).flatMap PacketView.bytes ++
        (packets[index].bytes ++ (packets.drop (index + 1)).flatMap PacketView.bytes) := by
      rw [h.bytes, ← List.flatMap_cons, ← List.flatMap_append, ← hsplit]
    refine ⟨.ofNat ((packets.take index).flatMap PacketView.bytes).length,
      .ofNat packets[index].bytes.length, ?_, ?_, ?_, ?_, ?_⟩
    · rw [h.offsets, List.getElem?_map, List.getElem?_range (by omega)]
      rfl
    · rw [h.lengths, List.getElem?_map, List.getElem?_eq_getElem hindex]
      rfl
    · rw [h.senders, List.getElem?_map, List.getElem?_eq_getElem hindex]
      rfl
    · rw [UInt16.toNat_ofNat', Nat.mod_eq_of_lt hlength]
    · rw [UInt32.toNat_ofNat', Nat.mod_eq_of_lt hoffset, hbytes]
      exact Memory.shows_append _ _ _

/-- What lies behind the data of a buffer does not matter. -/
theorem PacketBatch.Lays.append {buffers : PacketBatch} {packets : List PacketView}
    (h : buffers.Lays packets) (bytes : Bytes) (offsets : List UInt32) (lengths : List UInt16)
    (senders : List UInt32) :
    PacketBatch.Lays
      { packetBytes := buffers.packetBytes ++ bytes
        packetOffsets := buffers.packetOffsets ++ offsets
        packetLengths := buffers.packetLengths ++ lengths
        senderIds := buffers.senderIds ++ senders } packets where
  packet index hindex := by
    obtain ⟨offset, length, hoffset, hlength, hsender, hsize, hshows⟩ := h.packet index hindex
    refine ⟨offset, length, ?_, ?_, ?_, hsize, fun k hk => ?_⟩
    · rw [List.getElem?_append_left (List.getElem?_eq_some_iff.mp hoffset).1, hoffset]
    · rw [List.getElem?_append_left (List.getElem?_eq_some_iff.mp hlength).1, hlength]
    · rw [List.getElem?_append_left (List.getElem?_eq_some_iff.mp hsender).1, hsender]
    · have hbyte := hshows k hk
      rw [Memory.ofBytes, List.getElem?_eq_getElem hk] at hbyte
      rw [Memory.ofBytes, List.getElem?_append_left (List.getElem?_eq_some_iff.mp hbyte).1, hbyte,
        List.getElem?_eq_getElem hk]

/-- The records that the kernels are to write. -/
def deviceRecords (packets : List PacketView) : List DevicePacketAnalysis :=
  packets.map fun packet => (analysisOf packet.bytes packet.ingressPort).toDevice

/-- What the host reads back of such a record is the analysis. -/
theorem deviceRecords_analysis (packets : List PacketView) :
    (deviceRecords packets).map DevicePacketAnalysis.toPacketAnalysis =
      packets.map fun packet => some (analysisOf packet.bytes packet.ingressPort) := by
  rw [deviceRecords, List.map_map]
  exact List.map_congr_left fun packet _ =>
    toPacketAnalysis_toDevice (analysisOf_classification packet.bytes packet.ingressPort)

section
variable {buffers : PacketBatch} {packets : List PacketView} (h : buffers.Lays packets)
include h

/-- **A kernel writes its record for each packet.** -/
theorem parseAt_eq {w : Nat} (hw : 16 ≤ w) {index : Nat} (hindex : index < packets.length) :
    ∃ record, parseAt w buffers index = some record ∧
      (deviceRecords packets)[index]? = some record := by
  obtain ⟨offset, length, hoffset, hlength, hsender, hsize, hshows⟩ := h.packet index hindex
  refine ⟨(analysisOf packets[index].bytes packets[index].ingressPort).toDevice, ?_, ?_⟩
  · unfold parseAt
    rw [hoffset, hlength, hsender]
    exact parseDevicePacket_eq hw hshows hsize _
  · rw [deviceRecords, List.getElem?_map, List.getElem?_eq_getElem hindex]
    rfl

/-- A thread of Metal has one packet, or none. -/
theorem metal_thread {count : UInt32} (hcount : count.toNat = packets.length) (index : UInt32) :
    ∃ own, Metal.parsePackets buffers count index = some own ∧
      (∀ write ∈ own, (deviceRecords packets)[write.1]? = some write.2) ∧
      (index.toNat < packets.length → ∃ value, (index.toNat, value) ∈ own) := by
  have hcheck : count ≤ index ↔ packets.length ≤ index.toNat := by
    rw [UInt32.le_iff_toNat_le, hcount]
  unfold Metal.parsePackets
  by_cases hindex : index.toNat < packets.length
  · obtain ⟨record, hparse, hrecord⟩ := parseAt_eq h (show 16 ≤ 32 by decide) hindex
    rw [if_neg (mt hcheck.mp (by omega)), hparse]
    exact ⟨_, rfl, by simpa using hrecord, fun _ => ⟨record, List.mem_singleton_self _⟩⟩
  · rw [if_pos (hcheck.mpr (by omega))]
    exact ⟨[], rfl, by simp, fun hlt => absurd hlt hindex⟩

/-- The loop of CUDA meets each packet of its stride. -/
theorem cuda_loop {stride : Nat} (hstride : 0 < stride) {rounds index : Nat}
    (hrounds : packets.length ≤ rounds + index) :
    ∃ own, Cuda.parseFrom buffers packets.length stride rounds index = some own ∧
      (∀ write ∈ own, (deviceRecords packets)[write.1]? = some write.2) ∧
      ∀ k, index + k * stride < packets.length → ∃ value, (index + k * stride, value) ∈ own := by
  induction rounds generalizing index with
  | zero =>
      refine ⟨[], ?_, by simp, fun k hk => ?_⟩
      · rw [Cuda.parseFrom, if_neg (by omega)]
      · have hle := Nat.le_add_right index (k * stride)
        omega
  | succ rounds ih =>
      by_cases hindex : index < packets.length
      · obtain ⟨record, hparse, hrecord⟩ := parseAt_eq h (show 16 ≤ 64 by decide) hindex
        have hrest : packets.length ≤ rounds + (index + stride) := by omega
        obtain ⟨later, hlater, hright, hall⟩ := ih hrest
        refine ⟨(index, record) :: later, ?_, List.forall_mem_cons.mpr ⟨hrecord, hright⟩, ?_⟩
        · rw [Cuda.parseFrom, if_pos hindex, hparse, Option.bind_eq_bind, Option.bind_some, hlater]
          rfl
        · intro k hk
          cases k with
          | zero => exact ⟨record, by simp⟩
          | succ k =>
              rw [Nat.succ_mul, Nat.add_comm (k * stride), ← Nat.add_assoc] at hk ⊢
              obtain ⟨value, hvalue⟩ := hall k hk
              exact ⟨value, List.mem_cons_of_mem _ hvalue⟩
      · refine ⟨[], ?_, by simp, fun k hk => ?_⟩
        · rw [Cuda.parseFrom, if_neg hindex]
        · have hle := Nat.le_add_right index (k * stride)
          omega

end

end WireLab
