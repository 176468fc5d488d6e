import WireLab.Model.PacketAnalysis

/-!
# Packet batches

`packet_batch.cpp`: the contiguous buffers that the kernels read. The bytes of a view
are a list, so a view cannot lack the bytes it counts (`NullPacketBytes`).
-/

namespace WireLab

open Base

inductive PacketBatchError
  | packetTooLarge
  | batchTooLarge
  deriving DecidableEq, Repr

/-- There is one offset more than there are packets: the number of all bytes. -/
structure PacketBatch where
  packetBytes : Bytes := []
  packetOffsets : List UInt32 := [0]
  packetLengths : List UInt16 := []
  senderIds : List UInt32 := []
  timestampNs : UInt64 := 0

namespace PacketBatch

/-- One turn of the loop of `create`. -/
def append (batch : PacketBatch) (packet : PacketView) : Except PacketBatchError PacketBatch :=
  if packet.bytes.length > 65535 then .error .packetTooLarge
  else if packet.bytes.length > 4294967295 - batch.packetBytes.length then .error .batchTooLarge
  else
    let packetBytes := batch.packetBytes ++ packet.bytes
    .ok { batch with
      packetBytes
      packetLengths := batch.packetLengths ++ [.ofNat packet.bytes.length]
      senderIds := batch.senderIds ++ [packet.ingressPort]
      packetOffsets := batch.packetOffsets ++ [.ofNat packetBytes.length] }

def create (packets : List PacketView) (timestampNs : UInt64) : Except PacketBatchError PacketBatch :=
  packets.foldlM append { timestampNs }

def packetCount (batch : PacketBatch) : Nat := batch.packetLengths.length

/-! ## What a batch holds -/

/-- A batch holds packets: their bytes one after the other, and for each of them the
offset where its bytes begin, its length and its port. -/
structure Holds (batch : PacketBatch) (packets : List PacketView) : Prop where
  bytes : batch.packetBytes = packets.flatMap PacketView.bytes
  fits : batch.packetBytes.length < 2 ^ 32
  short : ∀ packet ∈ packets, packet.bytes.length < 2 ^ 16
  offsets : batch.packetOffsets = (List.range (packets.length + 1)).map fun i =>
    .ofNat ((packets.take i).flatMap PacketView.bytes).length
  lengths : batch.packetLengths = packets.map fun packet => .ofNat packet.bytes.length
  senders : batch.senderIds = packets.map PacketView.ingressPort

private theorem Holds.append {batch batch' : PacketBatch} {packets : List PacketView}
    (h : batch.Holds packets) {packet : PacketView} (happend : batch.append packet = .ok batch') :
    batch'.Holds (packets ++ [packet]) := by
  unfold PacketBatch.append at happend
  split at happend
  · exact absurd happend (by simp)
  split at happend
  · exact absurd happend (by simp)
  obtain rfl := Except.ok.inj happend
  have hbytes : batch.packetBytes ++ packet.bytes =
      (packets ++ [packet]).flatMap PacketView.bytes := by
    simp only [List.flatMap_append, List.flatMap_cons, List.flatMap_nil, List.append_nil, h.bytes]
  have hfits := h.fits
  exact {
    bytes := hbytes
    fits := by
      simp only [List.length_append]
      omega
    short := List.forall_mem_append.mpr ⟨h.short, List.forall_mem_singleton.mpr (by omega)⟩
    offsets := by
      dsimp only
      rw [@List.length_append _ packets, List.length_singleton, List.range_succ,
        List.map_append, h.offsets, List.map_singleton, List.take_of_length_le (by simp), hbytes]
      congr 1
      refine List.map_congr_left fun i hi => ?_
      rw [List.take_append_of_le_length (Nat.le_of_lt_succ (List.mem_range.mp hi))]
    lengths := by simp only [List.map_append, List.map_singleton, h.lengths]
    senders := by simp only [List.map_append, List.map_singleton, h.senders] }

/-- **A created batch holds its packets.** -/
theorem holds_create {packets : List PacketView} {timestampNs : UInt64} {batch : PacketBatch}
    (h : create packets timestampNs = .ok batch) : batch.Holds packets := by
  have hloop : ∀ {start : PacketBatch} {before : List PacketView}, start.Holds before →
      packets.foldlM append start = .ok batch → batch.Holds (before ++ packets) := by
    clear h
    induction packets with
    | nil =>
        intro start before hstart hrun
        obtain rfl := Except.ok.inj hrun
        rw [List.append_nil]
        exact hstart
    | cons packet packets ih =>
        intro start before hstart hrun
        rw [List.foldlM_cons] at hrun
        cases happend : start.append packet with
        | error => exact absurd hrun (by simp [happend, bind, Except.bind])
        | ok middle =>
            rw [happend] at hrun
            rw [List.append_cons]
            exact ih (hstart.append happend) hrun
  refine @hloop _ [] ?_ h
  exact {
    bytes := rfl
    fits := Nat.two_pow_pos 32
    short := by simp
    offsets := rfl
    lengths := rfl
    senders := rfl }

/-- Packets that fit can be built into a batch. -/
theorem create_fits {packets : List PacketView}
    (hshort : ∀ packet ∈ packets, packet.bytes.length ≤ 65535)
    (hfits : (packets.flatMap PacketView.bytes).length ≤ 4294967295) (timestampNs : UInt64) :
    ∃ batch, create packets timestampNs = .ok batch := by
  have hloop : ∀ {start : PacketBatch},
      start.packetBytes.length + (packets.flatMap PacketView.bytes).length ≤ 4294967295 →
      ∃ batch, packets.foldlM append start = .ok batch := by
    clear hfits
    induction packets with
    | nil => exact fun {start} _ => ⟨start, rfl⟩
    | cons packet packets ih =>
        intro start hroom
        obtain ⟨hpacket, hrest⟩ := List.forall_mem_cons.mp hshort
        rw [List.flatMap_cons, List.length_append] at hroom
        rw [List.foldlM_cons, append, if_neg (by omega), if_neg (by omega)]
        refine ih hrest ?_
        rw [List.length_append]
        omega
  exact hloop (by simpa using hfits)

namespace Holds

variable {batch : PacketBatch} {packets : List PacketView} (h : batch.Holds packets)
include h

/-- Where the bytes of the packet at an index begin, or, at the last index, where all
end. -/
theorem offset_toNat {index : Nat} (hindex : index ≤ packets.length) :
    ∃ offset, batch.packetOffsets[index]? = some offset ∧
      offset.toNat = ((packets.take index).flatMap PacketView.bytes).length := by
  have hfits := h.fits
  rw [h.bytes] at hfits
  refine ⟨.ofNat ((packets.take index).flatMap PacketView.bytes).length, ?_, ?_⟩
  · rw [h.offsets, List.getElem?_map, List.getElem?_range (by omega), Option.map_some]
  · -- The bytes of the first packets are a part of all bytes.
    have hsplit : packets.flatMap PacketView.bytes =
        (packets.take index).flatMap PacketView.bytes ++
          (packets.drop index).flatMap PacketView.bytes := by
      rw [← List.flatMap_append, List.take_append_drop]
    rw [hsplit, List.length_append] at hfits
    rw [UInt32.toNat_ofNat', Nat.mod_eq_of_lt (by omega)]

/-- The first offset is zero. -/
theorem offsets_head : batch.packetOffsets.head? = some 0 := by
  rw [h.offsets, List.range_succ_eq_map, List.map_cons, List.head?_cons]
  rfl

/-- One offset and the next differ by the length of the packet. -/
theorem offsets_differ {index : Nat} (hindex : index < packets.length) :
    ∃ offset next length, batch.packetOffsets[index]? = some offset ∧
      batch.packetOffsets[index + 1]? = some next ∧
      batch.packetLengths[index]? = some length ∧
      length.toNat = packets[index].bytes.length ∧ next.toNat = offset.toNat + length.toNat := by
  obtain ⟨offset, hoffset, hbegins⟩ := h.offset_toNat hindex.le
  obtain ⟨next, hnext, hends⟩ := h.offset_toNat (Nat.succ_le_of_lt hindex)
  have hlength : (UInt16.ofNat packets[index].bytes.length).toNat = packets[index].bytes.length := by
    rw [UInt16.toNat_ofNat', Nat.mod_eq_of_lt (h.short _ (List.getElem_mem hindex))]
  refine ⟨offset, next, _, hoffset, hnext, ?_, hlength, ?_⟩
  · rw [h.lengths, List.getElem?_map, List.getElem?_eq_getElem hindex, Option.map_some]
  · rw [hends, hbegins, hlength, List.take_succ_eq_append_getElem hindex, List.flatMap_append,
      List.length_append, List.flatMap_singleton]

/-- Offsets never decrease. -/
theorem offsets_sorted : batch.packetOffsets.Pairwise (· ≤ ·) := by
  refine List.pairwise_iff_getElem.mpr fun first second hfirst hsecond hlt => ?_
  have hcount : batch.packetOffsets.length = packets.length + 1 := by
    rw [h.offsets, List.length_map, List.length_range]
  have hsecond' : second ≤ packets.length := by omega
  obtain ⟨offset, hoffset, hbegins⟩ := h.offset_toNat (hlt.le.trans hsecond')
  obtain ⟨later, hlater, hends⟩ := h.offset_toNat hsecond'
  obtain rfl : batch.packetOffsets[first] = offset := (List.getElem_eq_iff _).mpr hoffset
  obtain rfl : batch.packetOffsets[second] = later := (List.getElem_eq_iff _).mpr hlater
  rw [UInt32.le_iff_toNat_le, hbegins, hends]
  have hearlier : packets.take first = (packets.take second).take first := by
    rw [List.take_take, Nat.min_eq_left hlt.le]
  rw [hearlier, List.length_flatMap, List.length_flatMap]
  exact (((packets.take second).take_sublist first).map _).sum_le_sum fun _ _ => Nat.zero_le _

end Holds

end PacketBatch
end WireLab
