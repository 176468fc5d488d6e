import WireLab.Logic.DeviceParsing
import WireLab.Model.StreamParser

/-!
# The slots of the streaming parser

A batch that passes `validateBatch` lays its packets out. Copied into the buffers of a
slot, in front of whatever an earlier batch has left there, it gives the kernel its own
packets; and when the kernel has completed, in whatever order its writes happened, the
host reads back what the CPU makes of the batch (`results_completed`).
-/

namespace WireLab

open Base

/-! ## Batches that are accepted -/

/-- What the CPU makes of the packets of a batch. -/
def PacketBatch.analyses (batch : PacketBatch) : List (Option PacketAnalysis) :=
  (List.range batch.packetCount).map fun index => (batch.packetView index).bind parsePacket

/-- The checks, for each packet. -/
private theorem spacedAt_iff {batch : PacketBatch} {index : Nat} (h : batch.spacedAt index = true) :
    ∃ offset next length, batch.packetOffsets[index]? = some offset ∧
      batch.packetOffsets[index + 1]? = some next ∧ batch.packetLengths[index]? = some length ∧
      next.toNat = offset.toNat + length.toNat := by
  unfold PacketBatch.spacedAt at h
  split at h
  · rename_i offset next length hoffset hnext hlength
    rw [Bool.and_eq_true, decide_eq_true_iff, beq_iff_eq] at h
    refine ⟨offset, next, length, hoffset, hnext, hlength, ?_⟩
    have hle := UInt32.le_iff_toNat_le.mp h.1
    have hsub := congrArg UInt32.toNat h.2
    rw [UInt32.toNat_sub_of_le _ _ h.1, UInt16.toNat_toUInt32] at hsub
    omega
  · cases h

/-- **An accepted batch lays its packets out.** -/
theorem validateBatch_lays {batch : PacketBatch} (h : validateBatch batch = true) :
    ∃ packets, batch.Lays packets ∧ packets.length = batch.packetCount ∧
      ∀ index (hindex : index < packets.length), batch.packetView index = some packets[index] := by
  simp only [validateBatch, Bool.and_eq_true, beq_iff_eq, List.all_eq_true, List.mem_range] at h
  obtain ⟨⟨⟨⟨⟨hoffsets, hlengths⟩, hsenders⟩, -⟩, hlast⟩, hspaced⟩ := h
  -- No offset is beyond the bytes, for the last one is at their end.
  have hwithin : ∀ rounds index, index + rounds = batch.packetCount → ∀ offset,
      batch.packetOffsets[index]? = some offset → offset.toNat ≤ batch.packetBytes.length := by
    intro rounds
    induction rounds with
    | zero =>
        intro index hindex offset hoffset
        rw [List.getLast?_eq_getElem?, hoffsets, Nat.add_sub_cancel,
          show batch.packetCount = index by omega, hoffset] at hlast
        exact (Option.some.inj hlast).le
    | succ rounds ih =>
        intro index hindex offset hoffset
        obtain ⟨offset', next, length, hoffset', hnext, -, hsum⟩ :=
          spacedAt_iff (hspaced index (by omega))
        obtain rfl := Option.some.inj (hoffset.symm.trans hoffset')
        have hle := ih (index + 1) (by omega) next hnext
        omega
  have hpacket : ∀ index, index < batch.packetCount → ∃ offset length sender packet,
      batch.packetOffsets[index]? = some offset ∧ batch.packetLengths[index]? = some length ∧
      batch.senderIds[index]? = some sender ∧ batch.packetView index = some packet ∧
      offset.toNat + length.toNat ≤ batch.packetBytes.length ∧
      packet = { bytes := (batch.packetBytes.drop offset.toNat).take length.toNat,
                 ingressPort := sender } := by
    intro index hindex
    obtain ⟨offset, next, length, hoffset, hnext, hlength, hsum⟩ :=
      spacedAt_iff (hspaced index hindex)
    have hend := hwithin (batch.packetCount - (index + 1)) (index + 1) (by omega) next hnext
    have hsender := List.getElem?_eq_getElem (show index < batch.senderIds.length by omega)
    refine ⟨offset, length, _, _, hoffset, hlength, hsender, ?_, by omega, rfl⟩
    unfold PacketBatch.packetView
    rw [hoffset, hlength, hsender, Option.bind_eq_bind, Option.bind_some, Option.bind_eq_bind,
      Option.bind_some, Option.bind_some, if_pos (by omega)]
    rfl
  let packets := (List.range batch.packetCount).map fun index => (batch.packetView index).getD ⟨[], 0⟩
  have hview : ∀ index (hindex : index < packets.length),
      batch.packetView index = some packets[index] := by
    intro index hindex
    have hlt : index < batch.packetCount := by simpa [packets] using hindex
    obtain ⟨offset, length, sender, packet, -, -, -, hview, -⟩ := hpacket index hlt
    simp [packets, hview]
  refine ⟨packets, ⟨fun index hindex => ?_⟩, by simp [packets], hview⟩
  have hlt : index < batch.packetCount := by simpa [packets] using hindex
  obtain ⟨offset, length, sender, packet, hoffset, hlength, hsender, hsome, hend, rfl⟩ :=
    hpacket index hlt
  obtain hsame := Option.some.inj (hsome.symm.trans (hview index hindex))
  have hsize : length.toNat = packets[index].bytes.length := by
    rw [← hsame, List.length_take, List.length_drop]
    omega
  refine ⟨offset, length, hoffset, hlength, ?_, hsize, fun k hk => ?_⟩
  · rw [← hsame]
    exact hsender
  · rw [← hsize] at hk
    rw [Memory.ofBytes, ← hsame, List.getElem?_take_of_lt hk, List.getElem?_drop]

/-- What the CPU makes of an accepted batch is the analysis of each packet. -/
theorem analyses_eq {batch : PacketBatch} {packets : List PacketView} (hlays : batch.Lays packets)
    (hcount : packets.length = batch.packetCount)
    (hview : ∀ index (hindex : index < packets.length),
      batch.packetView index = some packets[index]) :
    batch.analyses = packets.map fun packet => some (analysisOf packet.bytes packet.ingressPort) := by
  refine List.ext_getElem (by simp [PacketBatch.analyses, hcount]) fun index hindex hpacket => ?_
  rw [List.length_map] at hpacket
  obtain ⟨_, length, -, -, -, hsize, -⟩ := hlays.packet index hpacket
  have hsmall := length.toNat_lt
  simp only [PacketBatch.analyses, List.getElem_map, List.getElem_range]
  rw [hview index hpacket, Option.bind_some, parsePacket_eq (by omega)]

namespace MetalStreamParser
open Impl

/-! ## Filling a slot -/

/-- A slot whose buffers begin with a batch. -/
structure Loaded (slot : Slot) (batch : PacketBatch) : Prop where
  bytes : ∃ stale, slot.bytes = some (batch.packetBytes ++ stale)
  offsets : ∃ stale, slot.offsets = some (batch.packetOffsets ++ stale)
  lengths : ∃ stale, slot.lengths = some (batch.packetLengths ++ stale)
  senderIds : ∃ stale, slot.senderIds = some (batch.senderIds ++ stale)
  count : ∃ stale, slot.count = some (.ofNat batch.packetCount :: stale)
  analyses : ∃ records, slot.analyses = some records ∧ batch.packetCount ≤ records.length
  packetCount : slot.packetCount = batch.packetCount

/-- A buffer that could be had is large enough. -/
private theorem ensureCapacity_spec {α : Type} {zero : α} {buffer buffer' : Option (List α)}
    {requiredLength : Nat} {device device' : Device}
    (h : ensureCapacity zero buffer requiredLength device = (buffer', device'))
    (hdone : device'.failed = false) :
    device.failed = false ∧ ∃ contents, buffer' = some contents ∧ requiredLength ≤ contents.length := by
  unfold ensureCapacity at h
  cases hfailed : device.failed with
  | true =>
      simp only [hfailed, true_or, if_true, Prod.mk.injEq] at h
      rw [← h.2, hfailed] at hdone
      cases hdone
  | false =>
      refine ⟨rfl, ?_⟩
      simp only [hfailed, Bool.false_eq_true, false_or] at h
      split at h
      · rename_i hlarge
        obtain ⟨rfl, -⟩ := Prod.mk.inj h
        cases buffer with
        | none => simp at hlarge
        | some contents => exact ⟨contents, rfl, by simp at hlarge; omega⟩
      · split at h
        · obtain ⟨-, rfl⟩ := Prod.mk.inj h
          cases hdone
        · obtain ⟨rfl, -⟩ := Prod.mk.inj h
          exact ⟨_, rfl, by rw [List.length_replicate]; omega⟩

/-- A batch that was copied into the buffers of a slot is at their start. -/
theorem fillSlot_loaded {slot slot' : Slot} {batch : PacketBatch} {device device' : Device}
    (h : ensureCapacities slot batch device = (slot', device')) (hdone : device'.failed = false)
    (command : Option CommandStatus) :
    Loaded { fillSlot slot' batch with command, packetCount := batch.packetCount } batch := by
  unfold ensureCapacities at h
  -- The six buffers, one call after the other; if the last did not fail, none did.
  generalize h1 : ensureCapacity 0 slot.bytes batch.packetBytes.length device = r1 at h
  obtain ⟨bytes, device1⟩ := r1
  dsimp only at h
  generalize h2 : ensureCapacity 0 slot.offsets batch.packetOffsets.length device1 = r2 at h
  obtain ⟨offsets, device2⟩ := r2
  dsimp only at h
  generalize h3 : ensureCapacity 0 slot.lengths batch.packetLengths.length device2 = r3 at h
  obtain ⟨lengths, device3⟩ := r3
  dsimp only at h
  generalize h4 : ensureCapacity 0 slot.senderIds batch.senderIds.length device3 = r4 at h
  obtain ⟨senderIds, device4⟩ := r4
  dsimp only at h
  generalize h5 : ensureCapacity 0 slot.count 1 device4 = r5 at h
  obtain ⟨count, device5⟩ := r5
  dsimp only at h
  generalize h6 : ensureCapacity none slot.analyses batch.packetCount device5 = r6 at h
  obtain ⟨analyses, device6⟩ := r6
  dsimp only at h
  obtain ⟨hslot, hdevice⟩ := Prod.mk.inj h
  subst hslot hdevice
  obtain ⟨hd5, records, rfl, hrecords⟩ := ensureCapacity_spec h6 hdone
  obtain ⟨hd4, counts, rfl, -⟩ := ensureCapacity_spec h5 hd5
  obtain ⟨hd3, senders, rfl, -⟩ := ensureCapacity_spec h4 hd4
  obtain ⟨hd2, sizes, rfl, -⟩ := ensureCapacity_spec h3 hd3
  obtain ⟨hd1, starts, rfl, -⟩ := ensureCapacity_spec h2 hd2
  obtain ⟨-, contents, rfl, -⟩ := ensureCapacity_spec h1 hd1
  exact {
    bytes := ⟨_, rfl⟩
    offsets := ⟨_, rfl⟩
    lengths := ⟨_, rfl⟩
    senderIds := ⟨_, rfl⟩
    count := ⟨_, rfl⟩
    analyses := ⟨_, rfl, hrecords⟩
    packetCount := rfl }

/-! ## Completing a command -/

section
variable {slot : Slot} {batch : PacketBatch} (hloaded : Loaded slot batch)
  (hvalid : validateBatch batch = true) (hcount : batch.packetCount ≤ 4294967295)
include hloaded hvalid hcount

/-- The threads of a kernel write its batch's records, each to its place, and every
place is written. -/
private theorem kernelWrites_spec :
    ∃ packets writes, batch.Lays packets ∧ packets.length = batch.packetCount ∧
      batch.analyses = (deviceRecords packets).map DevicePacketAnalysis.toPacketAnalysis ∧
      kernelWrites slot = some writes ∧
      (∀ write ∈ writes, (deviceRecords packets)[write.1]? = some write.2) ∧
      ∀ index < packets.length, ∃ value, (index, value) ∈ writes := by
  obtain ⟨packets, hlays, hlength, hview⟩ := validateBatch_lays hvalid
  obtain ⟨bytes, hbytes⟩ := hloaded.bytes
  obtain ⟨offsets, hoffsets⟩ := hloaded.offsets
  obtain ⟨lengths, hlengths⟩ := hloaded.lengths
  obtain ⟨senders, hsenders⟩ := hloaded.senderIds
  obtain ⟨counts, hcounts⟩ := hloaded.count
  have hbuffers : (kernelBatch slot).Lays packets := by
    unfold kernelBatch
    rw [hbytes, hoffsets, hlengths, hsenders]
    exact hlays.append bytes offsets lengths senders
  have hnumber : (UInt32.ofNat batch.packetCount).toNat = packets.length := by
    rw [UInt32.toNat_ofNat', Nat.mod_eq_of_lt (by omega), hlength]
  -- What each thread writes.
  have hthread (index : UInt32) := metal_thread hbuffers hnumber index
  choose own hown hright hall using hthread
  have hprogram : Metal.parsePackets (kernelBatch slot) (.ofNat batch.packetCount) =
      fun index => pure (own index) := funext hown
  refine ⟨packets, ((dispatch slot.packetCount).map own).flatten, hlays, hlength, ?_, ?_, ?_, ?_⟩
  · rw [deviceRecords_analysis, analyses_eq hlays hlength hview]
  · unfold kernelWrites
    rw [hcounts, Option.bind_eq_bind, Option.bind_some, List.getElem?_cons_zero,
      Option.bind_eq_bind, Option.bind_some, hprogram, List.mapM_pure]
    rfl
  · intro write hwrite
    obtain ⟨writes, hwrites, hmem⟩ := List.mem_flatten.mp hwrite
    obtain ⟨index, -, rfl⟩ := List.mem_map.mp hwrites
    exact hright index write hmem
  · intro index hindex
    have hgroups : index < (slot.packetCount + metalThreadsPerGroup - 1) / metalThreadsPerGroup *
        metalThreadsPerGroup := by
      rw [hloaded.packetCount]
      simp only [metalThreadsPerGroup]
      omega
    have hvalue : (UInt32.ofNat index).toNat = index := by
      rw [UInt32.toNat_ofNat', Nat.mod_eq_of_lt (by omega)]
    obtain ⟨value, hmem⟩ := hall (.ofNat index) (hvalue.symm ▸ hindex)
    rw [hvalue] at hmem
    refine ⟨value, List.mem_flatten.mpr ⟨_, List.mem_map_of_mem ?_, hmem⟩⟩
    exact List.mem_map_of_mem (List.mem_range.mpr hgroups)

/-- **A completed command has the results of its batch**, in whatever order the writes
happened. -/
theorem results_completed {writes order : List (Nat × DevicePacketAnalysis)}
    {records : List (Option DevicePacketAnalysis)} (hwrites : kernelWrites slot = some writes)
    (hrecords : slot.analyses = some records) (horder : order.Perm writes) :
    results { slot with command := some .completed, analyses := some (order.foldl store records) } =
      batch.analyses := by
  obtain ⟨packets, writes', -, hlength, hanalyses, hwrites', hright, hall⟩ :=
    kernelWrites_spec hloaded hvalid hcount
  obtain rfl := Option.some.inj (hwrites.symm.trans hwrites')
  obtain ⟨records', hrecords', hroom⟩ := hloaded.analyses
  obtain rfl := Option.some.inj (hrecords.symm.trans hrecords')
  have hdevice : (deviceRecords packets).length = packets.length := List.length_map _
  have htake : (order.foldl store records).take (deviceRecords packets).length =
      (deviceRecords packets).map some := by
    refine take_foldl_store (fun write hwrite => hright write (horder.mem_iff.mp hwrite))
      (fun index hindex => ?_) (by omega)
    obtain ⟨value, hvalue⟩ := hall index (hdevice ▸ hindex)
    exact ⟨value, horder.mem_iff.mpr hvalue⟩
  rw [hdevice] at htake
  unfold results
  rw [hanalyses]
  dsimp only [Option.isSome_some]
  rw [if_pos rfl]
  refine List.ext_getElem (by simp [hloaded.packetCount, hlength, hdevice]) fun index hindex _ => ?_
  have hlt : index < packets.length := by
    simpa [hloaded.packetCount, hlength] using hindex
  have hplace : (order.foldl store records)[index]? = some (some (deviceRecords packets)[index]) := by
    rw [← List.getElem?_take_of_lt hlt, htake, List.getElem?_map,
      List.getElem?_eq_getElem (by omega)]
    rfl
  simp [hplace]

/-- The GPU can complete a command. -/
theorem complete_enabled {records : List (Option DevicePacketAnalysis)}
    (hrecords : slot.analyses = some records) :
    ∃ writes, kernelWrites slot = some writes ∧ ∀ write ∈ writes, write.1 < records.length := by
  obtain ⟨packets, writes, -, hlength, -, hwrites, hright, -⟩ :=
    kernelWrites_spec hloaded hvalid hcount
  obtain ⟨records', hrecords', hroom⟩ := hloaded.analyses
  obtain rfl := Option.some.inj (hrecords.symm.trans hrecords')
  refine ⟨writes, hwrites, fun write hwrite => ?_⟩
  have hlt := (List.getElem?_eq_some_iff.mp (hright write hwrite)).1
  rw [deviceRecords, List.length_map] at hlt
  omega

end

end MetalStreamParser
end WireLab
