import WireLab.Logic.DeviceParsing

/-!
# The packet parsers agree

A batch is parsed by the CPU, one packet after the other, or by a kernel in many
threads at once. Whatever the order of their writes, the records that the kernels
leave for the host are what the CPU computes.
-/

namespace WireLab

open Base

section
variable {batch : PacketBatch} {packets : List PacketView} (h : batch.Holds packets)
include h

/-- The launch of Metal, by a grid that has a thread for each packet. -/
private theorem metal_launch {count : Nat} (hcount : packets.length < 2 ^ 32)
    (hgrid : packets.length ≤ count) (output : List (Option DevicePacketAnalysis)) :
    Launch (Metal.parsePackets batch (.ofNat batch.packetCount)) (Metal.threads count)
      packets.length output ↔ output = (deviceRecords packets).map some := by
  have hlength : (deviceRecords packets).length = packets.length := List.length_map _
  have hpackets : (UInt32.ofNat batch.packetCount).toNat = packets.length := by
    rw [PacketBatch.packetCount, h.lengths, List.length_map, UInt32.toNat_ofNat',
      Nat.mod_eq_of_lt hcount]
  rw [← hlength]
  refine launch_iff (fun thread _ => ?_) (fun i hi => ?_) output
  · obtain ⟨own, hown, hright, _⟩ := metal_thread h.lays hpackets thread
    exact ⟨own, hown, hright⟩
  · rw [hlength] at hi
    obtain ⟨own, hown, _, hall⟩ := metal_thread h.lays hpackets (.ofNat i)
    have hindex : (UInt32.ofNat i).toNat = i := by
      rw [UInt32.toNat_ofNat', Nat.mod_eq_of_lt (by omega)]
    rw [hindex] at hall
    exact ⟨.ofNat i, List.mem_map_of_mem (List.mem_range.mpr (by omega)), own, hown, hall hi⟩

/-- The launch of CUDA, by any grid. -/
private theorem cuda_launch {gridDim blockDim : Nat} (hgrid : 0 < gridDim) (hblock : 0 < blockDim)
    (output : List (Option DevicePacketAnalysis)) :
    Launch (Cuda.parsePackets batch batch.packetCount gridDim blockDim)
      (Cuda.threads gridDim blockDim) packets.length output ↔
        output = (deviceRecords packets).map some := by
  have hlength : (deviceRecords packets).length = packets.length := List.length_map _
  have hcount : batch.packetCount = packets.length := by
    rw [PacketBatch.packetCount, h.lengths, List.length_map]
  have hstride : 0 < blockDim * gridDim := Nat.mul_pos hblock hgrid
  rw [← hlength, hcount]
  refine launch_iff (fun thread _ => ?_) (fun i hi => ?_) output
  · obtain ⟨own, hown, hright, _⟩ := cuda_loop h.lays hstride
      (Nat.le_add_right packets.length (thread.blockIdx * blockDim + thread.threadIdx))
    exact ⟨own, hown, hright⟩
  · -- The thread that comes upon `i` after `i / blockDim / gridDim` turns.
    let thread : Cuda.Thread := { blockIdx := i / blockDim % gridDim, threadIdx := i % blockDim }
    have hthread : thread ∈ Cuda.threads gridDim blockDim :=
      List.mem_flatMap.mpr ⟨_, List.mem_range.mpr (Nat.mod_lt _ hgrid),
        List.mem_map.mpr ⟨_, List.mem_range.mpr (Nat.mod_lt _ hblock), rfl⟩⟩
    have hindex : i / blockDim % gridDim * blockDim + i % blockDim +
        i / blockDim / gridDim * (blockDim * gridDim) = i := by
      have hblocks := Nat.mod_add_div (i / blockDim) gridDim
      have hthreads := Nat.mod_add_div i blockDim
      nlinarith
    obtain ⟨own, hown, _, hall⟩ := cuda_loop h.lays hstride
      (Nat.le_add_right packets.length (thread.blockIdx * blockDim + thread.threadIdx))
    refine ⟨thread, hthread, own, hown, ?_⟩
    have hmeets := hall (i / blockDim / gridDim)
    rw [hindex] at hmeets
    exact hmeets (hlength ▸ hi)

end

/-- **The CPU, Metal and CUDA packet parsers agree.** A Metal grid may have any number
of threads that covers the packets, and a CUDA grid any shape. -/
theorem packet_parsers_agree {packets : List PacketView} {timestampNs : UInt64} {batch : PacketBatch}
    (h : PacketBatch.create packets timestampNs = .ok batch) :
    ∃ records,
      List.Forall₂ (fun packet record => ∃ analysis, parsePacket packet = some analysis ∧
        DevicePacketAnalysis.toPacketAnalysis record = some analysis) packets records ∧
      (packets.length < 2 ^ 32 → ∀ count, packets.length ≤ count → ∀ output,
        Launch (Metal.parsePackets batch (.ofNat batch.packetCount)) (Metal.threads count)
          packets.length output ↔ output = records.map some) ∧
      ∀ gridDim blockDim, 0 < gridDim → 0 < blockDim → ∀ output,
        Launch (Cuda.parsePackets batch batch.packetCount gridDim blockDim)
          (Cuda.threads gridDim blockDim) packets.length output ↔ output = records.map some := by
  have hholds := PacketBatch.holds_create h
  refine ⟨deviceRecords packets, ?_, fun hcount _ hgrid => metal_launch hholds hcount hgrid,
    fun _ _ => cuda_launch hholds⟩
  rw [deviceRecords, List.forall₂_map_right_iff, List.forall₂_same]
  intro packet hpacket
  have hshort := hholds.short packet hpacket
  exact ⟨_, parsePacket_eq (by omega),
    toPacketAnalysis_toDevice (analysisOf_classification packet.bytes packet.ingressPort)⟩

/-- A UDP datagram whose length is longer than what is left for it. -/
private def shortDatagram : PacketView where
  bytes :=
    [0xff, 0xff, 0xff, 0xff, 0xff, 0xff, 0x02, 0, 0, 0, 0, 0x01, 0x08, 0,
      0x45, 0, 0, 28, 0, 0, 0, 0, 64, 17, 0, 0, 10, 0, 0, 1, 10, 0, 0, 2,
      0, 53, 0, 53, 0, 9, 0, 0]
  ingressPort := 3

/-- It is packed after a packet that is too short for any header. -/
private def twoPackets : List PacketView := [{ bytes := [1, 2, 3], ingressPort := 7 }, shortDatagram]

private def twoPacketsBatch : PacketBatch where
  packetBytes := [1, 2, 3] ++ shortDatagram.bytes
  packetOffsets := [0, 3, 45]
  packetLengths := [3, 42]
  senderIds := [7, 3]

theorem packet_parsers_agree_twoPackets :
    PacketBatch.create twoPackets 0 = .ok twoPacketsBatch ∧
    ∃ records,
      List.Forall₂ (fun packet record => ∃ analysis, parsePacket packet = some analysis ∧
        DevicePacketAnalysis.toPacketAnalysis record = some analysis) twoPackets records ∧
      (twoPackets.length < 2 ^ 32 → ∀ count, twoPackets.length ≤ count → ∀ output,
        Launch (Metal.parsePackets twoPacketsBatch (.ofNat twoPacketsBatch.packetCount))
          (Metal.threads count) twoPackets.length output ↔ output = records.map some) ∧
      ∀ gridDim blockDim, 0 < gridDim → 0 < blockDim → ∀ output,
        Launch (Cuda.parsePackets twoPacketsBatch twoPacketsBatch.packetCount gridDim blockDim)
          (Cuda.threads gridDim blockDim) twoPackets.length output ↔ output = records.map some :=
  ⟨rfl, packet_parsers_agree rfl⟩

/-- The length of the datagram makes it malformed; its addresses are read. -/
example :
    (parsePacket shortDatagram).map (fun analysis => (analysis.validity, analysis.sourceIpv4)) =
      some (.malformedTransport, 0x0a000001) := by
  decide +kernel

end WireLab
