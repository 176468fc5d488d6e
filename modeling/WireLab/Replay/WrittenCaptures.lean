import WireLab.Replay.Verdicts

/-!
# A capture that was written

The file behind a list of writes is read packet by packet, so what is in it are the
packets that were written (`contents_written`).
-/

namespace WireLab

open Base Base.Checked Pcap

/-- The file a writer leaves. -/
def writtenFile (writes : List PacketWrite) : Bytes :=
  PcapNgWriter.header (bytes "wirelab") pcapMaximumSnaplen ++ writes.flatMap PacketWrite.block

/-- A packet as it is found again: its original length is not below its captured one. -/
def PacketWrite.found (write : PacketWrite) : CapturedPacket where
  timestampNs := write.timestampNs
  frame := write.frame
  originalLength := max write.originalLength write.frame.length

section
variable {writes : List PacketWrite} (hfits : ∀ write ∈ writes, write.Fits)
include hfits

/-- The walk over a written file, block by block. -/
private theorem returns_walk :
    ∃ last, Returns (loop (fun scan : BlockScan => scan.offset < (writtenFile writes).length)
        (readBlock (writtenFile writes)) ((writtenFile writes).length + 1) {}) last ∧
      last.packets.map (entry (writtenFile writes)) = writes.map PacketWrite.entry := by
  have hblocks : writtenFile writes = block blockSectionHeader sectionBody ++
      (block blockInterfaceDescription (interfaceBody (bytes "wirelab") pcapMaximumSnaplen) ++
        writes.flatMap fun write => block blockEnhancedPacket (packetBody write)) := by
    rw [writtenFile, header_eq, List.append_assoc]
    congr 2
    exact List.flatMap_congr fun write _ => packetBlock_eq write
  generalize writtenFile writes = data at hblocks ⊢
  have hat : HasAt data 0 (block blockSectionHeader sectionBody ++
      (block blockInterfaceDescription (interfaceBody (bytes "wirelab") pcapMaximumSnaplen) ++
        writes.flatMap fun write => block blockEnhancedPacket (packetBody write))) := by
    rw [← hblocks]
    exact List.prefix_rfl
  have hlength := congrArg List.length hblocks
  rw [List.length_append, List.length_append] at hlength
  have hsectionLength := length_block blockSectionHeader sectionBody
  have hinterfaceLength := length_block blockInterfaceDescription
    (interfaceBody (bytes "wirelab") pcapMaximumSnaplen)
  -- The section header, the interface, and the packets behind them.
  have hsection := returns_section hat.left
  rw [← hsectionLength] at hsection
  obtain ⟨described, hinterface, hnone, hdescribed⟩ :
      ∃ next, Returns (readBlock data
          { offset := 0 + (block blockSectionHeader sectionBody).length }) next ∧
        next.packets = [] ∧ Described (0 + (block blockSectionHeader sectionBody).length +
          (block blockInterfaceDescription
            (interfaceBody (bytes "wirelab") pcapMaximumSnaplen)).length) next :=
    returns_interface hat.right.left rfl rfl (by decide)
  obtain ⟨rounds, hrounds⟩ : ∃ rounds, data.length = rounds + 1 := ⟨data.length - 1, by omega⟩
  obtain ⟨last, hlast, hentries⟩ := returns_packets hat.right.right (by omega) hdescribed hfits
    (show data.length < _ + rounds by omega)
  refine ⟨last, ?_, ?_⟩
  · rw [show data.length + 1 = rounds + 1 + 1 by omega]
    refine Returns.loop ?_ hsection (Returns.loop ?_ hinterface hlast)
    · rw [decide_eq_true_eq]
      show 0 < data.length
      omega
    · rw [decide_eq_true_eq]
      show 0 + (block blockSectionHeader sectionBody).length < data.length
      omega
  · rw [hentries, hnone, List.map_nil, List.nil_append]

/-- **A written file is read**, and its packets are those that were written. -/
theorem contents_written : ∃ capture,
    Returns (PcapCapture.fromBytes (writtenFile writes)) capture ∧
      capture.contents = writes.map PacketWrite.found := by
  obtain ⟨last, hwalk, hentries⟩ := returns_walk hfits
  have hmagic : HasAt (writtenFile writes) 0 (le32 blockSectionHeader) := by
    rw [writtenFile, header_eq, List.append_assoc]
    exact List.prefix_append_of_prefix (List.prefix_append _ _)
  have hlong : ¬(writtenFile writes).length < 4 := by
    have hinside := hmagic.length_le (by decide)
    rw [length_le32] at hinside
    omega
  refine ⟨{ bytes := writtenFile writes
            packets := last.packets
            linkType := last.linkType
            snaplen := if last.snaplen = 0 then pcapMaximumSnaplen else last.snaplen
            nanosecondResolution := last.nanosecondResolution
            pcapng := true }, ?_, ?_⟩
  · refine returns_unless hlong ((returns_readU32 hmagic).bind ?_)
    rw [if_pos rfl]
    exact hwalk.bind (returns_pure _)
  · have hfound := congrArg (List.map fun entry : UInt64 × Bytes × Nat × Nat =>
      (⟨entry.1, entry.2.1, entry.2.2.2⟩ : CapturedPacket)) hentries
    rw [List.map_map, List.map_map] at hfound
    exact hfound

end

/-! ## What a replay writes -/

/-- A packet behind its export: an original length below the captured one is raised. -/
def CapturedPacket.exported (packet : CapturedPacket) : CapturedPacket :=
  { packet with originalLength := max packet.originalLength packet.frame.length }

theorem Watch.map_packets (watch : Watch) (batches : List (List CapturedPacket)) :
    (watch.judgements batches).map Judgement.packets = batches := by
  induction batches generalizing watch with
  | nil => rfl
  | cons packets batches ih => rw [judgements, List.map_cons, ih]; rfl

namespace ReplayOptions

variable (options : ReplayOptions) (hwindow : options.detectorConfig.windowDurationNs ≠ 0)

/-- The packets that are judged are those of the capture. -/
theorem packets_judgements (contents : List CapturedPacket) :
    (options.judgements hwindow contents).flatMap Judgement.packets = contents := by
  rw [List.flatMap_def, judgements, Watch.map_packets,
    flatten_chunks options.batchSize_toNat_ne_zero (Nat.le_refl _)]

theorem mem_contents {contents : List CapturedPacket} {judgement : Judgement}
    (hjudgement : judgement ∈ options.judgements hwindow contents)
    {item : PacketAnalysis × CapturedPacket} (hitem : item ∈ judgement.items) :
    item.2 ∈ contents := by
  rw [← options.packets_judgements hwindow contents]
  exact List.mem_flatMap.mpr ⟨judgement, hjudgement, Judgement.mem_items hitem⟩

/-- A write is the annotation of a packet of the capture. -/
theorem mem_writes {contents : List CapturedPacket} {onlyFlagged : Bool} {write : PacketWrite}
    (h : write ∈ (options.judgements hwindow contents).flatMap (Judgement.writes onlyFlagged)) :
    ∃ judgement ∈ options.judgements hwindow contents, ∃ item ∈ judgement.items,
      judgement.annotate item = write := by
  obtain ⟨judgement, hjudgement, hwrite⟩ := List.mem_flatMap.mp h
  obtain ⟨item, hitem, hannotated⟩ := List.mem_map.mp hwrite
  refine ⟨judgement, hjudgement, item, ?_, hannotated⟩
  split at hitem
  · exact (List.mem_filter.mp hitem).1
  · exact hitem

/-- **What is written fits** the format, its comments with room to spare. -/
theorem writes_fit {contents : List CapturedPacket} (hfits : ∀ packet ∈ contents, packet.Fits)
    (hfew : contents.length < 2 ^ 64) (onlyFlagged : Bool) :
    ∀ write ∈ (options.judgements hwindow contents).flatMap (Judgement.writes onlyFlagged),
      write.Fits ∧ write.comment.length < 4096 := by
  intro write hwrite
  obtain ⟨judgement, hjudgement, item, hitem, rfl⟩ := options.mem_writes hwindow hwrite
  have hsound := options.sound_judgements hwindow contents judgement hjudgement
  have hcomment := hsound.length_comment_lt hfew item
  have hpacket := hfits _ (options.mem_contents hwindow hjudgement hitem)
  exact ⟨⟨hpacket.frame, hpacket.wide, lt_trans hcomment (by decide)⟩, hcomment⟩

/-- **All packets are written**, in order. -/
theorem found_writes (contents : List CapturedPacket) :
    ((options.judgements hwindow contents).flatMap (Judgement.writes false)).map PacketWrite.found =
      contents.map CapturedPacket.exported := by
  have hwrites : ∀ judgement : Judgement, (judgement.writes false).map PacketWrite.found =
      judgement.packets.map CapturedPacket.exported := by
    intro judgement
    rw [← judgement.map_items, Judgement.writes, if_neg (by decide), List.map_map, List.map_map]
    rfl
  rw [List.map_flatMap]
  simp only [hwrites]
  rw [← List.map_flatMap, options.packets_judgements]

end ReplayOptions

/-! ## Replaying what was written -/

/-- A judgement about the same packets behind their export. -/
def Judgement.exported (judgement : Judgement) : Judgement :=
  { judgement with
    packets := judgement.packets.map CapturedPacket.exported
    paired := by rw [List.length_map, judgement.paired] }

section
variable (watch : Watch) (packets : List CapturedPacket)

theorem measuredPackets_exported :
    measuredPackets (packets.map CapturedPacket.exported) = measuredPackets packets := by
  rw [measuredPackets, measuredPackets, List.map_map]
  rfl

theorem batchTimestampNs_exported :
    batchTimestampNs (packets.map CapturedPacket.exported) = batchTimestampNs packets := by
  rw [batchTimestampNs, List.getLast?_map, Option.map_map]
  rfl

theorem Watch.evaluation_exported :
    watch.evaluation (packets.map CapturedPacket.exported) = watch.evaluation packets := by
  have hexported := watch.evaluate_eq (packets.map CapturedPacket.exported) 0
  rw [measuredPackets_exported, batchTimestampNs_exported, watch.evaluate_eq packets 0] at hexported
  exact (Option.some.inj hexported).symm

theorem Watch.judge_exported :
    watch.judge (packets.map CapturedPacket.exported) = (watch.judge packets).exported := by
  simp only [Watch.judge, Judgement.exported, watch.evaluation_exported,
    measuredPackets_exported]

theorem Watch.behind_exported :
    watch.behind (packets.map CapturedPacket.exported) = watch.behind packets := by
  simp only [Watch.behind, watch.evaluation_exported, measuredPackets_exported]

end

/-- What is decided does not depend on the original lengths. -/
theorem Watch.judgements_exported (watch : Watch) (batches : List (List CapturedPacket)) :
    watch.judgements (batches.map (List.map CapturedPacket.exported)) =
      (watch.judgements batches).map Judgement.exported := by
  induction batches generalizing watch with
  | nil => rfl
  | cons packets batches ih =>
      rw [List.map_cons, judgements, judgements, List.map_cons, watch.judge_exported,
        watch.behind_exported, ih]

theorem ReplayOptions.judgements_exported (options : ReplayOptions)
    (hwindow : options.detectorConfig.windowDurationNs ≠ 0) (contents : List CapturedPacket) :
    options.judgements hwindow (contents.map CapturedPacket.exported) =
      (options.judgements hwindow contents).map Judgement.exported := by
  rw [judgements, judgements, chunks_map, Watch.judgements_exported, List.length_map]

/-- An exported packet is written as it was. -/
theorem Judgement.block_exported (judgement : Judgement)
    (item : PacketAnalysis × CapturedPacket) :
    (judgement.exported.annotate (item.1, item.2.exported)).block =
      (judgement.annotate item).block := by
  have hmax : max (max item.2.originalLength item.2.frame.length) item.2.frame.length =
      max item.2.originalLength item.2.frame.length := by omega
  show PcapNgWriter.packetBlock _ _ _ _ = PcapNgWriter.packetBlock _ _ _ _
  simp only [PcapNgWriter.packetBlock, annotate, CapturedPacket.exported, hmax]
  rfl

theorem Judgement.items_exported (judgement : Judgement) :
    judgement.exported.items = judgement.items.map (Prod.map id CapturedPacket.exported) := by
  rw [items, items, ← List.zip_map, List.map_id]
  rfl

/-- Of an exported batch the same bytes are written. -/
theorem Judgement.writes_exported (judgement : Judgement) :
    (judgement.exported.writes false).flatMap PacketWrite.block =
      (judgement.writes false).flatMap PacketWrite.block := by
  rw [writes, writes, if_neg (by decide), if_neg (by decide), judgement.items_exported,
    List.map_map, List.flatMap_map, List.flatMap_map]
  exact List.flatMap_congr fun item _ => judgement.block_exported item

theorem Judgement.length_writes_exported (judgement : Judgement) :
    (judgement.exported.writes false).length = (judgement.writes false).length := by
  rw [writes, writes, if_neg (by decide), if_neg (by decide), judgement.items_exported,
    List.length_map, List.length_map, List.length_map]

/-- The same packets are flagged. -/
theorem Judgement.length_flagged_exported (judgement : Judgement) :
    judgement.exported.flagged.length = judgement.flagged.length := by
  rw [flagged, flagged, judgement.items_exported, List.filter_map, List.length_map]
  rfl

end WireLab
