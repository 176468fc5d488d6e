import WireLab.Logic.CaptureText

/-!
# What the writer writes, the reader reads

A file that the writer has made is a section header, the description of one
interface, and a block for every packet (`header_eq`, `packetBlock_eq`). The
reader's walk goes over them block by block, and its index holds the packets that
were written (`capture_round_trip`).
-/

namespace WireLab

open Base Base.Checked Pcap

/-! ## The blocks of a file -/

/-- A packet that is given to a writer. -/
structure PacketWrite where
  timestampNs : UInt64
  frame : Bytes
  originalLength : Nat := 0
  comment : Bytes := []

def sectionBody : Bytes :=
  le32 byteOrderMagic ++ (le16 1 ++ (le16 0 ++ (le32 0xffffffff ++ (le32 0xffffffff ++
    (option optionUserApplication (bytes "WireLab") ++ optionsEnd)))))

/-- The options of the one interface. -/
def interfaceOptions (interfaceName : Bytes) : Bytes :=
  option optionInterfaceName interfaceName ++
    (option optionTimestampResolution [Pcap.nanosecondResolution] ++ optionsEnd)

def interfaceBody (interfaceName : Bytes) (snaplen : UInt32) : Bytes :=
  le16 pcapLinktypeEthernet.toUInt16 ++ (le16 0 ++ (le32 snaplen ++ interfaceOptions interfaceName))

/-- The options of a packet. -/
def commentOptions (comment : Bytes) : Bytes :=
  if comment.isEmpty then [] else option optionComment comment ++ optionsEnd

def packetBody (write : PacketWrite) : Bytes :=
  le32 0 ++ (le32 (write.timestampNs >>> 32).toUInt32 ++ (le32 write.timestampNs.toUInt32 ++
    (le32 (.ofNat write.frame.length) ++
      (le32 (.ofNat (max write.originalLength write.frame.length)) ++
        (write.frame ++ (padding write.frame.length ++ commentOptions write.comment))))))

theorem header_eq (interfaceName : Bytes) (snaplen : UInt32) :
    PcapNgWriter.header interfaceName snaplen =
      block blockSectionHeader sectionBody ++
        block blockInterfaceDescription (interfaceBody interfaceName snaplen) := by
  have hsection := closeBlock_eq [] blockSectionHeader sectionBody
  rw [List.nil_append, List.nil_append, List.length_nil] at hsection
  have hinterface := closeBlock_eq (block blockSectionHeader sectionBody)
    blockInterfaceDescription (interfaceBody interfaceName snaplen)
  rw [← hinterface, ← hsection]
  simp only [PcapNgWriter.header, appendU64, appendU32_eq, appendU16_eq, appendOption_eq,
    appendOptionEnd_eq, sectionBody, interfaceBody, interfaceOptions, List.append_assoc,
    List.nil_append]
  rfl

theorem packetBlock_eq (write : PacketWrite) :
    PcapNgWriter.packetBlock write.timestampNs write.frame write.originalLength write.comment =
      block blockEnhancedPacket (packetBody write) := by
  have hclosed := closeBlock_eq [] blockEnhancedPacket (packetBody write)
  rw [List.nil_append, List.nil_append, List.length_nil] at hclosed
  rw [← hclosed]
  cases hcomment : write.comment.isEmpty with
  | true =>
      simp [PcapNgWriter.packetBlock, appendU32_eq, appendPadding_eq, packetBody, commentOptions,
        hcomment]
  | false =>
      simp [PcapNgWriter.packetBlock, appendU32_eq, appendPadding_eq, appendOption_eq,
        appendOptionEnd_eq, packetBody, commentOptions, hcomment]

theorem length_interfaceBody (interfaceName : Bytes) (snaplen : UInt32) :
    (interfaceBody interfaceName snaplen).length =
      8 + (interfaceOptions interfaceName).length := by
  simp only [interfaceBody, List.length_append, length_le16, length_le32]
  omega

theorem length_packetBody (write : PacketWrite) :
    (packetBody write).length = 20 + (write.frame.length + 3) / 4 * 4 +
      (commentOptions write.comment).length := by
  simp only [packetBody, List.length_append, length_le32, length_padding]
  omega

/-- A comment keeps a block aligned. -/
theorem length_commentOptions (comment : Bytes) :
    (commentOptions comment).length % 4 = 0 ∧
      (commentOptions comment).length ≤ comment.length + 11 := by
  unfold commentOptions
  split_ifs
  · exact ⟨rfl, Nat.zero_le _⟩
  · rw [List.length_append, length_option, length_optionsEnd]
    omega

/-! ## Reading them -/

/-- The writer's ticks are nanoseconds. -/
theorem ticksToNanoseconds_nine (ticks : UInt64) :
    ticksToNanoseconds ticks Pcap.nanosecondResolution = ticks := by
  rw [ticksToNanoseconds, if_neg (by decide)]
  rfl

/-- Where the walk stands behind the header. -/
structure Described (offset : Nat) (scan : BlockScan) : Prop where
  offset : scan.offset = offset
  order : scan.swapped = false
  resolutions : scan.interfaceResolutions = [Pcap.nanosecondResolution]

section
variable {data : Bytes}

/-- The section header sets the order it has itself. -/
theorem returns_section (h : HasAt data 0 (block blockSectionHeader sectionBody)) :
    Returns (readBlock data {}) { offset := 0 + (sectionBody.length + 12) } := by
  have hinside : 0 + (block blockSectionHeader sectionBody).length ≤ data.length :=
    h.length_le (List.ne_nil_of_length_pos (by rw [length_block]; omega))
  have hlength : (block blockSectionHeader sectionBody).length = 44 := by decide
  have hmagic : HasAt data 8 (le32 byteOrderMagic) := h.right.right.left.left
  have horder : Returns (readSectionOrder data 0) false := by
    unfold readSectionOrder
    refine returns_unless (by omega) ((returns_readU32 hmagic).bind ?_)
    rw [if_pos rfl]
    exact returns_pure false
  have hopen : Returns (openSection data blockSectionHeader {}) {} :=
    horder.bind (returns_pure _)
  exact returns_readBlock h rfl (by decide) (by decide) hopen ⟨rfl, rfl⟩ (returns_pure _) ⟨rfl, rfl⟩

/-- The scan behind an interface description. -/
private def withInterface (snaplen : UInt32) (scan : BlockScan) : BlockScan :=
  { scan with
    linkType := pcapLinktypeEthernet
    snaplen := max scan.snaplen snaplen
    interfaceResolutions := scan.interfaceResolutions ++ [Pcap.nanosecondResolution]
    nanosecondResolution := scan.nanosecondResolution ||
      (Pcap.nanosecondResolution &&& 0x80 = 0 && defaultResolution < Pcap.nanosecondResolution) }

/-- The interface is remembered with its resolution. -/
theorem returns_interface {interfaceName : Bytes} {snaplen : UInt32} {scan : BlockScan}
    (h : HasAt data scan.offset
      (block blockInterfaceDescription (interfaceBody interfaceName snaplen)))
    (horder : scan.swapped = false) (hfresh : scan.interfaceResolutions = [])
    (hsmall : interfaceName.length < 65536) :
    ∃ next, Returns (readBlock data scan) next ∧ next.packets = scan.packets ∧
      Described (scan.offset +
        (block blockInterfaceDescription (interfaceBody interfaceName snaplen)).length) next := by
  have hlength := length_interfaceBody interfaceName snaplen
  have hoptions : (interfaceOptions interfaceName).length =
      4 + (interfaceName.length + 3) / 4 * 4 + 12 := by
    simp only [interfaceOptions, List.length_append, length_option, length_optionsEnd,
      List.length_singleton]
  have hat := h.right.right.left
  have hbody : Returns (readInterface data (scan.offset + 8)
      (interfaceBody interfaceName snaplen).length scan) (withInterface snaplen scan) := by
    unfold readInterface
    rw [horder]
    refine returns_unless (by omega) ((returns_readU16 hat.left).bind ?_)
    refine returns_unless (by decide) ((returns_readU32 hat.right.right.left).bind ?_)
    have hroom : (interfaceOptions interfaceName).length =
        (interfaceBody interfaceName snaplen).length - 8 := by omega
    refine (returns_resolution hat.right.right.right hsmall hroom).bind ?_
    rw [← horder]
    exact returns_pure (withInterface snaplen scan)
  refine ⟨_, returns_readBlock h horder (by omega) (by omega) (returns_pure scan) ⟨rfl, horder⟩
    hbody ⟨rfl, horder⟩, rfl, ⟨?_, horder, ?_⟩⟩
  · rw [length_block]
  · show scan.interfaceResolutions ++ [Pcap.nanosecondResolution] = _
    rw [hfresh, List.nil_append]

/-- What an index says of a packet: when, which bytes, and how many there were. -/
def entry (data : Bytes) (packet : PcapPacket) : UInt64 × Bytes × Nat × Nat :=
  (packet.timestampNs, (data.drop packet.offset).take packet.capturedLength,
    packet.capturedLength, packet.originalLength)

/-- What the writer was given. -/
def PacketWrite.entry (write : PacketWrite) : UInt64 × Bytes × Nat × Nat :=
  (write.timestampNs, write.frame, write.frame.length,
    max write.originalLength write.frame.length)

/-- A packet that the format has room for. -/
structure PacketWrite.Fits (write : PacketWrite) : Prop where
  frame : write.frame.length ≤ pcapMaximumSnaplen.toNat
  originalLength : write.originalLength < 2 ^ 32
  comment : write.comment.length < 2 ^ 31

/-- The scan behind a packet. -/
private def withPacket (write : PacketWrite) (scan : BlockScan) : BlockScan :=
  { scan with
    packets := scan.packets ++
      [{ timestampNs := write.timestampNs
         offset := scan.offset + 8 + 20
         capturedLength := write.frame.length
         originalLength := max write.originalLength write.frame.length }] }

/-- **A packet block** puts what was written into the index. -/
theorem returns_packet {write : PacketWrite} {scan : BlockScan} {offset : Nat}
    (h : HasAt data offset (block blockEnhancedPacket (packetBody write)))
    (hscan : Described offset scan) (hfits : write.Fits) :
    ∃ next, Returns (readBlock data scan) next ∧
      next.packets.map (entry data) = scan.packets.map (entry data) ++ [write.entry] ∧
      Described (offset + (block blockEnhancedPacket (packetBody write)).length) next := by
  obtain ⟨rfl, horder, hresolutions⟩ := hscan
  obtain ⟨hframe, horiginal, hcomment⟩ := hfits
  have hsnaplen : pcapMaximumSnaplen.toNat = 262144 := rfl
  have hlength := length_packetBody write
  have ⟨haligned, hshort⟩ := length_commentOptions write.comment
  have hbody := h.right.right.left
  have hcaptured : (UInt32.ofNat write.frame.length).toNat = write.frame.length := by
    rw [UInt32.toNat_ofNat', Nat.mod_eq_of_lt (by omega)]
  have hlarger : (UInt32.ofNat (max write.originalLength write.frame.length)).toNat =
      max write.originalLength write.frame.length := by
    rw [UInt32.toNat_ofNat', Nat.mod_eq_of_lt (by omega)]
  have hread : Returns (readEnhancedPacket data (scan.offset + 8) (packetBody write).length scan)
      (withPacket write scan) := by
    unfold readEnhancedPacket
    rw [horder]
    refine returns_unless (by omega) ?_
    refine (returns_readU32 hbody.left).bind ((returns_readU32 hbody.right.left).bind
      ((returns_readU32 hbody.right.right.left).bind
        ((returns_readU32 hbody.right.right.right.left).bind
          ((returns_readU32 hbody.right.right.right.right.left).bind ?_))))
    refine returns_unless ?_ ?_
    · rw [gt_iff_lt, UInt32.not_lt, UInt32.le_iff_toNat_le, hcaptured]
      exact hframe
    · have hfirst : scan.interfaceResolutions[(0 : UInt32).toNat]? =
          some Pcap.nanosecondResolution := by
        rw [hresolutions]
        rfl
      simp only [hfirst, hcaptured, hlarger, join64, ticksToNanoseconds_nine]
      rw [← horder]
      exact returns_unless (by omega) (returns_pure (withPacket write scan))
  refine ⟨_, returns_readBlock h horder (by omega) (by omega) (returns_pure scan) ⟨rfl, horder⟩
    hread ⟨rfl, horder⟩, ?_, ⟨?_, horder, hresolutions⟩⟩
  · have hbytes : (data.drop (scan.offset + 8 + 20)).take write.frame.length = write.frame :=
      hbody.right.right.right.right.right.left.take
    show (scan.packets ++ [_]).map (entry data) = _
    rw [List.map_append, List.map_singleton]
    show _ ++ [(write.timestampNs, (data.drop (scan.offset + 8 + 20)).take write.frame.length,
      write.frame.length, max write.originalLength write.frame.length)] = _
    rw [hbytes]
    rfl
  · rw [length_block]

/-- **The packets of a file** are all indexed, by induction on what was
written. -/
theorem returns_packets {writes : List PacketWrite} {scan : BlockScan} {offset rounds : Nat}
    (h : HasAt data offset
      (writes.flatMap fun write => block blockEnhancedPacket (packetBody write)))
    (hend : offset + (writes.flatMap fun write =>
      block blockEnhancedPacket (packetBody write)).length = data.length)
    (hscan : Described offset scan) (hfits : ∀ write ∈ writes, write.Fits)
    (hrounds : data.length < offset + rounds) :
    ∃ last, Returns (loop (fun scan => scan.offset < data.length) (readBlock data) rounds scan)
        last ∧
      last.packets.map (entry data) =
        scan.packets.map (entry data) ++ writes.map PacketWrite.entry := by
  induction writes generalizing scan offset rounds with
  | nil =>
      refine ⟨scan, returns_loop_end ?_ rounds, by rw [List.map_nil, List.append_nil]⟩
      rw [hscan.offset, decide_eq_false_iff_not]
      rw [List.flatMap_nil, List.length_nil] at hend
      omega
  | cons write writes ih =>
      rw [List.flatMap_cons] at h hend
      rw [List.length_append] at hend
      obtain ⟨next, hread, hentries, hnext⟩ :=
        returns_packet h.left hscan (hfits write (List.mem_cons_self ..))
      have hpositive : 0 < (block blockEnhancedPacket (packetBody write)).length := by
        rw [length_block]
        omega
      obtain ⟨rounds, rfl⟩ : ∃ fewer, rounds = fewer + 1 := ⟨rounds - 1, by omega⟩
      have hrest : data.length <
          offset + (block blockEnhancedPacket (packetBody write)).length + rounds := by omega
      obtain ⟨last, hlast, hall⟩ := ih h.right (by omega) hnext
        (fun other hother => hfits other (List.mem_cons_of_mem _ hother)) hrest
      refine ⟨last, Returns.loop ?_ hread hlast, ?_⟩
      · rw [hscan.offset, decide_eq_true_eq]
        omega
      · rw [hall, hentries, List.map_cons, List.append_assoc, List.singleton_append]

end

/-! ## A whole file -/

/-- Give a packet to a writer. -/
def PacketWrite.perform (writer : PcapNgWriter) (write : PacketWrite) :
    Except PcapError PcapNgWriter :=
  writer.write true write.timestampNs write.frame write.originalLength write.comment

/-- What a writer leaves behind the packets it takes. -/
theorem perform_all {writes : List PacketWrite} (writer : PcapNgWriter)
    (hfits : ∀ write ∈ writes, write.Fits) :
    ∃ written, writes.foldlM PacketWrite.perform writer = .ok written ∧
      written.stream = writer.stream ++
        writes.flatMap fun write => block blockEnhancedPacket (packetBody write) := by
  induction writes generalizing writer with
  | nil => exact ⟨writer, rfl, by rw [List.flatMap_nil, List.append_nil]⟩
  | cons write writes ih =>
      have hframe : ¬write.frame.length > pcapMaximumSnaplen.toNat :=
        not_lt.mpr (hfits write (List.mem_cons_self ..)).frame
      have hstep : PacketWrite.perform writer write = .ok
          { writer with
            stream := writer.stream ++ block blockEnhancedPacket (packetBody write)
            writtenPackets := writer.writtenPackets + 1 } := by
        rw [PacketWrite.perform, PcapNgWriter.write, if_neg hframe, packetBlock_eq]
        rfl
      obtain ⟨written, hall, hstream⟩ := ih
        { writer with
          stream := writer.stream ++ block blockEnhancedPacket (packetBody write)
          writtenPackets := writer.writtenPackets + 1 }
        fun other hother => hfits other (List.mem_cons_of_mem _ hother)
      refine ⟨written, ?_, ?_⟩
      · rw [List.foldlM_cons, hstep]
        exact hall
      · rw [hstream, List.flatMap_cons, List.append_assoc]

/-- **What the writer writes, the reader reads back.** For every interface name
that a 16-bit length can hold, every snap length and every sequence of packets
that the format has room for, the writer takes them all, the reader accepts the
file, and its packets are the written ones, in order: their timestamps, their
bytes, their captured lengths, and their original lengths, which are never below
the captured ones. -/
theorem capture_round_trip (interfaceName : Bytes) (snaplen : UInt32) (writes : List PacketWrite)
    (hname : interfaceName.length ≤ 65535)
    (hfits : ∀ write ∈ writes, write.frame.length ≤ 262144 ∧ write.originalLength < 2 ^ 32 ∧
      write.comment.length < 2 ^ 31) :
    ∃ created written capture,
      PcapNgWriter.create true true interfaceName snaplen = .ok created ∧
      writes.foldlM PacketWrite.perform created = .ok written ∧
      (PcapCapture.fromBytes written.stream).run = some (.ok capture) ∧
      (capture.packets.map fun packet => (packet.timestampNs, capture.frame packet,
          packet.capturedLength, packet.originalLength)) =
        writes.map fun write => (write.timestampNs, write.frame, write.frame.length,
          max write.originalLength write.frame.length) := by
  have hfits : ∀ write ∈ writes, write.Fits := fun write hwrite =>
    ⟨(hfits write hwrite).1, (hfits write hwrite).2.1, (hfits write hwrite).2.2⟩
  obtain ⟨written, hwritten, hstream⟩ :=
    perform_all { stream := PcapNgWriter.header interfaceName snaplen, snaplen } hfits
  rw [header_eq, List.append_assoc] at hstream
  generalize hdata : written.stream = data at hstream
  -- The file, block by block.
  have hsection : HasAt data 0 (block blockSectionHeader sectionBody ++
      (block blockInterfaceDescription (interfaceBody interfaceName snaplen) ++
        writes.flatMap fun write => block blockEnhancedPacket (packetBody write))) := by
    rw [hstream]
    exact List.prefix_rfl
  have hlength := congrArg List.length hstream
  simp only [List.length_append, length_block] at hlength
  have hdescription : HasAt data (0 + (sectionBody.length + 12))
      (block blockInterfaceDescription (interfaceBody interfaceName snaplen)) := by
    have hright := hsection.right.left
    rwa [length_block] at hright
  obtain ⟨described, hinterface, hnone, hdescribed⟩ :
      ∃ next, Returns (readBlock data { offset := 0 + (sectionBody.length + 12) }) next ∧
        next.packets = [] ∧ Described (0 + (sectionBody.length + 12) +
          (block blockInterfaceDescription (interfaceBody interfaceName snaplen)).length) next :=
    returns_interface hdescription rfl rfl (by omega)
  have hpackets := hsection.right.right
  rw [length_block] at hpackets
  obtain ⟨rounds, hrounds⟩ : ∃ rounds, data.length = rounds + 1 := ⟨data.length - 1, by omega⟩
  have hbehind : data.length < 0 + (sectionBody.length + 12) +
      (block blockInterfaceDescription (interfaceBody interfaceName snaplen)).length + rounds := by
    omega
  obtain ⟨last, hlast, hentries⟩ := returns_packets hpackets (by rw [length_block]; omega)
    hdescribed hfits hbehind
  -- The reader's walk over it.
  have hwalk : Returns (loop (fun scan : BlockScan => scan.offset < data.length) (readBlock data)
      (data.length + 1) {}) last := by
    rw [show data.length + 1 = rounds + 1 + 1 by omega]
    refine Returns.loop ?_ (returns_section hsection.left) (Returns.loop ?_ hinterface hlast)
    · rw [decide_eq_true_eq]
      show 0 < data.length
      omega
    · rw [decide_eq_true_eq]
      show 0 + (sectionBody.length + 12) < data.length
      omega
  have hmagic : HasAt data 0 (le32 blockSectionHeader) := hsection.left.left
  have hread : Returns (PcapCapture.fromBytes data)
      { bytes := data
        packets := last.packets
        linkType := last.linkType
        snaplen := if last.snaplen = 0 then pcapMaximumSnaplen else last.snaplen
        nanosecondResolution := last.nanosecondResolution
        pcapng := true } := by
    unfold PcapCapture.fromBytes
    refine returns_unless (by omega) ((returns_readU32 hmagic).bind ?_)
    rw [if_pos rfl]
    exact hwalk.bind (returns_pure _)
  rw [hnone, List.map_nil, List.nil_append] at hentries
  rw [← hdata] at hread hentries
  exact ⟨_, written, _, rfl, hwritten, hread, hentries⟩

/-- Two packets, one with a comment, in a file whose interface has a name. -/
theorem capture_round_trip_twoPackets :
    ∃ created written capture,
      PcapNgWriter.create true true (bytes "utun4") 0 = .ok created ∧
      [({ timestampNs := 0x123456789abcdef0, frame := [1, 2, 3], originalLength := 60,
          comment := bytes "drop" } : PacketWrite),
        { timestampNs := 5, frame := [7, 7, 7, 7] }].foldlM PacketWrite.perform created =
          .ok written ∧
      (PcapCapture.fromBytes written.stream).run = some (.ok capture) ∧
      (capture.packets.map fun packet => (packet.timestampNs, capture.frame packet,
          packet.capturedLength, packet.originalLength)) =
        [(0x123456789abcdef0, [1, 2, 3], 3, 60), (5, [7, 7, 7, 7], 4, 4)] :=
  capture_round_trip (bytes "utun4") 0 _ (by decide) (by decide)

end WireLab
