import WireLab.Logic.CaptureText

/-!
# The format of a capture

Frames that were captured can be kept as a classic file in either byte order, with
fractions of a second in microseconds or nanoseconds, or as a pcapng file of
sections that each choose their byte order and their resolution (`Encodes`). The
reader's index does not depend on the choice: it holds the times, the bytes and the
original lengths that were captured (`capture_format_immaterial`).
-/

namespace WireLab

open Base Base.Checked Pcap

/-- A captured frame: when, its bytes, and how many there were on the wire. -/
structure CaptureRecord where
  microseconds : Nat
  frame : Bytes
  originalLength : Nat

/-- A record the formats have room for. -/
structure CaptureRecord.Encodable (record : CaptureRecord) : Prop where
  seconds : record.microseconds / 1000000 < 2 ^ 32
  frame : record.frame.length ≤ 262144
  originalLength : record.originalLength < 2 ^ 32

/-- What an index should say of a record. -/
def CaptureRecord.entry (record : CaptureRecord) : Nat × Bytes × Nat :=
  (record.microseconds * 1000, record.frame, record.originalLength)

/-- What an index says of a packet. -/
def captured (data : Bytes) (packet : PcapPacket) : Nat × Bytes × Nat :=
  (packet.timestampNs.toNat, (data.drop packet.offset).take packet.capturedLength,
    packet.originalLength)

/-! ## The formats -/

/-- The header of a classic file of version 2.4. -/
def classicHeader (swapped nanoseconds : Bool) (snaplen : UInt32) : Bytes :=
  word32 swapped (if nanoseconds then magicNanoseconds else magicMicroseconds) ++
    (word16 swapped 2 ++ (word16 swapped 4 ++ (word32 swapped 0 ++ (word32 swapped 0 ++
      (word32 swapped snaplen ++ word32 swapped pcapLinktypeEthernet)))))

def classicRecord (swapped nanoseconds : Bool) (record : CaptureRecord) : Bytes :=
  word32 swapped (.ofNat (record.microseconds / 1000000)) ++
    (word32 swapped
        (.ofNat (record.microseconds % 1000000 * (if nanoseconds then 1000 else 1))) ++
      (word32 swapped (.ofNat record.frame.length) ++
        (word32 swapped (.ofNat record.originalLength) ++ record.frame)))

def classicFile (swapped nanoseconds : Bool) (snaplen : UInt32) (records : List CaptureRecord) :
    Bytes :=
  classicHeader swapped nanoseconds snaplen ++ records.flatMap (classicRecord swapped nanoseconds)

/-- The resolution of an interface, and whether it is left to the default. -/
inductive TickResolution
  | default
  | microseconds
  | nanoseconds
  deriving DecidableEq

namespace TickResolution

def exponent : TickResolution → UInt8
  | .default => defaultResolution
  | .microseconds => 6
  | .nanoseconds => Pcap.nanosecondResolution

/-- The options of an interface of the resolution. -/
def options (swapped : Bool) (resolution : TickResolution) : Bytes :=
  if resolution = .default then []
  else
    resolutionOption swapped resolution.exponent ++
      (word16 swapped optionEnd ++ word16 swapped 0)

/-- A time in ticks of the resolution. -/
def ticks (resolution : TickResolution) (microseconds : Nat) : UInt64 :=
  .ofNat (microseconds * (if resolution = .nanoseconds then 1000 else 1))

end TickResolution

/-- A section of a pcapng file, with one Ethernet interface. -/
structure CaptureSection where
  swapped : Bool
  resolution : TickResolution
  snaplen : UInt32
  records : List CaptureRecord

namespace CaptureSection

/-- The body of a section header of version 1.0, without a length or options. -/
def headerBody (swapped : Bool) : Bytes :=
  word32 swapped byteOrderMagic ++ (word16 swapped 1 ++ (word16 swapped 0 ++
    (word32 swapped 0xffffffff ++ word32 swapped 0xffffffff)))

def interfaceBody (part : CaptureSection) : Bytes :=
  word16 part.swapped pcapLinktypeEthernet.toUInt16 ++ (word16 part.swapped 0 ++
    (word32 part.swapped part.snaplen ++ part.resolution.options part.swapped))

def packetBody (part : CaptureSection) (record : CaptureRecord) : Bytes :=
  word32 part.swapped 0 ++
    (word32 part.swapped (part.resolution.ticks record.microseconds >>> 32).toUInt32 ++
      (word32 part.swapped (part.resolution.ticks record.microseconds).toUInt32 ++
        (word32 part.swapped (.ofNat record.frame.length) ++
          (word32 part.swapped (.ofNat record.originalLength) ++
            (record.frame ++ padding record.frame.length)))))

/-- Its header, its interface, and an enhanced packet for each record. -/
def text (part : CaptureSection) : Bytes :=
  orderedBlock part.swapped blockSectionHeader (headerBody part.swapped) ++
    (orderedBlock part.swapped blockInterfaceDescription part.interfaceBody ++
      part.records.flatMap fun record =>
        orderedBlock part.swapped blockEnhancedPacket (part.packetBody record))

end CaptureSection

/-- The bytes encode the records: in a classic file, or in one or more sections of a
pcapng file. -/
inductive Encodes : List CaptureRecord → Bytes → Prop
  | classic (swapped nanoseconds : Bool) (snaplen : UInt32) (records : List CaptureRecord) :
      Encodes records (classicFile swapped nanoseconds snaplen records)
  | pcapng (first : CaptureSection) (others : List CaptureSection) :
      Encodes ((first :: others).flatMap CaptureSection.records)
        ((first :: others).flatMap CaptureSection.text)

/-! ## Times -/

section
variable {record : CaptureRecord}

/-- A time in nanoseconds fits 64 bits. -/
theorem CaptureRecord.Encodable.nanoseconds_lt (h : record.Encodable) :
    record.microseconds * 1000 < 2 ^ 64 := by
  have hseconds := h.seconds
  omega

/-- The lengths of a record are read as they are. -/
theorem CaptureRecord.Encodable.lengths (h : record.Encodable) :
    (UInt32.ofNat record.frame.length).toNat = record.frame.length ∧
      (UInt32.ofNat record.originalLength).toNat = record.originalLength := by
  have hframe := h.frame
  rw [UInt32.toNat_ofNat', UInt32.toNat_ofNat', Nat.mod_eq_of_lt (by omega),
    Nat.mod_eq_of_lt h.originalLength]
  exact ⟨rfl, rfl⟩

/-- Seconds and a fraction are the time. -/
theorem classic_timestamp (h : record.Encodable) (nanoseconds : Bool) :
    ((UInt32.ofNat (record.microseconds / 1000000)).toUInt64 * 1000000000 +
      (if nanoseconds then
        (UInt32.ofNat (record.microseconds % 1000000 *
          (if nanoseconds then 1000 else 1))).toUInt64
      else
        (UInt32.ofNat (record.microseconds % 1000000 *
          (if nanoseconds then 1000 else 1))).toUInt64 * 1000)).toNat =
      record.microseconds * 1000 := by
  have hseconds := h.seconds
  have hfraction : record.microseconds % 1000000 < 1000000 := Nat.mod_lt _ (by decide)
  have hsplit := Nat.div_add_mod record.microseconds 1000000
  generalize record.microseconds / 1000000 = seconds at hseconds hsplit ⊢
  generalize record.microseconds % 1000000 = fraction at hfraction hsplit ⊢
  rw [← hsplit]
  have hword : ∀ value, value < 2 ^ 32 → (UInt32.ofNat value).toUInt64.toNat = value := by
    intro value hvalue
    rw [UInt32.toNat_toUInt64, UInt32.toNat_ofNat', Nat.mod_eq_of_lt hvalue]
  cases nanoseconds with
  | false =>
      simp only [Bool.false_eq_true, if_false, UInt64.toNat_add, UInt64.toNat_mul,
        UInt64.toNat_ofNat, hword seconds hseconds, hword (fraction * 1) (by omega)]
      omega
  | true =>
      simp only [if_true, UInt64.toNat_add, UInt64.toNat_mul, UInt64.toNat_ofNat,
        hword seconds hseconds, hword (fraction * 1000) (by omega)]
      omega

/-- Ticks are the time, at either resolution. -/
theorem ticks_toNanoseconds (h : record.Encodable) (resolution : TickResolution) :
    (ticksToNanoseconds (resolution.ticks record.microseconds) resolution.exponent).toNat =
      record.microseconds * 1000 := by
  have hfits := h.nanoseconds_lt
  have hmicro : ∀ ticks : UInt64, ticksToNanoseconds ticks 6 = ticks * 10 * 10 * 10 :=
    fun ticks => rfl
  have hnano : ∀ ticks : UInt64, ticksToNanoseconds ticks 9 = ticks := fun ticks => rfl
  have hthousand : (ticksToNanoseconds (.ofNat (record.microseconds * 1)) 6).toNat =
      record.microseconds * 1000 := by
    rw [hmicro]
    simp only [UInt64.toNat_mul, UInt64.toNat_ofNat', UInt64.toNat_ofNat]
    omega
  cases resolution with
  | default => exact hthousand
  | microseconds => exact hthousand
  | nanoseconds =>
      show (ticksToNanoseconds (.ofNat (record.microseconds * 1000)) 9).toNat = _
      rw [hnano, UInt64.toNat_ofNat', Nat.mod_eq_of_lt hfits]

end

/-! ## Classic files -/

section
variable {data : Bytes} {swapped nanoseconds : Bool} {record : CaptureRecord}

/-- One record is read in one round. -/
theorem walk_classicRecord (hfits : record.Encodable) {scan : RecordScan}
    (h : HasAt data scan.offset (classicRecord swapped nanoseconds record)) :
    ∃ next, Walk (fun scan => scan.offset < data.length) (readRecord data swapped nanoseconds) 1
        scan next ∧
      next.offset = scan.offset + (classicRecord swapped nanoseconds record).length ∧
      next.packets.map (captured data) = scan.packets.map (captured data) ++ [record.entry] := by
  have hlength : (classicRecord swapped nanoseconds record).length = 16 + record.frame.length := by
    simp only [classicRecord, List.length_append, length_word32]
    omega
  have hinside := h.length_le (List.ne_nil_of_length_pos (by omega))
  obtain ⟨hframe, horiginal⟩ := hfits.lengths
  have hfraction := h.right
  have hcaptured := hfraction.right
  have hwire := hcaptured.right
  have hbytes := hwire.right.take
  simp only [length_word32] at hfraction hcaptured hwire hbytes
  refine ⟨_, .single (by rw [decide_eq_true_eq]; omega)
    (?_ : Returns _
      { offset := scan.offset + 16 + record.frame.length
        packets := scan.packets ++
          [{ timestampNs := (UInt32.ofNat (record.microseconds / 1000000)).toUInt64 * 1000000000 +
              (if nanoseconds then
                (UInt32.ofNat (record.microseconds % 1000000 *
                  (if nanoseconds then 1000 else 1))).toUInt64
              else
                (UInt32.ofNat (record.microseconds % 1000000 *
                  (if nanoseconds then 1000 else 1))).toUInt64 * 1000)
             offset := scan.offset + 16
             capturedLength := record.frame.length
             originalLength := record.originalLength }] }), ?_, ?_⟩
  · unfold readRecord
    refine returns_unless (by simp only [recordHeaderSize]; omega) ?_
    refine (returns_word32 h.left).bind ((returns_word32 hfraction.left).bind
      ((returns_word32 hcaptured.left).bind ((returns_word32 hwire.left).bind ?_)))
    refine returns_unless ?_ (returns_unless ?_ ?_)
    · rw [gt_iff_lt, UInt32.not_lt, UInt32.le_iff_toNat_le, hframe]
      exact hfits.frame
    · rw [hframe]
      simp only [recordHeaderSize]
      omega
    · rw [hframe, horiginal]
      exact returns_pure _
  · rw [hlength]
    exact Nat.add_assoc _ _ _
  · rw [List.map_append, List.map_singleton, captured, classic_timestamp hfits]
    show _ ++ [(_, (data.drop (scan.offset + 16)).take record.frame.length, _)] = _
    rw [show scan.offset + 16 = scan.offset + 4 + 4 + 4 + 4 by omega, hbytes]
    rfl

@[simp] theorem length_classicHeader (snaplen : UInt32) :
    (classicHeader swapped nanoseconds snaplen).length = 24 := by
  simp only [classicHeader, List.length_append, length_word16, length_word32]

/-- The magic number of a file, as it is read before its order is known. -/
theorem returns_classicMagic
    (h : HasAt data 0
      (word32 swapped (if nanoseconds then magicNanoseconds else magicMicroseconds))) :
    ∃ magic, Returns (readU32 data 0 false) magic ∧ magic ≠ blockSectionHeader ∧
      magicOrder magic = some (swapped, nanoseconds) := by
  cases swapped with
  | false =>
      have h : HasAt data 0
          (word32 false (if nanoseconds then magicNanoseconds else magicMicroseconds)) := h
      refine ⟨_, returns_word32 h, ?_⟩
      cases nanoseconds <;> decide
  | true =>
      cases nanoseconds with
      | false =>
          have h : HasAt data 0 (word32 false magicMicrosecondsSwapped) := h
          exact ⟨_, returns_word32 h, by decide⟩
      | true =>
          have h : HasAt data 0 (word32 false magicNanosecondsSwapped) := h
          exact ⟨_, returns_word32 h, by decide⟩

/-- **A classic file** is indexed with the records it encodes. -/
theorem returns_classicFile {records : List CaptureRecord} {snaplen : UInt32}
    (hfits : ∀ record ∈ records, record.Encodable)
    (hdata : data = classicFile swapped nanoseconds snaplen records) :
    ∃ capture, Returns (PcapCapture.fromBytes data) capture ∧ capture.bytes = data ∧
      capture.packets.map (captured data) = records.map CaptureRecord.entry := by
  have hfile : HasAt data 0 (classicHeader swapped nanoseconds snaplen ++
      records.flatMap (classicRecord swapped nanoseconds)) := by
    rw [hdata]
    exact List.prefix_rfl
  have hlength := congrArg List.length hdata
  rw [classicFile, List.length_append, length_classicHeader] at hlength
  -- The header.
  have hheader := hfile.left
  obtain ⟨magic, hmagic, hclassic, horder⟩ := returns_classicMagic hheader.left
  have hsnaplen := hheader.right.right.right.right.right
  have hlinkType := hsnaplen.right
  simp only [length_word16, length_word32] at hsnaplen hlinkType
  -- The records.
  have hrecords := hfile.right
  rw [length_classicHeader] at hrecords
  obtain ⟨rounds, last, hwalk, hrounds, hend, hpackets⟩ :=
    walk_pieces (fun offset (scan : RecordScan) => scan.offset = offset)
      (fun scan => scan.packets.map (captured data)) (fun record => [CaptureRecord.entry record])
      (fun record hrecord offset scan hstands hat => by
        subst hstands
        obtain ⟨next, hround, hoffset, hfound⟩ := walk_classicRecord (hfits record hrecord) hat
        refine ⟨1, next, hround, ?_, hoffset, hfound⟩
        simp only [classicRecord, List.length_append, length_word32]
        omega)
      hrecords (show ({} : RecordScan).offset = 0 + 24 from rfl)
  have hstop : (fun scan : RecordScan => decide (scan.offset < data.length)) last = false := by
    rw [decide_eq_false_iff_not, hend]
    omega
  refine ⟨{ bytes := data, packets := last.packets, snaplen, nanosecondResolution := nanoseconds },
    ?_, rfl, hpackets.trans List.map_eq_flatMap.symm⟩
  unfold PcapCapture.fromBytes
  refine returns_unless (by omega) (hmagic.bind ?_)
  rw [if_neg hclassic]
  refine returns_unless (by simp only [fileHeaderSize]; omega) ?_
  rw [horder]
  unfold PcapCapture.fromClassicBytes
  refine (returns_word32 hsnaplen.left).bind ((returns_word32 hlinkType).bind ?_)
  refine returns_unless (fun hne => hne rfl) ?_
  exact (hwalk.returns_loop hstop (by omega)).bind (returns_pure _)

end

/-! ## pcapng files -/

namespace CaptureSection

@[simp] theorem length_headerBody (swapped : Bool) : (headerBody swapped).length = 16 := by
  simp only [headerBody, List.length_append, length_word16, length_word32]

theorem length_options (swapped : Bool) (resolution : TickResolution) :
    (resolution.options swapped).length = if resolution = .default then 0 else 12 := by
  unfold TickResolution.options
  split_ifs
  · rfl
  · simp only [List.length_append, length_resolutionOption, length_word16]

theorem length_interfaceBody (part : CaptureSection) :
    part.interfaceBody.length = 8 + (part.resolution.options part.swapped).length := by
  simp only [interfaceBody, List.length_append, length_word16, length_word32]
  omega

theorem length_packetBody (part : CaptureSection) (record : CaptureRecord) :
    (part.packetBody record).length = 20 + (record.frame.length + 3) / 4 * 4 := by
  simp only [packetBody, List.length_append, length_word32, length_padding]
  omega

/-- Where the walk stands inside a section, behind its interface. -/
structure Inside (part : CaptureSection) (offset : Nat) (scan : BlockScan) : Prop where
  offset : scan.offset = offset
  swapped : scan.swapped = part.swapped
  resolutions : scan.interfaceResolutions = [part.resolution.exponent]

variable {data : Bytes} {part : CaptureSection} {scan : BlockScan}

/-- The walk behind the header of a section. -/
private def opened (part : CaptureSection) (scan : BlockScan) : BlockScan :=
  { scan with offset := scan.offset + 28, swapped := part.swapped, interfaceResolutions := [] }

/-- A section header sets its own order, and forgets the interfaces. -/
theorem returns_header (h : HasAt data scan.offset
      (orderedBlock part.swapped blockSectionHeader (headerBody part.swapped))) :
    Returns (readBlock data scan) (part.opened scan) := by
  have hlength := length_headerBody part.swapped
  rw [headerBody] at hlength h
  have hheader := returns_sectionHeader h (by rw [hlength]) (by rw [hlength]; decide)
  rwa [hlength] at hheader

/-- The resolution of an interface is found, or is the default. -/
theorem returns_options {options : Nat}
    (h : HasAt data options (part.resolution.options part.swapped)) :
    Returns (readTimestampResolution data options (part.resolution.options part.swapped).length
      part.swapped) part.resolution.exponent := by
  unfold readTimestampResolution
  rw [length_options]
  by_cases hdefault : part.resolution = .default
  · rw [if_pos hdefault, hdefault]
    exact (returns_loop_end rfl _).bind (returns_pure _)
  · rw [TickResolution.options, if_neg hdefault] at h
    rw [if_neg hdefault]
    have hfound : Returns (scanOption data options 12 part.swapped {})
        { resolution := some part.resolution.exponent, ended := true } :=
      returns_scanOption_resolution h.left (by decide)
    exact (Returns.loop rfl hfound (returns_loop_end rfl 12)).bind (returns_pure _)

/-- The interface is remembered with its resolution. -/
theorem returns_interface (h : HasAt data scan.offset
      (orderedBlock part.swapped blockInterfaceDescription part.interfaceBody))
    (hswapped : scan.swapped = part.swapped) (hfresh : scan.interfaceResolutions = []) :
    ∃ next, Returns (readBlock data scan) next ∧ next.packets = scan.packets ∧
      part.Inside (scan.offset + (part.interfaceBody.length + 12)) next := by
  have hlength := part.length_interfaceBody
  have hoptions := length_options part.swapped part.resolution
  have hat := h.right.right.left
  have hreserved := hat.right
  have hsnaplen := hreserved.right
  have hlist := hsnaplen.right
  simp only [length_word16, length_word32] at hat hreserved hsnaplen hlist
  have hbody : Returns (readInterface data (scan.offset + 8) part.interfaceBody.length scan)
      { scan with
        linkType := pcapLinktypeEthernet
        snaplen := max scan.snaplen part.snaplen
        interfaceResolutions := scan.interfaceResolutions ++ [part.resolution.exponent]
        nanosecondResolution := scan.nanosecondResolution ||
          (part.resolution.exponent &&& 0x80 = 0 && defaultResolution < part.resolution.exponent) } := by
    unfold readInterface
    rw [hswapped]
    refine returns_unless (by omega) ((returns_word16 hat.left).bind ?_)
    refine returns_unless (by decide) ((returns_word32 hsnaplen.left).bind ?_)
    rw [show part.interfaceBody.length - 8 =
      (part.resolution.options part.swapped).length by omega]
    refine (returns_options hlist).bind ?_
    rw [← hswapped]
    exact returns_pure _
  have haligned : part.interfaceBody.length % 4 = 0 ∧ part.interfaceBody.length ≤ 20 := by
    rw [hlength, hoptions]
    split_ifs <;> decide
  have htype : Returns (readU32 data scan.offset scan.swapped) blockInterfaceDescription := by
    rw [hswapped]
    exact returns_word32 h.left
  refine ⟨_, returns_orderedBlock h htype haligned.1 (by omega) (returns_pure scan)
    ⟨rfl, hswapped⟩ hbody ⟨rfl, hswapped⟩, rfl, ⟨rfl, hswapped, ?_⟩⟩
  show scan.interfaceResolutions ++ [part.resolution.exponent] = _
  rw [hfresh, List.nil_append]

/-- **One enhanced packet** puts its record into the index. -/
theorem returns_packet {record : CaptureRecord} (hfits : record.Encodable) {offset : Nat}
    (h : HasAt data offset
      (orderedBlock part.swapped blockEnhancedPacket (part.packetBody record)))
    (hscan : part.Inside offset scan) :
    ∃ next, Returns (readBlock data scan) next ∧
      part.Inside (offset + ((part.packetBody record).length + 12)) next ∧
      next.packets.map (captured data) = scan.packets.map (captured data) ++ [record.entry] := by
  obtain ⟨rfl, hswapped, hresolutions⟩ := hscan
  obtain ⟨hframe, horiginal⟩ := hfits.lengths
  have hshort := hfits.frame
  have hlength := part.length_packetBody record
  have hat := h.right.right.left
  have hhigh := hat.right
  have hlow := hhigh.right
  have hcaptured := hlow.right
  have hwire := hcaptured.right
  have hbytes := hwire.right.left.take
  simp only [length_word32] at hat hhigh hlow hcaptured hwire hbytes
  have hread : Returns (readEnhancedPacket data (scan.offset + 8) (part.packetBody record).length
      scan)
      { scan with
        packets := scan.packets ++
          [{ timestampNs := ticksToNanoseconds (part.resolution.ticks record.microseconds)
              part.resolution.exponent
             offset := scan.offset + 8 + 20
             capturedLength := record.frame.length
             originalLength := record.originalLength }] } := by
    unfold readEnhancedPacket
    rw [hswapped]
    refine returns_unless (by omega) ?_
    refine (returns_word32 hat.left).bind ((returns_word32 hhigh.left).bind
      ((returns_word32 hlow.left).bind ((returns_word32 hcaptured.left).bind
        ((returns_word32 hwire.left).bind ?_))))
    refine returns_unless ?_ ?_
    · rw [gt_iff_lt, UInt32.not_lt, UInt32.le_iff_toNat_le, hframe]
      exact hshort
    · have hfirst : scan.interfaceResolutions[(0 : UInt32).toNat]? =
          some part.resolution.exponent := by
        rw [hresolutions]
        rfl
      simp only [hfirst, hframe, horiginal, join64]
      rw [← hswapped]
      exact returns_unless (by omega) (returns_pure _)
  have htype : Returns (readU32 data scan.offset scan.swapped) blockEnhancedPacket := by
    rw [hswapped]
    exact returns_word32 h.left
  refine ⟨_, returns_orderedBlock h htype (by omega) (by omega) (returns_pure scan)
    ⟨rfl, hswapped⟩ hread ⟨rfl, hswapped⟩, ⟨rfl, hswapped, hresolutions⟩, ?_⟩
  show (scan.packets ++ [_]).map (captured data) = _
  rw [List.map_append, List.map_singleton, captured, ticks_toNanoseconds hfits]
  show _ ++ [(_, (data.drop (scan.offset + 8 + 20)).take record.frame.length, _)] = _
  rw [show scan.offset + 8 + 20 = scan.offset + 4 + 4 + 4 + 4 + 4 + 4 + 4 by omega, hbytes]
  rfl

/-- **One section** is walked from its header to its end. -/
theorem walk_section (hfits : ∀ record ∈ part.records, record.Encodable)
    (h : HasAt data scan.offset part.text) :
    ∃ rounds last, Walk (fun scan => scan.offset < data.length) (readBlock data) rounds scan last ∧
      rounds ≤ part.text.length ∧ last.offset = scan.offset + part.text.length ∧
      last.packets.map (captured data) =
        scan.packets.map (captured data) ++ part.records.flatMap fun record => [record.entry] := by
  have hheader := h.left
  have hinterface := h.right.left
  have hpackets := h.right.right
  rw [length_orderedBlock, length_headerBody] at hinterface hpackets
  rw [length_orderedBlock] at hpackets
  have hinside := hinterface.length_le (List.ne_nil_of_length_pos (by
    rw [length_orderedBlock]
    omega))
  rw [length_orderedBlock] at hinside
  have hopened := returns_header hheader
  have hinterface : HasAt data (part.opened scan).offset
      (orderedBlock part.swapped blockInterfaceDescription part.interfaceBody) := hinterface
  obtain ⟨described, hdescribed, hnone, hat⟩ := returns_interface hinterface rfl rfl
  obtain ⟨rounds, last, hwalk, hrounds, hend, hentries⟩ :=
    walk_pieces part.Inside (fun scan => scan.packets.map (captured data))
      (fun record => [CaptureRecord.entry record])
      (fun record hrecord offset scan hscan hrecordAt => by
        have hroom := hrecordAt.length_le (List.ne_nil_of_length_pos (by
          rw [length_orderedBlock]
          omega))
        rw [length_orderedBlock] at hroom
        obtain ⟨next, hread, hnext, hfound⟩ := returns_packet (hfits record hrecord) hrecordAt hscan
        have htest : decide (scan.offset < data.length) = true := by
          rw [decide_eq_true_eq, hscan.offset]
          omega
        have hround : Walk (fun scan => scan.offset < data.length) (readBlock data) 1 scan next :=
          .single htest hread
        rw [length_orderedBlock]
        exact ⟨1, next, hround, by omega, hnext, hfound⟩)
      hpackets hat
  have hlength : part.text.length = 28 + (part.interfaceBody.length + 12) +
      (part.records.flatMap fun record =>
        orderedBlock part.swapped blockEnhancedPacket (part.packetBody record)).length := by
    rw [text, List.length_append, List.length_append, length_orderedBlock, length_orderedBlock,
      length_headerBody]
    omega
  refine ⟨_, last, .round ?_ hopened (.round ?_ hdescribed hwalk), ?_, ?_, ?_⟩
  · rw [decide_eq_true_eq]
    omega
  · rw [decide_eq_true_eq]
    show scan.offset + 28 < data.length
    omega
  · omega
  · rw [hend.offset]
    omega
  · rw [hentries, hnone]
    rfl

end CaptureSection

/-- **A pcapng file** is indexed with the records its sections encode. -/
theorem returns_pcapngFile {data : Bytes} {first : CaptureSection} {others : List CaptureSection}
    (hfits : ∀ part ∈ first :: others, ∀ record ∈ part.records, record.Encodable)
    (hdata : data = (first :: others).flatMap CaptureSection.text) :
    ∃ capture, Returns (PcapCapture.fromBytes data) capture ∧ capture.bytes = data ∧
      capture.packets.map (captured data) =
        ((first :: others).flatMap CaptureSection.records).map CaptureRecord.entry := by
  have hfile : HasAt data 0 ((first :: others).flatMap CaptureSection.text) := by
    rw [hdata]
    exact List.prefix_rfl
  obtain ⟨rounds, last, hwalk, hrounds, hend, hentries⟩ :=
    walk_pieces (fun offset (scan : BlockScan) => scan.offset = offset)
      (fun scan => scan.packets.map (captured data))
      (fun part => part.records.flatMap fun record => [record.entry])
      (fun part hpart offset scan hscan hat => by
        subst hscan
        exact CaptureSection.walk_section (hfits part hpart) hat)
      hfile (show ({} : BlockScan).offset = 0 from rfl)
  rw [← hdata] at hrounds hend
  have hstop : (fun scan : BlockScan => decide (scan.offset < data.length)) last = false := by
    rw [decide_eq_false_iff_not, hend]
    omega
  have hmagic : Returns (readU32 data 0 false) blockSectionHeader := by
    rw [List.flatMap_cons] at hfile
    exact returns_headerType false hfile.left.left.left
  have hlong : 4 ≤ data.length := by
    have hinside := hfile.length_le (List.ne_nil_of_length_pos (by
      rw [List.flatMap_cons, CaptureSection.text, List.length_append, List.length_append,
        length_orderedBlock]
      omega))
    rw [List.flatMap_cons, CaptureSection.text, List.length_append, List.length_append,
      length_orderedBlock] at hinside
    omega
  refine ⟨{ bytes := data, packets := last.packets, linkType := last.linkType,
            snaplen := if last.snaplen = 0 then pcapMaximumSnaplen else last.snaplen,
            nanosecondResolution := last.nanosecondResolution, pcapng := true },
    ?_, rfl, ?_⟩
  · unfold PcapCapture.fromBytes
    refine returns_unless (by omega) (hmagic.bind ?_)
    rw [if_pos rfl]
    exact (hwalk.returns_loop hstop (by omega)).bind (returns_pure _)
  · rw [hentries, List.map_flatMap]
    exact congrArg (List.flatMap · _) (funext fun part => List.map_eq_flatMap.symm)

/-! ## Any format -/

/-- **The format of a capture is immaterial.** Whatever file encodes records that
the formats have room for, the reader accepts it, and its packets are the records,
in order: their times in nanoseconds, their bytes and their original lengths. -/
theorem capture_format_immaterial {records : List CaptureRecord} {data : Bytes}
    (hencodes : Encodes records data)
    (hfits : ∀ record ∈ records, record.microseconds / 1000000 < 2 ^ 32 ∧
      record.frame.length ≤ 262144 ∧ record.originalLength < 2 ^ 32) :
    ∃ capture, (PcapCapture.fromBytes data).run = some (.ok capture) ∧
      (capture.packets.map fun packet =>
          (packet.timestampNs.toNat, capture.frame packet, packet.originalLength)) =
        records.map fun record =>
          (record.microseconds * 1000, record.frame, record.originalLength) := by
  have hencodable : ∀ record ∈ records, record.Encodable := fun record hrecord =>
    ⟨(hfits record hrecord).1, (hfits record hrecord).2.1, (hfits record hrecord).2.2⟩
  cases hencodes with
  | classic swapped nanoseconds snaplen records =>
      obtain ⟨capture, hread, hbytes, hpackets⟩ := returns_classicFile hencodable rfl
      rw [← hbytes] at hpackets
      exact ⟨capture, hread, hpackets⟩
  | pcapng first others =>
      obtain ⟨capture, hread, hbytes, hpackets⟩ := returns_pcapngFile
        (fun part hpart record hrecord =>
          hencodable record (List.mem_flatMap.mpr ⟨part, hpart, hrecord⟩)) rfl
      rw [← hbytes] at hpackets
      exact ⟨capture, hread, hpackets⟩

/-- Two records, in two sections of different orders and resolutions. -/
theorem capture_format_immaterial_twoSections :
    ∃ capture,
      (PcapCapture.fromBytes
        ([({ swapped := true, resolution := .nanoseconds, snaplen := 0,
             records := [{ microseconds := 1500000, frame := [1, 2, 3], originalLength := 60 }] } :
             CaptureSection),
          { swapped := false, resolution := .default, snaplen := 65535,
            records := [{ microseconds := 7, frame := [9], originalLength := 1 }] }].flatMap
          CaptureSection.text)).run = some (.ok capture) ∧
      (capture.packets.map fun packet =>
          (packet.timestampNs.toNat, capture.frame packet, packet.originalLength)) =
        [(1500000000, [1, 2, 3], 60), (7000, [9], 1)] :=
  capture_format_immaterial (.pcapng _ _) (by decide)

end WireLab
