import WireLab.Model.Pcap

/-!
# The capture reader is safe on every file

Whatever bytes a file holds, the reader ends, reads nothing outside them, and
indexes packets that lie inside the file, one behind the other
(`capture_reader_safe`). Every step is shown safe where the checks before it
passed: a position that is read was compared with the length of the file, and
each block or record moves the walk on.
-/

namespace WireLab

open Base Base.Checked Pcap

/-- Packets that lie one behind the other below a position, none of them longer
than a capture allows. -/
structure Indexed (limit : Nat) (packets : List PcapPacket) : Prop where
  within : ∀ packet ∈ packets, packet.offset + packet.capturedLength ≤ limit
  bounded : ∀ packet ∈ packets, packet.capturedLength ≤ pcapMaximumSnaplen.toNat
  ordered : packets.Pairwise fun earlier later =>
    earlier.offset < later.offset ∧ earlier.offset + earlier.capturedLength ≤ later.offset

theorem indexed_nil (limit : Nat) : Indexed limit [] := ⟨by simp, by simp, .nil⟩

/-- A walk that moves on keeps what it has indexed. -/
theorem Indexed.mono {limit further : Nat} {packets : List PcapPacket} (h : Indexed limit packets)
    (hle : limit ≤ further) : Indexed further packets :=
  ⟨fun packet hpacket => (h.within packet hpacket).trans hle, h.bounded, h.ordered⟩

/-- A packet behind the others is indexed behind them. -/
theorem Indexed.push {limit further : Nat} {packets : List PcapPacket} {packet : PcapPacket}
    (h : Indexed limit packets) (hbehind : limit < packet.offset)
    (hwithin : packet.offset + packet.capturedLength ≤ further)
    (hbounded : packet.capturedLength ≤ pcapMaximumSnaplen.toNat) :
    Indexed further (packets ++ [packet]) where
  within other hother := by
    rcases List.mem_append.mp hother with hold | hnew
    · have := h.within other hold
      omega
    · rw [List.mem_singleton.mp hnew]
      exact hwithin
  bounded other hother := by
    rcases List.mem_append.mp hother with hold | hnew
    · exact h.bounded other hold
    · rw [List.mem_singleton.mp hnew]
      exact hbounded
  ordered := by
    refine List.pairwise_append.mpr ⟨h.ordered, List.pairwise_singleton _ _, ?_⟩
    intro earlier hearlier later hlater
    have hend := h.within earlier hearlier
    rw [List.mem_singleton.mp hlater]
    exact ⟨by omega, by omega⟩

/-- An index of a file: every packet lies inside it. -/
structure Readable (data : Bytes) (capture : PcapCapture) : Prop where
  bytes : capture.bytes = data
  indexed : Indexed data.length capture.packets

/-! ## Reads -/

section
variable {data : Bytes} {offset : Nat}

theorem safe_readU32 (swapped : Bool) (h : offset + 4 ≤ data.length) :
    Safe (readU32 data offset swapped) fun _ => True := by
  unfold readU32
  refine (safe_byte (by omega)).bind fun first _ => ?_
  refine (safe_byte (by omega)).bind fun second _ => ?_
  refine (safe_byte (by omega)).bind fun third _ => ?_
  refine (safe_byte (by omega)).bind fun fourth _ => ?_
  cases swapped with
  | false => exact safe_pure trivial
  | true => exact safe_pure trivial

theorem safe_readU16 (swapped : Bool) (h : offset + 2 ≤ data.length) :
    Safe (readU16 data offset swapped) fun _ => True := by
  unfold readU16
  refine (safe_byte (by omega)).bind fun first _ => ?_
  refine (safe_byte (by omega)).bind fun second _ => ?_
  exact safe_pure trivial

end

/-! ## Interface options -/

/-- One option is read inside the list, and the scan moves on or ends. -/
private theorem safe_scanOption {data : Bytes} {options length : Nat} (swapped : Bool)
    (hinside : options + length ≤ data.length) {scan : OptionScan}
    (hroom : scan.offset + 4 ≤ length) :
    Safe (scanOption data options length swapped scan) fun next =>
      next.ended = true ∨ scan.offset < next.offset := by
  unfold scanOption
  refine (safe_readU16 swapped (by omega)).bind fun code _ => ?_
  refine (safe_readU16 swapped (by omega)).bind fun optionLength _ => ?_
  split_ifs with hend hresolution
  · exact safe_pure (.inl rfl)
  · obtain ⟨_, hlong, hfits⟩ := hresolution
    refine (safe_byte (by omega)).bind fun resolution _ => ?_
    exact safe_pure (.inl rfl)
  · refine safe_pure (.inr ?_)
    show scan.offset < scan.offset + (4 + (optionLength.toNat + 3) / 4 * 4)
    omega

private theorem safe_readTimestampResolution {data : Bytes} {options length : Nat} (swapped : Bool)
    (hinside : options + length ≤ data.length) :
    Safe (readTimestampResolution data options length swapped) fun _ => True := by
  unfold readTimestampResolution
  -- The room behind the scan falls until the scan has ended.
  refine Safe.bind (safe_loop (fun _ => True)
    (fun scan : OptionScan => if scan.ended then 0 else length - scan.offset) ?_ trivial ?_)
    fun scan _ => safe_pure trivial
  · intro scan _ htest
    simp only [Bool.and_eq_true, Bool.not_eq_true', decide_eq_true_eq] at htest
    obtain ⟨hgoing, hroom⟩ := htest
    refine (safe_scanOption swapped hinside hroom).mono fun next hnext => ⟨trivial, ?_⟩
    simp only [hgoing, Bool.false_eq_true, if_false]
    rcases hnext with hended | hfurther
    · rw [if_pos hended]
      omega
    · split
      · omega
      · omega
  · show length - 0 < length + 1
    omega

/-! ## Classic captures -/

private theorem safe_readRecord {data : Bytes} (swapped nanoseconds : Bool) {scan : RecordScan}
    (hindexed : Indexed scan.offset scan.packets) :
    Safe (readRecord data swapped nanoseconds scan) fun next =>
      Indexed next.offset next.packets ∧ scan.offset < next.offset ∧
        next.offset ≤ data.length := by
  unfold readRecord
  refine safe_unless fun hroom => ?_
  simp only [recordHeaderSize] at hroom ⊢
  refine (safe_readU32 swapped (by omega)).bind fun seconds _ => ?_
  refine (safe_readU32 swapped (by omega)).bind fun fraction _ => ?_
  refine (safe_readU32 swapped (by omega)).bind fun capturedLength _ => ?_
  refine (safe_readU32 swapped (by omega)).bind fun originalLength _ => ?_
  refine safe_unless fun hplausible => ?_
  refine safe_unless fun hfits => ?_
  have hbounded := UInt32.le_iff_toNat_le.mp (UInt32.not_lt.mp hplausible)
  refine safe_pure ⟨hindexed.push ?_ ?_ hbounded, ?_, ?_⟩
  · show scan.offset < scan.offset + 16
    omega
  · exact le_refl _
  · show scan.offset < scan.offset + 16 + capturedLength.toNat
    omega
  · show scan.offset + 16 + capturedLength.toNat ≤ data.length
    omega

/-! ## pcapng captures -/

section
variable {data : Bytes} {scan : BlockScan}

/-- A section header moves nothing. -/
private theorem safe_openSection (blockType : UInt32) :
    Safe (openSection data blockType scan) fun next =>
      next.offset = scan.offset ∧ next.packets = scan.packets := by
  unfold openSection
  split_ifs
  · have horder : Safe (readSectionOrder data scan.offset) fun _ => True := by
      unfold readSectionOrder
      refine safe_unless fun hroom => ?_
      refine (safe_readU32 false (by omega)).bind fun order _ => ?_
      split_ifs
      · exact safe_pure trivial
      · exact safe_pure trivial
      · exact safe_throw _
    exact horder.bind fun swapped _ => safe_pure ⟨rfl, rfl⟩
  · exact safe_pure ⟨rfl, rfl⟩

/-- What a block's body leaves: the walk where it was, and the packets indexed
up to the end of the body. -/
def Bodied (scan : BlockScan) (stop : Nat) (next : BlockScan) : Prop :=
  next.offset = scan.offset ∧ Indexed stop next.packets

variable {body bodyLength : Nat}

private theorem safe_readInterface (hinside : body + bodyLength ≤ data.length)
    (hindexed : Indexed scan.offset scan.packets) (hbehind : scan.offset < body) :
    Safe (readInterface data body bodyLength scan) (Bodied scan (body + bodyLength)) := by
  unfold readInterface
  refine safe_unless fun hroom => ?_
  refine (safe_readU16 _ (by omega)).bind fun linkType _ => ?_
  refine safe_unless fun hethernet => ?_
  refine (safe_readU32 _ (by omega)).bind fun snaplen _ => ?_
  refine (safe_readTimestampResolution _ (by omega)).bind fun resolution _ => ?_
  exact safe_pure ⟨rfl, hindexed.mono (by omega)⟩

private theorem safe_readEnhancedPacket (hinside : body + bodyLength ≤ data.length)
    (hindexed : Indexed scan.offset scan.packets) (hbehind : scan.offset < body) :
    Safe (readEnhancedPacket data body bodyLength scan) (Bodied scan (body + bodyLength)) := by
  unfold readEnhancedPacket
  refine safe_unless fun hroom => ?_
  refine (safe_readU32 _ (by omega)).bind fun interfaceId _ => ?_
  refine (safe_readU32 _ (by omega)).bind fun high _ => ?_
  refine (safe_readU32 _ (by omega)).bind fun low _ => ?_
  refine (safe_readU32 _ (by omega)).bind fun capturedLength _ => ?_
  refine (safe_readU32 _ (by omega)).bind fun originalLength _ => ?_
  refine safe_unless fun hplausible => ?_
  have hbounded := UInt32.le_iff_toNat_le.mp (UInt32.not_lt.mp hplausible)
  split
  · exact safe_throw _
  · refine safe_unless fun hfits => ?_
    refine safe_pure ⟨rfl, hindexed.push ?_ ?_ hbounded⟩
    · show scan.offset < body + 20
      omega
    · show body + 20 + capturedLength.toNat ≤ body + bodyLength
      omega

private theorem safe_readSimplePacket (hinside : body + bodyLength ≤ data.length)
    (hindexed : Indexed scan.offset scan.packets) (hbehind : scan.offset < body) :
    Safe (readSimplePacket data body bodyLength scan) (Bodied scan (body + bodyLength)) := by
  unfold readSimplePacket
  refine safe_unless fun hroom => ?_
  rw [not_or] at hroom
  refine (safe_readU32 _ (by omega)).bind fun originalLength _ => ?_
  generalize (if scan.snaplen = 0 then originalLength else min originalLength scan.snaplen) =
    capturedLength
  refine safe_unless fun hplausible => ?_
  have hbounded := UInt32.le_iff_toNat_le.mp (UInt32.not_lt.mp hplausible)
  refine safe_unless fun hfits => ?_
  refine safe_pure ⟨rfl, hindexed.push ?_ ?_ hbounded⟩
  · show scan.offset < body + 4
    omega
  · show body + 4 + capturedLength.toNat ≤ body + bodyLength
    omega

private theorem safe_readBody (blockType : UInt32) (hinside : body + bodyLength ≤ data.length)
    (hindexed : Indexed scan.offset scan.packets) (hbehind : scan.offset < body) :
    Safe (readBody data blockType body bodyLength scan) (Bodied scan (body + bodyLength)) := by
  unfold readBody
  split_ifs
  · exact safe_readInterface hinside hindexed hbehind
  · exact safe_readEnhancedPacket hinside hindexed hbehind
  · exact safe_readSimplePacket hinside hindexed hbehind
  · exact safe_pure ⟨rfl, hindexed.mono (by omega)⟩

/-- **One block** is read inside the file and moves the walk on. -/
private theorem safe_readBlock (hindexed : Indexed scan.offset scan.packets) :
    Safe (readBlock data scan) fun next =>
      Indexed next.offset next.packets ∧ scan.offset < next.offset ∧
        next.offset ≤ data.length := by
  unfold readBlock
  refine safe_unless fun hroom => ?_
  simp only [blockMinimumSize] at hroom ⊢
  refine (safe_readU32 _ (by omega)).bind fun blockType _ => ?_
  refine (safe_openSection blockType).bind fun opened ⟨hoffset, hpackets⟩ => ?_
  refine (safe_readU32 _ (by omega)).bind fun blockLength _ => ?_
  refine safe_unless fun hlength => ?_
  rw [not_or, not_or] at hlength
  rw [← hoffset, ← hpackets] at hindexed
  refine (safe_readBody blockType (by omega) hindexed (by omega)).bind fun bodied hbodied => ?_
  obtain ⟨hsame, hindexed'⟩ := hbodied
  refine (safe_readU32 _ (by omega)).bind fun trailer _ => ?_
  refine safe_unless fun hagrees => ?_
  refine safe_pure ⟨hindexed'.mono ?_, ?_, ?_⟩
  · show _ ≤ bodied.offset + blockLength.toNat
    omega
  · show scan.offset < bodied.offset + blockLength.toNat
    omega
  · show bodied.offset + blockLength.toNat ≤ data.length
    omega

end

/-! ## Whole files -/

/-- A walk over a file: its turns move on inside the file, and index what they
pass. -/
private theorem safe_walk {σ : Type} {data : Bytes} (offset : σ → Nat)
    (packets : σ → List PcapPacket) {body : σ → Checked PcapError σ}
    (hbody : ∀ scan, Indexed (offset scan) (packets scan) →
      Safe (body scan) fun next => Indexed (offset next) (packets next) ∧
        offset scan < offset next ∧ offset next ≤ data.length)
    {start : σ} (hstart : Indexed (offset start) (packets start))
    (hwithin : offset start ≤ data.length) :
    Safe (loop (fun scan => offset scan < data.length) body (data.length + 1) start) fun last =>
      Indexed data.length (packets last) := by
  refine (safe_loop (fun scan => Indexed (offset scan) (packets scan) ∧ offset scan ≤ data.length)
    (fun scan => data.length - offset scan) ?_ ⟨hstart, hwithin⟩ ?_).mono ?_
  · rintro scan ⟨hindexed, _⟩ htest
    rw [decide_eq_true_eq] at htest
    refine (hbody scan hindexed).mono fun next ⟨hnext, hfurther, hinside⟩ => ?_
    exact ⟨⟨hnext, hinside⟩, by omega⟩
  · omega
  · rintro last ⟨⟨hindexed, hinside⟩, _⟩
    exact hindexed.mono hinside

private theorem safe_fromPcapngBytes (data : Bytes) :
    Safe (PcapCapture.fromPcapngBytes data) (Readable data) := by
  unfold PcapCapture.fromPcapngBytes
  refine (safe_walk BlockScan.offset BlockScan.packets (fun _ => safe_readBlock)
    (indexed_nil 0) (Nat.zero_le _)).bind fun scan hindexed => ?_
  exact safe_pure ⟨rfl, hindexed⟩

private theorem safe_fromClassicBytes {data : Bytes} (swapped nanoseconds : Bool)
    (hheader : fileHeaderSize ≤ data.length) :
    Safe (PcapCapture.fromClassicBytes data swapped nanoseconds) (Readable data) := by
  unfold PcapCapture.fromClassicBytes
  have hlong : 24 ≤ data.length := hheader
  refine (safe_readU32 swapped (by omega)).bind fun snaplen _ => ?_
  refine (safe_readU32 swapped (by omega)).bind fun linkType _ => ?_
  refine safe_unless fun hethernet => ?_
  refine (safe_walk RecordScan.offset RecordScan.packets
    (fun _ => safe_readRecord swapped nanoseconds) (indexed_nil _) hheader).bind
    fun scan hindexed => ?_
  exact safe_pure ⟨rfl, hindexed⟩

/-- **The capture reader is safe on every file.** For every byte string it ends
without reading a byte outside the string, and when it accepts, the packets lie
inside the string, one behind the other, none longer than a capture allows. -/
theorem capture_reader_safe (data : Bytes) :
    Safe (PcapCapture.fromBytes data) fun capture =>
      (∀ packet ∈ capture.packets,
        packet.offset + packet.capturedLength ≤ data.length ∧
          packet.capturedLength ≤ pcapMaximumSnaplen.toNat) ∧
      capture.packets.Pairwise fun earlier later =>
        earlier.offset < later.offset ∧
          earlier.offset + earlier.capturedLength ≤ later.offset := by
  have hreadable : Safe (PcapCapture.fromBytes data) (Readable data) := by
    unfold PcapCapture.fromBytes
    refine safe_unless fun hlong => ?_
    refine (safe_readU32 false (by omega)).bind fun magic _ => ?_
    split_ifs with hsection
    · exact safe_fromPcapngBytes data
    · exact safe_throw _
    · next hheader =>
        split
        · exact safe_throw _
        · exact safe_fromClassicBytes _ _ (Nat.not_lt.mp hheader)
  refine hreadable.mono fun capture h => ⟨fun packet hpacket => ?_, h.indexed.ordered⟩
  exact ⟨h.indexed.within packet hpacket, h.indexed.bounded packet hpacket⟩

end WireLab
