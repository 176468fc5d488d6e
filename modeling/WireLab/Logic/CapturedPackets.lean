import WireLab.Model.CaptureReplay

/-!
# The packets of a capture

What holds of every capture the reader accepts, as its consumers need it: a packet lies
inside the file, is not longer than a capture allows, and has a 32-bit original length;
and a file holds fewer packets than bytes (`captured_of_returns`).
-/

namespace WireLab

open Base Base.Checked Pcap

/-- A packet as a file of so many bytes can hold it. -/
structure Captured (size : Nat) (packet : PcapPacket) : Prop where
  within : packet.offset + packet.capturedLength ≤ size
  bounded : packet.capturedLength ≤ pcapMaximumSnaplen.toNat
  wide : packet.originalLength < 2 ^ 32

/-- Where a walk over a file may stand. -/
structure Walked (size offset : Nat) (packets : List PcapPacket) : Prop where
  captured : ∀ packet ∈ packets, Captured size packet
  few : packets.length ≤ offset
  inside : offset ≤ size

section
variable {size offset further : Nat} {packets : List PcapPacket} {packet : PcapPacket}

theorem Walked.on (h : Walked size offset packets) (hle : offset ≤ further)
    (hinside : further ≤ size) : Walked size further packets :=
  ⟨h.captured, h.few.trans hle, hinside⟩

theorem Walked.push (h : Walked size offset packets) (hpacket : Captured size packet)
    (hlt : offset < further) (hinside : further ≤ size) :
    Walked size further (packets ++ [packet]) where
  captured other hother := by
    rcases List.mem_append.mp hother with hold | hnew
    · exact h.captured other hold
    · rw [List.mem_singleton.mp hnew]
      exact hpacket
  few := by
    have hfew := h.few
    rw [List.length_append, List.length_singleton]
    omega
  inside := hinside

end

/-! ## Classic captures -/

private theorem ensures_readRecord {data : Bytes} (swapped nanoseconds : Bool) (scan : RecordScan)
    (h : Walked data.length scan.offset scan.packets) :
    Ensures (readRecord data swapped nanoseconds scan) fun next =>
      Walked data.length next.offset next.packets := by
  unfold readRecord
  refine ensures_unless fun hroom => ?_
  simp only [recordHeaderSize] at hroom ⊢
  refine ensures_bind fun seconds => ensures_bind fun fraction => ?_
  refine ensures_bind fun capturedLength => ensures_bind fun originalLength => ?_
  refine ensures_unless fun hplausible => ensures_unless fun hfits => ensures_pure ?_
  have hbounded := UInt32.le_iff_toNat_le.mp (UInt32.not_lt.mp hplausible)
  refine h.push ⟨?_, hbounded, originalLength.toNat_lt⟩ ?_ ?_
  · show scan.offset + 16 + capturedLength.toNat ≤ data.length
    omega
  · show scan.offset < scan.offset + 16 + capturedLength.toNat
    omega
  · show scan.offset + 16 + capturedLength.toNat ≤ data.length
    omega

/-! ## pcapng captures -/

section
variable {data : Bytes} {scan : BlockScan} {body bodyLength stop : Nat}

private theorem ensures_openSection (blockType : UInt32) :
    Ensures (openSection data blockType scan) fun next =>
      next.offset = scan.offset ∧ next.packets = scan.packets := by
  unfold openSection
  split_ifs
  · exact ensures_bind fun swapped => ensures_pure ⟨rfl, rfl⟩
  · exact ensures_pure ⟨rfl, rfl⟩

/-- What a body that ends at `stop` leaves. -/
private def Passed (size stop : Nat) (scan next : BlockScan) : Prop :=
  next.offset = scan.offset ∧ Walked size stop next.packets

private theorem ensures_readInterface (hinside : body + bodyLength ≤ data.length)
    (h : Walked data.length scan.offset scan.packets) (hbehind : scan.offset < body) :
    Ensures (readInterface data body bodyLength scan)
      (Passed data.length (body + bodyLength) scan) := by
  unfold readInterface
  refine ensures_unless fun hroom => ensures_bind fun linkType => ?_
  refine ensures_unless fun hethernet => ensures_bind fun snaplen => ?_
  exact ensures_bind fun resolution => ensures_pure ⟨rfl, h.on (by omega) hinside⟩

private theorem ensures_readEnhancedPacket (hinside : body + bodyLength ≤ data.length)
    (h : Walked data.length scan.offset scan.packets) (hbehind : scan.offset < body) :
    Ensures (readEnhancedPacket data body bodyLength scan)
      (Passed data.length (body + bodyLength) scan) := by
  unfold readEnhancedPacket
  refine ensures_unless fun hroom => ensures_bind fun interfaceId => ?_
  refine ensures_bind fun high => ensures_bind fun low => ?_
  refine ensures_bind fun capturedLength => ensures_bind fun originalLength => ?_
  refine ensures_unless fun hplausible => ?_
  have hbounded := UInt32.le_iff_toNat_le.mp (UInt32.not_lt.mp hplausible)
  split
  · exact ensures_throw _ _
  · refine ensures_unless fun hfits => ensures_pure ⟨rfl, ?_⟩
    refine h.push ⟨?_, hbounded, originalLength.toNat_lt⟩ (by omega) hinside
    show body + 20 + capturedLength.toNat ≤ data.length
    omega

private theorem ensures_readSimplePacket (hinside : body + bodyLength ≤ data.length)
    (h : Walked data.length scan.offset scan.packets) (hbehind : scan.offset < body) :
    Ensures (readSimplePacket data body bodyLength scan)
      (Passed data.length (body + bodyLength) scan) := by
  unfold readSimplePacket
  refine ensures_unless fun hroom => ensures_bind fun originalLength => ?_
  generalize (if scan.snaplen = 0 then originalLength else min originalLength scan.snaplen) =
    capturedLength
  refine ensures_unless fun hplausible => ensures_unless fun hfits => ensures_pure ⟨rfl, ?_⟩
  have hbounded := UInt32.le_iff_toNat_le.mp (UInt32.not_lt.mp hplausible)
  refine h.push ⟨?_, hbounded, originalLength.toNat_lt⟩ (by omega) hinside
  show body + 4 + capturedLength.toNat ≤ data.length
  omega

private theorem ensures_readBody (blockType : UInt32) (hinside : body + bodyLength ≤ data.length)
    (h : Walked data.length scan.offset scan.packets) (hbehind : scan.offset < body) :
    Ensures (readBody data blockType body bodyLength scan)
      (Passed data.length (body + bodyLength) scan) := by
  unfold readBody
  split_ifs
  · exact ensures_readInterface hinside h hbehind
  · exact ensures_readEnhancedPacket hinside h hbehind
  · exact ensures_readSimplePacket hinside h hbehind
  · exact ensures_pure ⟨rfl, h.on (by omega) hinside⟩

private theorem ensures_readBlock (scan : BlockScan)
    (h : Walked data.length scan.offset scan.packets) :
    Ensures (readBlock data scan) fun next => Walked data.length next.offset next.packets := by
  unfold readBlock
  refine ensures_unless fun hroom => ensures_bind fun blockType => ?_
  refine (ensures_openSection blockType).bind fun opened ⟨hoffset, hpackets⟩ => ?_
  refine ensures_bind fun blockLength => ensures_unless fun hlength => ?_
  simp only [blockMinimumSize, not_or] at hroom hlength ⊢
  rw [← hoffset, ← hpackets] at h
  refine (ensures_readBody blockType (by omega) h (by omega)).bind fun bodied hbodied => ?_
  obtain ⟨hsame, hwalked⟩ := hbodied
  refine ensures_bind fun trailer => ensures_unless fun hagrees => ensures_pure ?_
  refine hwalked.on ?_ ?_
  · show _ ≤ bodied.offset + blockLength.toNat
    omega
  · show bodied.offset + blockLength.toNat ≤ data.length
    omega

end

/-! ## Whole files -/

/-- What the reader makes of a file. -/
structure CapturedFile (data : Bytes) (capture : PcapCapture) : Prop where
  bytes : capture.bytes = data
  captured : ∀ packet ∈ capture.packets, Captured data.length packet
  few : capture.packets.length ≤ data.length

theorem captured_of_returns {data : Bytes} {capture : PcapCapture}
    (h : Returns (PcapCapture.fromBytes data) capture) : CapturedFile data capture := by
  have hfile : Ensures (PcapCapture.fromBytes data) (CapturedFile data) := by
    unfold PcapCapture.fromBytes
    refine ensures_unless fun hlong => ensures_bind fun magic => ?_
    have hnone : Walked data.length 0 [] := ⟨by simp, Nat.le_refl 0, Nat.zero_le _⟩
    split_ifs with hsection hshort
    · unfold PcapCapture.fromPcapngBytes
      refine (ensures_loop (fun scan : BlockScan => Walked data.length scan.offset scan.packets)
        (fun scan => ensures_readBlock scan) _ hnone).bind fun scan hscan => ensures_pure ?_
      exact ⟨rfl, hscan.captured, hscan.few.trans hscan.inside⟩
    · exact ensures_throw _ _
    · split
      · exact ensures_throw _ _
      · unfold PcapCapture.fromClassicBytes
        refine ensures_bind fun snaplen => ensures_bind fun linkType => ?_
        refine ensures_unless fun hethernet => ?_
        have hheader : Walked data.length fileHeaderSize [] :=
          hnone.on (Nat.zero_le _) (Nat.not_lt.mp hshort)
        refine (ensures_loop (fun scan : RecordScan => Walked data.length scan.offset scan.packets)
          (fun scan => ensures_readRecord _ _ scan) _ hheader).bind fun scan hscan =>
            ensures_pure ?_
        exact ⟨rfl, hscan.captured, hscan.few.trans hscan.inside⟩
  exact hfile capture h

/-! ## Contents -/

/-- A packet of a capture, wherever it stands in the file. -/
structure CapturedPacket where
  timestampNs : UInt64
  frame : Bytes
  originalLength : Nat
  deriving DecidableEq

namespace PcapCapture

/-- The packet an entry of the index stands for. -/
def packetOf (capture : PcapCapture) (packet : PcapPacket) : CapturedPacket where
  timestampNs := packet.timestampNs
  frame := capture.frame packet
  originalLength := packet.originalLength

/-- What is in a capture. -/
def contents (capture : PcapCapture) : List CapturedPacket :=
  capture.packets.map capture.packetOf

end PcapCapture

/-- A packet that a capture has room for. -/
structure CapturedPacket.Fits (packet : CapturedPacket) : Prop where
  frame : packet.frame.length ≤ pcapMaximumSnaplen.toNat
  wide : packet.originalLength < 2 ^ 32

theorem CapturedFile.length_frame {data : Bytes} {capture : PcapCapture}
    (h : CapturedFile data capture) {packet : PcapPacket} (hpacket : packet ∈ capture.packets) :
    (capture.frame packet).length = packet.capturedLength := by
  have hwithin := (h.captured packet hpacket).within
  rw [PcapCapture.frame, h.bytes, List.length_take, List.length_drop]
  omega

theorem CapturedFile.fits {data : Bytes} {capture : PcapCapture} (h : CapturedFile data capture) :
    ∀ packet ∈ capture.contents, packet.Fits := by
  intro packet hpacket
  obtain ⟨entry, hentry, rfl⟩ := List.mem_map.mp hpacket
  have hcaptured := h.captured entry hentry
  refine ⟨?_, hcaptured.wide⟩
  show (capture.frame entry).length ≤ _
  rw [h.length_frame hentry]
  exact hcaptured.bounded

end WireLab
