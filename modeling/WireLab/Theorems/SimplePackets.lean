import WireLab.Logic.CaptureText

/-!
# Simple packets

A simple packet block says neither when its frame was captured nor how much of it:
its section's first interface does, with its snap length. The reader takes the
largest snap length the file has described so far instead, of any interface of any
section. `simple_packets_exact_iff` says for which files that is the same.
-/

namespace WireLab

open Base Base.Checked Pcap

/-! ## Files -/

/-- How much of a frame a snap length leaves; zero is no limit. -/
def snapped (snaplen originalLength : UInt32) : UInt32 :=
  if snaplen = 0 then originalLength else min originalLength snaplen

/-- The largest of some snap lengths. -/
def largestSnaplen (snaplens : List UInt32) : UInt32 := snaplens.foldl max 0

/-- What stands behind the header of a section. -/
inductive CaptureBlock
  | interface (snaplen : UInt32) (options : Bytes)
  | enhancedPacket (interfaceId : UInt32) (ticks : UInt64) (originalLength : UInt32)
      (frame options : Bytes)
  | simplePacket (originalLength : UInt32) (frame : Bytes)
  | other (blockType : UInt32) (body : Bytes)

/-- A packet as a file has it: how much was captured, how much there was on the
wire, and the bytes. -/
abbrev CapturedFrame := Nat × Nat × Bytes

namespace CaptureBlock

def blockType : CaptureBlock → UInt32
  | interface .. => blockInterfaceDescription
  | enhancedPacket .. => blockEnhancedPacket
  | simplePacket .. => blockSimplePacket
  | other blockType _ => blockType

def body (swapped : Bool) : CaptureBlock → Bytes
  | interface snaplen options =>
      word16 swapped pcapLinktypeEthernet.toUInt16 ++ (word16 swapped 0 ++
        (word32 swapped snaplen ++ options))
  | enhancedPacket interfaceId ticks originalLength frame options =>
      word32 swapped interfaceId ++ (word32 swapped (ticks >>> 32).toUInt32 ++
        (word32 swapped ticks.toUInt32 ++ (word32 swapped (.ofNat frame.length) ++
          (word32 swapped originalLength ++ (frame ++ (padding frame.length ++ options))))))
  | simplePacket originalLength frame =>
      word32 swapped originalLength ++ (frame ++ padding frame.length)
  | other _ body => body

def text (swapped : Bool) (block : CaptureBlock) : Bytes :=
  orderedBlock swapped block.blockType (block.body swapped)

def snaplen? : CaptureBlock → Option UInt32
  | interface snaplen _ => some snaplen
  | _ => none

def packets : CaptureBlock → List CapturedFrame
  | enhancedPacket _ _ originalLength frame _ | simplePacket originalLength frame =>
      [(frame.length, originalLength.toNat, frame)]
  | _ => []

/-- What a block says holds behind interfaces of these snap lengths. A simple
packet holds what the first of them leaves of its frame. -/
def Fits (snaplens : List UInt32) : CaptureBlock → Prop
  | interface .. => True
  | enhancedPacket interfaceId _ _ frame _ =>
      interfaceId.toNat < snaplens.length ∧ frame.length ≤ 262144
  | simplePacket originalLength frame =>
      frame.length ≤ 262144 ∧
        snaplens.head?.map (fun first => (snapped first originalLength).toNat) = some frame.length
  | other blockType _ =>
      blockType ∉ [blockSectionHeader, blockInterfaceDescription, blockEnhancedPacket,
        blockSimplePacket]

end CaptureBlock

/-- The snap lengths some blocks describe, in order. -/
def snaplens (blocks : List CaptureBlock) : List UInt32 := blocks.filterMap CaptureBlock.snaplen?

/-- A section: its byte order, what its header holds behind the order, and its
blocks. -/
structure FileSection where
  swapped : Bool
  preamble : Bytes
  blocks : List CaptureBlock

namespace FileSection

def headerBody (part : FileSection) : Bytes := word32 part.swapped byteOrderMagic ++ part.preamble

def text (part : FileSection) : Bytes :=
  orderedBlock part.swapped blockSectionHeader part.headerBody ++
    part.blocks.flatMap (CaptureBlock.text part.swapped)

def packets (part : FileSection) : List CapturedFrame := part.blocks.flatMap CaptureBlock.packets

/-- The header holds a version and a length, and every block says what holds where
it stands, in whole words and in a length that it can give. -/
structure WellFormed (part : FileSection) : Prop where
  header : 12 ≤ part.preamble.length ∧ part.headerBody.length % 4 = 0 ∧
    part.headerBody.length + 12 < 2 ^ 32
  blocks : ∀ before block after, part.blocks = before ++ block :: after →
    block.Fits (snaplens before) ∧ (block.body part.swapped).length % 4 = 0 ∧
      (block.body part.swapped).length + 12 < 2 ^ 32

end FileSection

/-! ## Reading piece by piece -/

section
variable {ε σ ι β : Type} {test : σ → Bool} {body : σ → Checked ε σ} {found : σ → List β}

/-- How a walk over a piece comes out: it stands behind the piece and has read as
many things as it should, or it has refused the piece. What it has read is right
where it agrees with the piece, and then it refuses nothing. -/
inductive Reading (test : σ → Bool) (body : σ → Checked ε σ) (found : σ → List β) (limit : Nat)
    (post : σ → Prop) (part : List β) (agrees : Prop) (state : σ) : Prop
  | passed {rounds : Nat} {last : σ} {read : List β} (walk : Walk test body rounds state last)
      (within : rounds ≤ limit) (post : post last) (found : found last = found state ++ read)
      (length : read.length = part.length) (exact : read = part ↔ agrees)
  | refused {rounds : Nat} (within : rounds ≤ limit) (disagrees : ¬agrees)
      (refuses : ∀ fuel, rounds < fuel → ∃ e, Throws (loop test body fuel state) e)

/-- A prefix is passed before the rest is refused. -/
theorem Walk.throws {rounds more : Nat} {state next : σ} (h : Walk test body rounds state next)
    (hrest : ∀ fuel, more < fuel → ∃ e, Throws (loop test body fuel next) e) :
    ∀ fuel, rounds + more < fuel → ∃ e, Throws (loop test body fuel state) e := by
  induction h with
  | done state =>
      intro fuel hfuel
      exact hrest fuel (by omega)
  | round htest hbody _ ih =>
      intro fuel hfuel
      obtain ⟨fuel, rfl⟩ : ∃ fewer, fuel = fewer + 1 := ⟨fuel - 1, by omega⟩
      obtain ⟨e, he⟩ := ih hrest fuel (by omega)
      refine ⟨e, ?_⟩
      rw [Checked.loop, if_pos htest, Returns.bind_eq hbody]
      exact he

section
variable {limit further : Nat} {post weaker : σ → Prop} {part : List β} {agrees right : Prop}
  {state next : σ}

theorem Reading.mono (h : Reading test body found limit post part agrees state)
    (hlimit : limit ≤ further) (hpost : ∀ last, post last → weaker last)
    (hagrees : agrees ↔ right) : Reading test body found further weaker part right state := by
  rw [← hagrees]
  cases h with
  | passed walk within last found length exact =>
      exact .passed walk (within.trans hlimit) (hpost _ last) found length exact
  | refused within disagrees refuses => exact .refused (within.trans hlimit) disagrees refuses

/-- Rounds that find nothing lead up to a piece. -/
theorem Reading.after {rounds : Nat} (h : Reading test body found limit post part agrees next)
    (hwalk : Walk test body rounds state next) (hnone : found next = found state) :
    Reading test body found (rounds + limit) post part agrees state := by
  cases h with
  | passed walk within last found length exact =>
      exact .passed (hwalk.trans walk) (Nat.add_le_add_left within _) last (by rw [found, hnone])
        length exact
  | refused within disagrees refuses =>
      exact .refused (Nat.add_le_add_left within _) disagrees (Walk.throws hwalk refuses)

end

/-- The places of a list are its first and those behind it. -/
theorem splits_cons {first : ι} {rest : List ι} {P : List ι → ι → Prop} :
    (∀ before item after, first :: rest = before ++ item :: after → P before item) ↔
      P [] first ∧
        ∀ before item after, rest = before ++ item :: after → P (first :: before) item := by
  constructor
  · intro h
    exact ⟨h [] first rest rfl, fun before item after hrest =>
      h (first :: before) item after (by rw [hrest, List.cons_append])⟩
  · rintro ⟨hfirst, hrest⟩ before item after hsplit
    cases before with
    | nil =>
        obtain ⟨rfl, -⟩ := List.cons.inj hsplit
        exact hfirst
    | cons other before =>
        rw [List.cons_append] at hsplit
        obtain ⟨rfl, htail⟩ := List.cons.inj hsplit
        exact hrest before item after htail

theorem splits_nil {P : List ι → ι → Prop} :
    ∀ before item after, [] = before ++ item :: after → P before item := by
  intro before item after hnone
  simp at hnone

/-- **Pieces that stand one behind the other** are read one by one, each behind
those before it: all is right where every piece agrees. -/
theorem read_pieces {data : Bytes} {piece : ι → Bytes} {part : ι → List β} {items : List ι}
    (Stands : Nat → List ι → σ → Prop) (Agrees : List ι → ι → Prop)
    (hitem : ∀ before item after, items = before ++ item :: after → ∀ offset state,
      Stands offset before state → HasAt data offset (piece item) →
      Reading test body found (piece item).length
        (Stands (offset + (piece item).length) (before ++ [item])) (part item) (Agrees before item)
        state)
    {before rest : List ι} (hitems : items = before ++ rest) {offset : Nat} (state : σ)
    (h : HasAt data offset (rest.flatMap piece)) (hstate : Stands offset before state) :
    Reading test body found (rest.flatMap piece).length
      (Stands (offset + (rest.flatMap piece).length) items) (rest.flatMap part)
      (∀ middle item after, rest = middle ++ item :: after → Agrees (before ++ middle) item)
      state := by
  induction rest generalizing before offset state with
  | nil =>
      rw [List.append_nil] at hitems
      rw [hitems]
      exact .passed (.done state) (le_refl 0) hstate (List.append_nil _).symm rfl
        ⟨fun _ => splits_nil, fun _ => rfl⟩
  | cons item rest ih =>
      rw [List.flatMap_cons] at h
      have hplaces := @splits_cons _ item rest fun middle item => Agrees (before ++ middle) item
      rw [List.append_nil] at hplaces
      -- either this item stops the reader, or one behind it may
      cases hitem before item rest hitems offset state hstate h.left with
      | refused hwithin hdisagrees hrefuses =>
          refine .refused ?_ (fun hall => hdisagrees (hplaces.mp hall).1) hrefuses
          rw [List.flatMap_cons, List.length_append]
          omega
      | @passed rounds next read hwalk hwithin hnext hfound hlength hexact =>
          have hitems' : items = before ++ [item] ++ rest := by
            rw [hitems, List.append_assoc, List.singleton_append]
          have hbehind := ih hitems' next h.right hnext
          simp only [List.append_assoc, List.singleton_append] at hbehind
          cases hbehind with
          | @refused more hmore hdisagrees hrefuses =>
              refine .refused ?_ (fun hall => hdisagrees (hplaces.mp hall).2)
                (Walk.throws hwalk hrefuses)
              rw [List.flatMap_cons, List.length_append]
              omega
          | @passed more last others hrest hmore hlast hall hothers hright =>
              have hboth : found last = found state ++ (read ++ others) := by
                rw [hall, hfound, List.append_assoc]
              refine .passed (hwalk.trans hrest) ?_ ?_ hboth ?_ ?_
              · rw [List.flatMap_cons, List.length_append]
                omega
              · rw [List.flatMap_cons, List.length_append, ← Nat.add_assoc]
                exact hlast
              · rw [List.flatMap_cons, List.length_append, List.length_append, hlength, hothers]
              · rw [List.flatMap_cons, hplaces, ← hexact, ← hright]
                exact ⟨fun hboth => List.append_inj hboth hlength,
                  fun ⟨hread, hothers⟩ => by rw [hread, hothers]⟩

end

/-! ## Blocks -/

/-- A packet of an index, as a file has it. -/
def indexedFrame (data : Bytes) (packet : PcapPacket) : CapturedFrame :=
  (packet.capturedLength, packet.originalLength,
    (data.drop packet.offset).take packet.capturedLength)

/-- The frames a walk has indexed. -/
def indexedFrames (data : Bytes) (scan : BlockScan) : List CapturedFrame :=
  scan.packets.map (indexedFrame data)

/-- Where the walk stands behind blocks of a section: with as many interfaces as
they describe, and with the largest snap length of the file so far. -/
structure Behind (swapped : Bool) (earlier : List UInt32) (offset : Nat)
    (before : List CaptureBlock) (scan : BlockScan) : Prop where
  offset : scan.offset = offset
  swapped : scan.swapped = swapped
  interfaces : scan.interfaceResolutions.length = (snaplens before).length
  snaplen : scan.snaplen = largestSnaplen (earlier ++ snaplens before)

/-- Cutting a simple packet to the largest snap length so far is cutting it to that
of the section's first interface. -/
def CaptureBlock.Agrees (earlier : List UInt32) (before : List CaptureBlock)
    (block : CaptureBlock) : Prop :=
  ∀ originalLength frame first, block = .simplePacket originalLength frame →
    (snaplens before).head? = some first →
    snapped (largestSnaplen (earlier ++ snaplens before)) originalLength =
      snapped first originalLength

theorem largestSnaplen_append (snaplens : List UInt32) (snaplen : UInt32) :
    largestSnaplen (snaplens ++ [snaplen]) = max (largestSnaplen snaplens) snaplen := by
  rw [largestSnaplen, List.foldl_append]
  rfl

/-- A block that describes no interface leaves the snap lengths as they are. -/
theorem snaplens_append_none {before : List CaptureBlock} {block : CaptureBlock}
    (h : block.snaplen? = none) : snaplens (before ++ [block]) = snaplens before := by
  rw [snaplens, List.filterMap_append, List.filterMap_cons_none h, List.filterMap_nil,
    List.append_nil]
  rfl

section
variable {data : Bytes} {swapped : Bool} {earlier : List UInt32} {before : List CaptureBlock}
  {block : CaptureBlock} {offset : Nat} {scan next : BlockScan}

/-- A block that stands at its place, whole and in words. -/
structure Placed (data : Bytes) (swapped : Bool) (offset : Nat) (block : CaptureBlock) : Prop where
  at_offset : HasAt data offset (block.text swapped)
  plain : block.blockType ≠ blockSectionHeader
  aligned : (block.body swapped).length % 4 = 0
  small : (block.body swapped).length + 12 < 2 ^ 32

namespace Placed

theorem length_text (swapped : Bool) (block : CaptureBlock) :
    (block.text swapped).length = (block.body swapped).length + 12 := length_orderedBlock _ _ _

theorem inside (h : Placed data swapped offset block) :
    offset + ((block.body swapped).length + 12) ≤ data.length := by
  have hinside := h.at_offset.length_le (List.ne_nil_of_length_pos (by rw [length_text]; omega))
  rwa [length_text] at hinside

theorem test (h : Placed data swapped scan.offset block) :
    decide (scan.offset < data.length) = true := by
  have hinside := h.inside
  rw [decide_eq_true_eq]
  omega

theorem returns_open (h : Placed data swapped offset block) :
    Returns (openSection data block.blockType scan) scan := by
  unfold openSection
  rw [if_neg h.plain]
  exact returns_pure scan

/-- A block whose body is read is read in one round. -/
theorem walk (h : Placed data scan.swapped scan.offset block)
    (hbody : Returns (readBody data block.blockType (scan.offset + 8)
      (block.body scan.swapped).length scan) next)
    (hnext : next.offset = scan.offset ∧ next.swapped = scan.swapped) :
    Walk (fun scan => scan.offset < data.length) (readBlock data) 1 scan
      { next with offset := scan.offset + (block.text scan.swapped).length } := by
  rw [length_text]
  exact .single h.test (returns_orderedBlock h.at_offset (returns_word32 h.at_offset.left) h.aligned
    h.small h.returns_open ⟨rfl, rfl⟩ hbody hnext)

/-- A block whose body is refused is refused. -/
theorem refuses (h : Placed data scan.swapped scan.offset block) {e : PcapError}
    (hbody : Throws (readBody data block.blockType (scan.offset + 8)
      (block.body scan.swapped).length scan) e) :
    ∀ fuel, 0 < fuel →
      ∃ e, Throws (loop (fun scan => scan.offset < data.length) (readBlock data) fuel scan) e := by
  intro fuel hfuel
  obtain ⟨fuel, rfl⟩ : ∃ fewer, fuel = fewer + 1 := ⟨fuel - 1, by omega⟩
  refine ⟨e, ?_⟩
  rw [Checked.loop, if_pos h.test, readBlock_eq h.at_offset (returns_word32 h.at_offset.left) h.aligned
    h.small h.returns_open ⟨rfl, rfl⟩]
  exact (hbody.bind _).bind _

end Placed

/-- The options of an interface say some resolution. -/
theorem exists_resolution {options length : Nat} (hinside : options + length ≤ data.length) :
    ∃ resolution, Returns (readTimestampResolution data options length swapped) resolution := by
  have hword : ∀ position, position + 2 ≤ data.length →
      ∃ value, Returns (readU16 data position swapped) value := by
    intro position hposition
    exact ⟨_, (returns_byte (List.getElem?_eq_getElem (by omega))).bind
      ((returns_byte (List.getElem?_eq_getElem (by omega))).bind (returns_pure _))⟩
  -- The room behind the scan falls until the scan has ended.
  obtain ⟨last, hlast⟩ := exists_returns_loop
    (fun scan : OptionScan => !scan.ended && scan.offset + 4 ≤ length)
    (scanOption data options length swapped)
    (fun scan => if scan.ended then 0 else length - scan.offset) (fun scan htest => by
      simp only [Bool.and_eq_true, Bool.not_eq_true', decide_eq_true_eq] at htest
      obtain ⟨hgoing, hroom⟩ := htest
      obtain ⟨code, hcode⟩ := hword (options + scan.offset) (by omega)
      obtain ⟨optionLength, hlength⟩ := hword (options + scan.offset + 2) (by omega)
      simp only [hgoing, Bool.false_eq_true, if_false]
      unfold scanOption
      rw [hcode.bind_eq, hlength.bind_eq]
      split_ifs with hend hresolution
      · exact ⟨_, returns_pure _, by simp only [if_true]; omega⟩
      · refine ⟨_, (returns_byte (List.getElem?_eq_getElem (by omega))).bind (returns_pure _), ?_⟩
        simp only [if_true]
        omega
      · refine ⟨_, returns_pure _, ?_⟩
        simp only [hgoing, Bool.false_eq_true, if_false]
        omega) {} (show length - 0 < length + 1 by omega)
  exact ⟨_, hlast.bind (returns_pure _)⟩

/-- A block that finds what it says. -/
private theorem passed_block (read : List CapturedFrame)
    (h : Placed data scan.swapped scan.offset block)
    (hbody : Returns (readBody data block.blockType (scan.offset + 8)
      (block.body scan.swapped).length scan) next)
    (hnext : next.offset = scan.offset ∧ next.swapped = scan.swapped)
    (hinterfaces : next.interfaceResolutions.length = (snaplens (before ++ [block])).length)
    (hsnaplen : next.snaplen = largestSnaplen (earlier ++ snaplens (before ++ [block])))
    (hread : indexedFrames data next = indexedFrames data scan ++ read)
    (hlength : read.length = block.packets.length)
    (hexact : read = block.packets ↔ block.Agrees earlier before) :
    Reading (fun scan => scan.offset < data.length) (readBlock data) (indexedFrames data)
      (block.text scan.swapped).length
      (Behind scan.swapped earlier (scan.offset + (block.text scan.swapped).length)
        (before ++ [block])) block.packets (block.Agrees earlier before) scan := by
  have hround : 1 ≤ (block.text scan.swapped).length := by
    rw [Placed.length_text]
    omega
  exact .passed (h.walk hbody hnext) hround ⟨rfl, hnext.2, hinterfaces, hsnaplen⟩ hread hlength
    hexact

/-- A block that finds what it says and describes no interface. -/
private theorem passed_undescribed (read : List CapturedFrame)
    (hscan : Behind scan.swapped earlier scan.offset before scan)
    (h : Placed data scan.swapped scan.offset block)
    (hbody : Returns (readBody data block.blockType (scan.offset + 8)
      (block.body scan.swapped).length scan) next)
    (hnext : next.offset = scan.offset ∧ next.swapped = scan.swapped)
    (hsame : next.interfaceResolutions = scan.interfaceResolutions ∧ next.snaplen = scan.snaplen)
    (hdescribed : snaplens (before ++ [block]) = snaplens before)
    (hread : indexedFrames data next = indexedFrames data scan ++ read)
    (hlength : read.length = block.packets.length)
    (hexact : read = block.packets ↔ block.Agrees earlier before) :
    Reading (fun scan => scan.offset < data.length) (readBlock data) (indexedFrames data)
      (block.text scan.swapped).length
      (Behind scan.swapped earlier (scan.offset + (block.text scan.swapped).length)
        (before ++ [block])) block.packets (block.Agrees earlier before) scan := by
  refine passed_block read h hbody hnext ?_ ?_ hread hlength hexact
  · rw [hdescribed, hsame.1]
    exact hscan.interfaces
  · rw [hdescribed, hsame.2]
    exact hscan.snaplen

/-- Only a simple packet can disagree. -/
theorem CaptureBlock.agrees_of_ne
    (h : ∀ originalLength frame, block ≠ .simplePacket originalLength frame) :
    block.Agrees earlier before :=
  fun originalLength frame _ hblock => absurd hblock (h originalLength frame)

private theorem read_interface {snaplen : UInt32} {options : Bytes}
    (hscan : Behind scan.swapped earlier scan.offset before scan)
    (h : Placed data scan.swapped scan.offset (.interface snaplen options)) :
    Reading (fun scan => scan.offset < data.length) (readBlock data) (indexedFrames data)
      ((CaptureBlock.interface snaplen options).text scan.swapped).length
      (Behind scan.swapped earlier
        (scan.offset + ((CaptureBlock.interface snaplen options).text scan.swapped).length)
        (before ++ [.interface snaplen options])) []
      ((CaptureBlock.interface snaplen options).Agrees earlier before) scan := by
  have hlength : ((CaptureBlock.interface snaplen options).body scan.swapped).length =
      8 + options.length := by
    simp only [CaptureBlock.body, List.length_append, length_word16, length_word32]
    omega
  have hinside := h.inside
  have hat := h.at_offset.right.right.left
  have hsnaplen := hat.right.right
  simp only [length_word16, length_word32] at hat hsnaplen
  obtain ⟨resolution, hresolution⟩ : ∃ resolution, Returns
      (readTimestampResolution data (scan.offset + 8 + 8) options.length scan.swapped) resolution :=
    exists_resolution (by omega)
  have hbody : Returns (readBody data blockInterfaceDescription (scan.offset + 8)
        ((CaptureBlock.interface snaplen options).body scan.swapped).length scan)
      { scan with
        linkType := pcapLinktypeEthernet
        snaplen := max scan.snaplen snaplen
        interfaceResolutions := scan.interfaceResolutions ++ [resolution]
        nanosecondResolution := scan.nanosecondResolution ||
          (resolution &&& 0x80 = 0 && defaultResolution < resolution) } := by
    rw [readBody, if_pos rfl, hlength]
    unfold readInterface
    refine returns_unless (by omega) ((returns_word16 hat.left).bind ?_)
    refine returns_unless (by decide) ((returns_word32 hsnaplen.left).bind ?_)
    rw [Nat.add_sub_cancel_left]
    exact hresolution.bind (returns_pure _)
  have hdescribed : snaplens (before ++ [.interface snaplen options]) =
      snaplens before ++ [snaplen] := by
    rw [snaplens, List.filterMap_append]
    rfl
  refine passed_block [] h hbody ⟨rfl, rfl⟩ ?_ ?_ (List.append_nil _).symm rfl
    ⟨fun _ => CaptureBlock.agrees_of_ne (by simp), fun _ => rfl⟩
  · rw [hdescribed, List.length_append, List.length_append, hscan.interfaces]
    rfl
  · rw [hdescribed, ← List.append_assoc, largestSnaplen_append, ← hscan.snaplen]

/-- An enhanced packet says itself how much of it was captured. -/
private theorem read_enhancedPacket {interfaceId originalLength : UInt32} {ticks : UInt64}
    {frame options : Bytes} (hscan : Behind scan.swapped earlier scan.offset before scan)
    (h : Placed data scan.swapped scan.offset
      (.enhancedPacket interfaceId ticks originalLength frame options))
    (hinterface : interfaceId.toNat < (snaplens before).length) (hframe : frame.length ≤ 262144) :
    Reading (fun scan => scan.offset < data.length) (readBlock data) (indexedFrames data)
      ((CaptureBlock.enhancedPacket interfaceId ticks originalLength frame options).text
        scan.swapped).length
      (Behind scan.swapped earlier
        (scan.offset + ((CaptureBlock.enhancedPacket interfaceId ticks originalLength frame
          options).text scan.swapped).length)
        (before ++ [.enhancedPacket interfaceId ticks originalLength frame options]))
      [(frame.length, originalLength.toNat, frame)]
      ((CaptureBlock.enhancedPacket interfaceId ticks originalLength frame options).Agrees earlier
        before) scan := by
  have hlength : ((CaptureBlock.enhancedPacket interfaceId ticks originalLength frame options).body
      scan.swapped).length = 20 + (frame.length + ((padding frame.length).length +
        options.length)) := by
    simp only [CaptureBlock.body, List.length_append, length_word32]
    omega
  have hcount : (UInt32.ofNat frame.length).toNat = frame.length := by
    rw [UInt32.toNat_ofNat', Nat.mod_eq_of_lt (by omega)]
  have hat := h.at_offset.right.right.left
  have hhigh := hat.right
  have hlow := hhigh.right
  have hcaptured := hlow.right
  have hwire := hcaptured.right
  have hbytes := hwire.right.left.take
  simp only [length_word32] at hat hhigh hlow hcaptured hwire hbytes
  rw [← hscan.interfaces] at hinterface
  have hbody : Returns (readBody data blockEnhancedPacket (scan.offset + 8)
        ((CaptureBlock.enhancedPacket interfaceId ticks originalLength frame options).body
          scan.swapped).length scan)
      { scan with
        packets := scan.packets ++
          [{ timestampNs := ticksToNanoseconds ticks scan.interfaceResolutions[interfaceId.toNat]
             offset := scan.offset + 8 + 20
             capturedLength := frame.length
             originalLength := originalLength.toNat }] } := by
    rw [readBody, if_neg (by decide), if_pos rfl, hlength]
    unfold readEnhancedPacket
    refine returns_unless (by omega) ?_
    refine (returns_word32 hat.left).bind ((returns_word32 hhigh.left).bind
      ((returns_word32 hlow.left).bind ((returns_word32 hcaptured.left).bind
        ((returns_word32 hwire.left).bind ?_))))
    refine returns_unless ?_ ?_
    · rw [gt_iff_lt, UInt32.not_lt, UInt32.le_iff_toNat_le, hcount]
      exact hframe
    · simp only [List.getElem?_eq_getElem hinterface, hcount, join64]
      exact returns_unless (by omega) (returns_pure _)
  refine passed_undescribed [(frame.length, originalLength.toNat, frame)] hscan h hbody ⟨rfl, rfl⟩
    ⟨rfl, rfl⟩ (snaplens_append_none rfl) ?_ rfl
    ⟨fun _ => CaptureBlock.agrees_of_ne (by simp), fun _ => rfl⟩
  show (scan.packets ++ [_]).map (indexedFrame data) = _
  rw [List.map_append, List.map_singleton, indexedFrame]
  show _ ++ [(_, _, (data.drop (scan.offset + 8 + 20)).take frame.length)] = _
  rw [show scan.offset + 8 + 20 = scan.offset + 4 + 4 + 4 + 4 + 4 + 4 + 4 by omega, hbytes]
  rfl

/-- What the reader makes of a simple packet's block: it cuts the packet to the largest
snap length so far. -/
private theorem readBody_simplePacket {originalLength : UInt32} {frame : Bytes}
    (hscan : Behind scan.swapped earlier scan.offset before scan)
    (h : Placed data scan.swapped scan.offset (.simplePacket originalLength frame))
    (hdescribed : snaplens before ≠ []) :
    readBody data blockSimplePacket (scan.offset + 8)
        ((CaptureBlock.simplePacket originalLength frame).body scan.swapped).length scan =
      let captured := snapped scan.snaplen originalLength
      if captured > pcapMaximumSnaplen then throw .oversizePacket
      else if frame.length + (padding frame.length).length < captured.toNat then
        throw .truncatedPacket
      else
        pure { scan with
          packets := scan.packets ++
            [{ offset := scan.offset + 8 + 4
               capturedLength := captured.toNat
               originalLength := originalLength.toNat }] } := by
  have hlength : ((CaptureBlock.simplePacket originalLength frame).body scan.swapped).length =
      4 + (frame.length + (padding frame.length).length) := by
    simp only [CaptureBlock.body, List.length_append, length_word32]
  have hat := h.at_offset.right.right.left
  simp only [length_word32] at hat
  have hinterfaces : ¬scan.interfaceResolutions.isEmpty = true := by
    rw [List.isEmpty_iff_length_eq_zero, hscan.interfaces, List.length_eq_zero_iff]
    exact hdescribed
  rw [readBody, if_neg (by decide), if_neg (by decide), if_pos rfl, hlength]
  unfold readSimplePacket
  rw [if_neg (by rw [not_or]; exact ⟨by omega, hinterfaces⟩), (returns_word32 hat.left).bind_eq,
    Nat.add_sub_cancel_left]
  rfl

/-- A simple packet that was cut to the first snap length agrees where the largest one
cuts it as well. -/
private theorem agrees_simplePacket_iff {originalLength first : UInt32} {frame : Bytes}
    (hscan : Behind scan.swapped earlier scan.offset before scan)
    (hfirst : (snaplens before).head? = some first)
    (hcut : frame.length = (snapped first originalLength).toNat) :
    (CaptureBlock.simplePacket originalLength frame).Agrees earlier before ↔
      (snapped scan.snaplen originalLength).toNat = frame.length := by
  rw [hcut, UInt32.toNat_inj, hscan.snaplen]
  constructor
  · intro hagrees
    exact hagrees originalLength frame first rfl hfirst
  · intro heq originalLength' frame' first' hblock hfirst'
    cases hblock
    rw [hfirst'] at hfirst
    cases hfirst
    exact heq

/-- **A simple packet** is cut to the largest snap length so far, where its block
has room for that; it is right where this is what the first interface leaves. -/
private theorem read_simplePacket {originalLength first : UInt32} {frame : Bytes}
    (hscan : Behind scan.swapped earlier scan.offset before scan)
    (h : Placed data scan.swapped scan.offset (.simplePacket originalLength frame))
    (hframe : frame.length ≤ 262144) (hfirst : (snaplens before).head? = some first)
    (hcut : frame.length = (snapped first originalLength).toNat) :
    Reading (fun scan => scan.offset < data.length) (readBlock data) (indexedFrames data)
      ((CaptureBlock.simplePacket originalLength frame).text scan.swapped).length
      (Behind scan.swapped earlier
        (scan.offset + ((CaptureBlock.simplePacket originalLength frame).text scan.swapped).length)
        (before ++ [.simplePacket originalLength frame]))
      [(frame.length, originalLength.toNat, frame)]
      ((CaptureBlock.simplePacket originalLength frame).Agrees earlier before) scan := by
  have hbytes := h.at_offset.right.right.left.right.left.take
  simp only [length_word32] at hbytes
  have hdescribed : snaplens before ≠ [] := by
    intro hnone
    rw [hnone] at hfirst
    cases hfirst
  have hread := readBody_simplePacket hscan h hdescribed
  have hagrees := agrees_simplePacket_iff hscan hfirst hcut
  generalize snapped scan.snaplen originalLength = captured at hread hagrees
  dsimp only at hread
  -- a packet that is right is neither too long nor longer than its block
  by_cases hoversize : captured > pcapMaximumSnaplen
  · rw [if_pos hoversize] at hread
    refine .refused (Nat.zero_le _) (fun hright => ?_) (h.refuses (hread ▸ throws_throw _))
    rw [gt_iff_lt, UInt32.lt_iff_toNat_lt, hagrees.mp hright] at hoversize
    exact absurd hoversize (not_lt.mpr hframe)
  rw [if_neg hoversize] at hread
  by_cases htruncated : frame.length + (padding frame.length).length < captured.toNat
  · rw [if_pos htruncated] at hread
    refine .refused (Nat.zero_le _) (fun hright => ?_) (h.refuses (hread ▸ throws_throw _))
    rw [hagrees.mp hright] at htruncated
    omega
  rw [if_neg htruncated] at hread
  have hbody : Returns (readBody data blockSimplePacket (scan.offset + 8)
        ((CaptureBlock.simplePacket originalLength frame).body scan.swapped).length scan)
      { scan with
        packets := scan.packets ++
          [{ offset := scan.offset + 8 + 4
             capturedLength := captured.toNat
             originalLength := originalLength.toNat }] } := by
    rw [hread]
    exact returns_pure _
  refine passed_undescribed
    [(captured.toNat, originalLength.toNat,
      (data.drop (scan.offset + 8 + 4)).take captured.toNat)]
    hscan h hbody ⟨rfl, rfl⟩ ⟨rfl, rfl⟩ (snaplens_append_none rfl) ?_ rfl ?_
  · show (scan.packets ++ [_]).map (indexedFrame data) = _
    rw [List.map_append, List.map_singleton, indexedFrame]
    rfl
  · rw [hagrees]
    constructor
    · intro hsame
      exact (Prod.mk.inj (List.cons.inj hsame).1).1
    · intro hsame
      rw [hsame, show scan.offset + 8 + 4 = scan.offset + 4 + 4 + 4 by omega, hbytes]
      rfl

/-- **One block**, behind others of its section. -/
theorem read_block (hscan : Behind swapped earlier offset before scan)
    (h : Placed data swapped offset block) (hfits : block.Fits (snaplens before)) :
    Reading (fun scan => scan.offset < data.length) (readBlock data) (indexedFrames data)
      (block.text swapped).length
      (Behind swapped earlier (offset + (block.text swapped).length) (before ++ [block]))
      block.packets (block.Agrees earlier before) scan := by
  obtain rfl := hscan.offset
  obtain rfl := hscan.swapped
  cases block with
  | interface snaplen options => exact read_interface hscan h
  | enhancedPacket interfaceId ticks originalLength frame options =>
      exact read_enhancedPacket hscan h hfits.1 hfits.2
  | simplePacket originalLength frame =>
      obtain ⟨hframe, hcut⟩ := hfits
      obtain ⟨first, hfirst, hcut⟩ := Option.map_eq_some_iff.mp hcut
      exact read_simplePacket hscan h hframe hfirst hcut.symm
  | other blockType body =>
      have hother : blockType ∉ [blockSectionHeader, blockInterfaceDescription,
        blockEnhancedPacket, blockSimplePacket] := hfits
      simp only [List.mem_cons, List.not_mem_nil, or_false, not_or] at hother
      obtain ⟨-, hinterface, henhanced, hsimple⟩ := hother
      have hbody : Returns (readBody data blockType (scan.offset + 8)
          ((CaptureBlock.other blockType body).body scan.swapped).length scan) scan := by
        rw [readBody, if_neg hinterface, if_neg henhanced, if_neg hsimple]
        exact returns_pure scan
      exact passed_undescribed [] hscan h hbody ⟨rfl, rfl⟩ ⟨rfl, rfl⟩ (snaplens_append_none rfl)
        (List.append_nil _).symm rfl ⟨fun _ => CaptureBlock.agrees_of_ne (by simp), fun _ => rfl⟩

end

/-! ## Sections and files -/

/-- The snap lengths of some sections, in order. -/
def fileSnaplens (file : List FileSection) : List UInt32 :=
  file.flatMap fun part => snaplens part.blocks

/-- Every simple packet of a section is cut as its first interface says. -/
def FileSection.Agrees (earlier : List FileSection) (part : FileSection) : Prop :=
  ∀ before block after, part.blocks = before ++ block :: after →
    block.Agrees (fileSnaplens earlier) before

section
variable {data : Bytes} {part : FileSection} {earlier file : List FileSection} {scan : BlockScan}

/-- **One section**, behind others. -/
theorem read_section (hpart : part.WellFormed) {offset : Nat} (hoffset : scan.offset = offset)
    (hsnaplen : scan.snaplen = largestSnaplen (fileSnaplens earlier))
    (h : HasAt data offset part.text) :
    Reading (fun scan => scan.offset < data.length) (readBlock data) (indexedFrames data)
      part.text.length
      (fun last => last.offset = offset + part.text.length ∧
        last.snaplen = largestSnaplen (fileSnaplens (earlier ++ [part])))
      part.packets (part.Agrees earlier) scan := by
  subst hoffset
  obtain ⟨-, haligned, hsmall⟩ := hpart.header
  have hheader := returns_sectionHeader h.left haligned hsmall
  have hinside := h.left.length_le (List.ne_nil_of_length_pos (by
    rw [length_orderedBlock]
    omega))
  have hblocks := h.right
  rw [length_orderedBlock] at hinside hblocks
  have hopened : Behind part.swapped (fileSnaplens earlier)
      (scan.offset + (part.headerBody.length + 12)) []
      { scan with
        offset := scan.offset + (part.headerBody.length + 12)
        swapped := part.swapped
        interfaceResolutions := [] } := by
    refine ⟨rfl, rfl, rfl, ?_⟩
    show scan.snaplen = largestSnaplen (fileSnaplens earlier ++ [])
    rw [List.append_nil]
    exact hsnaplen
  have hread : Reading (fun scan => scan.offset < data.length) (readBlock data) (indexedFrames data)
      _ _ (part.blocks.flatMap CaptureBlock.packets) _ _ := read_pieces (Behind part.swapped (fileSnaplens earlier))
    (fun before block => block.Agrees (fileSnaplens earlier) before)
    (fun before block after hsplit offset state hstate hat => by
      obtain ⟨hfits, haligned, hsmall⟩ := hpart.blocks before block after hsplit
      have hplain : block.blockType ≠ blockSectionHeader := by
        cases block with
        | interface snaplen options =>
            exact show blockInterfaceDescription ≠ blockSectionHeader by decide
        | enhancedPacket interfaceId ticks originalLength frame options =>
            exact show blockEnhancedPacket ≠ blockSectionHeader by decide
        | simplePacket originalLength frame =>
            exact show blockSimplePacket ≠ blockSectionHeader by decide
        | other blockType body =>
            intro hheader
            exact hfits (by rw [show blockType = blockSectionHeader from hheader]; simp)
      exact read_block hstate ⟨hat, hplain, haligned, hsmall⟩ hfits)
    (List.nil_append part.blocks).symm _ hblocks hopened
  have hround : Walk (fun scan : BlockScan => scan.offset < data.length) (readBlock data) 1 scan _ :=
    .single (by rw [decide_eq_true_eq]; omega) hheader
  have hlength : part.text.length = part.headerBody.length + 12 +
      (part.blocks.flatMap (CaptureBlock.text part.swapped)).length := by
    rw [FileSection.text, List.length_append, length_orderedBlock]
  refine (hread.after hround rfl).mono (by omega) (fun last hlast => ⟨?_, ?_⟩) Iff.rfl
  · rw [hlast.offset]
    omega
  · rw [hlast.snaplen, fileSnaplens, fileSnaplens, List.flatMap_append, List.flatMap_singleton]

/-- Where sections agree, said of their simple packets. -/
theorem agrees_iff : (∀ earlier part later, file = earlier ++ part :: later →
      part.Agrees earlier) ↔
    ∀ earlier part later, file = earlier ++ part :: later →
      ∀ before originalLength frame after,
        part.blocks = before ++ .simplePacket originalLength frame :: after →
      ∀ first, (snaplens before).head? = some first →
        snapped (largestSnaplen (fileSnaplens earlier ++ snaplens before)) originalLength =
          snapped first originalLength := by
  constructor
  · intro h earlier part later hsplit before originalLength frame after hblocks first hfirst
    exact h earlier part later hsplit before _ after hblocks originalLength frame first rfl hfirst
  · intro h earlier part later hsplit before block after hblocks originalLength frame first hblock
    rw [hblock] at hblocks
    exact h earlier part later hsplit before originalLength frame after hblocks first

/-- A file of sections is read as a pcapng file. -/
private theorem fromBytes_eq (hfile : file ≠ []) (hdata : file.flatMap FileSection.text = data) :
    PcapCapture.fromBytes data = (do
      let scan ← loop (fun scan => scan.offset < data.length) (readBlock data) (data.length + 1) {}
      pure
        { bytes := data
          packets := scan.packets
          linkType := scan.linkType
          snaplen := if scan.snaplen = 0 then pcapMaximumSnaplen else scan.snaplen
          nanosecondResolution := scan.nanosecondResolution
          pcapng := true }) := by
  obtain ⟨part, later, rfl⟩ := List.exists_cons_of_ne_nil hfile
  have hat : HasAt data 0 (part.text ++ later.flatMap FileSection.text) := by
    rw [← hdata, List.flatMap_cons]
    exact List.prefix_rfl
  have hheader := hat.left.left
  have hinside := hheader.length_le (List.ne_nil_of_length_pos (by
    rw [length_orderedBlock]
    omega))
  rw [length_orderedBlock] at hinside
  have hmagic : Returns (readU32 data 0 false) blockSectionHeader :=
    returns_headerType false hheader.left
  unfold PcapCapture.fromBytes
  rw [if_neg (by omega), hmagic.bind_eq, if_pos rfl]
  rfl

/-- **A simple packet block is read as its own section's first interface says** if and
only if the largest snap length that the file has described so far, in whatever
section, cuts its frame to the same length. For every file of well-formed sections:
the reader accepts it with exactly the stored frames where that holds of each simple
packet, and nowhere else. -/
theorem simple_packets_exact_iff (hfile : file ≠ []) (hwell : ∀ part ∈ file, part.WellFormed) :
    (∃ capture, (PcapCapture.fromBytes (file.flatMap FileSection.text)).run = some (.ok capture) ∧
      capture.packets.map (fun packet =>
          (packet.capturedLength, packet.originalLength, capture.frame packet)) =
        file.flatMap FileSection.packets) ↔
      ∀ earlier part later, file = earlier ++ part :: later →
        ∀ before originalLength frame after,
          part.blocks = before ++ .simplePacket originalLength frame :: after →
        ∀ first, (snaplens before).head? = some first →
          snapped (largestSnaplen (fileSnaplens earlier ++ snaplens before)) originalLength =
            snapped first originalLength := by
  rw [← agrees_iff]
  generalize hdata : file.flatMap FileSection.text = data
  have hat : HasAt data 0 (file.flatMap FileSection.text) := by
    rw [hdata]
    exact List.prefix_rfl
  have hread : Reading (fun scan => scan.offset < data.length) (readBlock data) (indexedFrames data)
      _ _ (file.flatMap FileSection.packets) _ _ := read_pieces
    (fun offset earlier (scan : BlockScan) =>
      scan.offset = offset ∧ scan.snaplen = largestSnaplen (fileSnaplens earlier))
    (fun earlier part => part.Agrees earlier)
    (fun earlier part later hsplit offset state hstate hat =>
      read_section (hwell part (by rw [hsplit]; simp)) hstate.1 hstate.2 hat)
    (List.nil_append file).symm {} hat ⟨rfl, rfl⟩
  rw [hdata, Nat.zero_add] at hread
  have hfrom := fromBytes_eq hfile hdata
  have hplaces : (∀ earlier part later, file = earlier ++ part :: later →
      part.Agrees ([] ++ earlier)) ↔ ∀ earlier part later, file = earlier ++ part :: later →
        part.Agrees earlier := Iff.rfl
  rw [hplaces] at hread
  cases hread with
  | refused hwithin hdisagrees hrefuses =>
      refine iff_of_false ?_ hdisagrees
      rintro ⟨capture, hcapture, -⟩
      obtain ⟨e, he⟩ := hrefuses (data.length + 1) (by omega)
      rw [hfrom] at hcapture
      exact (he.bind _).not_returns capture hcapture
  | @passed rounds last read hwalk hwithin hlast hfound hlength hexact =>
      have hstop : (fun scan : BlockScan => decide (scan.offset < data.length)) last = false := by
        rw [decide_eq_false_iff_not, hlast.1]
        omega
      have hloop := hwalk.returns_loop hstop (show rounds ≤ data.length + 1 by omega)
      rw [← hexact, hfrom, hloop.bind_eq]
      constructor
      · rintro ⟨capture, hcapture, hpackets⟩
        obtain rfl := Returns.unique (returns_pure _) hcapture
        rw [← hpackets]
        exact hfound.symm
      · intro hright
        refine ⟨_, rfl, ?_⟩
        rw [← hright]
        exact hfound

end

/-- A section that says its version and no length in front of its blocks. -/
def plainSection (swapped : Bool) (blocks : List CaptureBlock) : FileSection where
  swapped
  preamble := word16 swapped 1 ++ (word16 swapped 0 ++
    (word32 swapped 0xffffffff ++ word32 swapped 0xffffffff))
  blocks

/-- A packet of one hundred bytes, of which the first interface of its section leaves
64, whatever the second does. -/
def cutSection (swapped : Bool) (second : UInt32) : FileSection :=
  plainSection swapped
    [.interface 64 [], .interface second [], .simplePacket 100 (List.replicate 64 7)]

theorem cutSection_wellFormed (swapped : Bool) (second : UInt32) :
    (cutSection swapped second).WellFormed := by
  have hheader : 12 ≤ (plainSection swapped []).preamble.length ∧
      (plainSection swapped []).headerBody.length % 4 = 0 ∧
        (plainSection swapped []).headerBody.length + 12 < 2 ^ 32 := by
    cases swapped <;> decide
  refine ⟨hheader, ?_⟩
  simp only [cutSection, plainSection, splits_cons]
  refine ⟨⟨trivial, ?_⟩, ⟨trivial, ?_⟩, ⟨⟨?_, rfl⟩, ?_⟩, splits_nil⟩
  · cases swapped <;> decide
  · cases swapped <;> simp [CaptureBlock.body]
  · decide
  · cases swapped <;> decide

/-- Two sections of different orders whose second interfaces leave no more. -/
theorem simple_packets_exact_iff_cut :
    ∃ capture,
      (PcapCapture.fromBytes
        ([cutSection true 64, cutSection false 32].flatMap FileSection.text)).run =
        some (.ok capture) ∧
      capture.packets.map (fun packet =>
          (packet.capturedLength, packet.originalLength, capture.frame packet)) =
        [(64, 100, List.replicate 64 7), (64, 100, List.replicate 64 7)] := by
  refine (simple_packets_exact_iff (by simp) (by simp [cutSection_wellFormed])).mpr ?_
  have hagrees : ∀ swapped second earlier,
      snapped (largestSnaplen (fileSnaplens earlier ++ [64, second])) 100 = snapped 64 100 →
        (cutSection swapped second).Agrees earlier := by
    intro swapped second earlier hsame
    simp only [FileSection.Agrees, cutSection, plainSection, splits_cons]
    refine ⟨CaptureBlock.agrees_of_ne (by simp), CaptureBlock.agrees_of_ne (by simp), ?_,
      splits_nil⟩
    intro originalLength frame first hblock hfirst
    cases hblock
    cases hfirst
    exact hsame
  refine agrees_iff.mp ?_
  rw [splits_cons, splits_cons]
  exact ⟨hagrees _ _ _ (by decide), hagrees _ _ _ (by decide), splits_nil⟩

theorem cutSection_refused :
    (PcapCapture.fromBytes ([cutSection false 128].flatMap FileSection.text)).run =
      some (.error .truncatedPacket) := by
  decide +kernel

/-- **A wider second interface** makes the reader refuse a well-formed file. -/
theorem simple_packet_refused :
    ¬∀ file : List FileSection, file ≠ [] → (∀ part ∈ file, part.WellFormed) →
      ∃ capture,
        (PcapCapture.fromBytes (file.flatMap FileSection.text)).run = some (.ok capture) ∧
        capture.packets.map (fun packet =>
            (packet.capturedLength, packet.originalLength, capture.frame packet)) =
          file.flatMap FileSection.packets := by
  intro hall
  obtain ⟨capture, hcapture, -⟩ := hall [cutSection false 128] (by simp)
    (by simp [cutSection_wellFormed])
  rw [cutSection_refused] at hcapture
  cases hcapture

end WireLab
