import WireLab.Model.Pcap

/-!
# The bytes of a pcapng file

What the writer puts into a file, as a concatenation of blocks, and what the
reader makes of a piece of a file that it stands before. A word is read back from
its bytes (`returns_readU32`), an interface's resolution from its options
(`returns_resolution`), and a block from the walk before it to the walk behind it
(`returns_readBlock`).
-/

namespace WireLab

open Base Base.Checked Pcap

/-! ## Pieces of a file -/

/-- A piece stands at a position of a file. -/
def HasAt (data : Bytes) (offset : Nat) (piece : Bytes) : Prop := piece <+: data.drop offset

section
variable {data piece more : Bytes} {offset : Nat}

theorem HasAt.left (h : HasAt data offset (piece ++ more)) : HasAt data offset piece :=
  (List.prefix_append piece more).trans h

theorem HasAt.right (h : HasAt data offset (piece ++ more)) :
    HasAt data (offset + piece.length) more := by
  obtain ⟨rest, hrest⟩ := h
  refine ⟨rest, ?_⟩
  rw [← List.drop_drop, ← hrest, List.append_assoc, List.drop_left]

/-- The first byte of a piece. -/
theorem HasAt.head {b : UInt8} (h : HasAt data offset (b :: piece)) : data[offset]? = some b := by
  obtain ⟨rest, hrest⟩ := h
  rw [← List.head?_drop, ← hrest]
  rfl

/-- A piece lies inside the file. -/
theorem HasAt.length_le (h : HasAt data offset piece) (hne : piece ≠ []) :
    offset + piece.length ≤ data.length := by
  have hle : piece.length ≤ (data.drop offset).length := List.IsPrefix.length_le h
  have hpos := List.length_pos_iff.mpr hne
  rw [List.length_drop] at hle
  omega

/-- A piece is what is found at its position. -/
theorem HasAt.take (h : HasAt data offset piece) :
    (data.drop offset).take piece.length = piece :=
  (List.prefix_iff_eq_take.mp h).symm

end

/-- **Pieces that stand one behind the other** are walked one by one: each takes
the walk from before it to behind it, in no more rounds than it has bytes, and adds
its own part to what the walk has read. -/
theorem walk_pieces {ε σ ι β : Type} {test : σ → Bool} {body : σ → Checked ε σ} {data : Bytes}
    {piece : ι → Bytes} {items : List ι} (Stands : Nat → σ → Prop) (found : σ → List β)
    (part : ι → List β)
    (hitem : ∀ item ∈ items, ∀ offset state, Stands offset state →
      HasAt data offset (piece item) →
      ∃ rounds next, Walk test body rounds state next ∧ rounds ≤ (piece item).length ∧
        Stands (offset + (piece item).length) next ∧ found next = found state ++ part item)
    {offset : Nat} {state : σ} (h : HasAt data offset (items.flatMap piece))
    (hstate : Stands offset state) :
    ∃ rounds last, Walk test body rounds state last ∧ rounds ≤ (items.flatMap piece).length ∧
      Stands (offset + (items.flatMap piece).length) last ∧
      found last = found state ++ items.flatMap part := by
  induction items generalizing offset state with
  | nil => exact ⟨0, state, .done state, le_refl 0, hstate, (List.append_nil _).symm⟩
  | cons item items ih =>
      rw [List.flatMap_cons] at h
      obtain ⟨rounds, next, hwalk, hrounds, hnext, hfound⟩ :=
        hitem item (List.mem_cons_self ..) offset state hstate h.left
      obtain ⟨more, last, hrest, hmore, hlast, hall⟩ :=
        ih (fun other hother => hitem other (List.mem_cons_of_mem _ hother)) h.right hnext
      refine ⟨rounds + more, last, hwalk.trans hrest, ?_, ?_, ?_⟩
      · rw [List.flatMap_cons, List.length_append]
        omega
      · rw [List.flatMap_cons, List.length_append, ← Nat.add_assoc]
        exact hlast
      · rw [hall, hfound, List.flatMap_cons, List.append_assoc]

/-! ## Words -/

/-- A word, its low byte first. -/
def le16 (value : UInt16) : Bytes := [value.toUInt8, (value >>> 8).toUInt8]

def le32 (value : UInt32) : Bytes :=
  [value.toUInt8, (value >>> 8).toUInt8, (value >>> 16).toUInt8, (value >>> 24).toUInt8]

@[simp] theorem length_le16 (value : UInt16) : (le16 value).length = 2 := rfl
@[simp] theorem length_le32 (value : UInt32) : (le32 value).length = 4 := rfl

/-- A word in a byte order: its high byte first where the order is swapped. -/
def word16 (swapped : Bool) (value : UInt16) : Bytes :=
  if swapped then (le16 value).reverse else le16 value

def word32 (swapped : Bool) (value : UInt32) : Bytes :=
  if swapped then (le32 value).reverse else le32 value

@[simp] theorem length_word16 (swapped : Bool) (value : UInt16) :
    (word16 swapped value).length = 2 := by cases swapped <;> rfl

@[simp] theorem length_word32 (swapped : Bool) (value : UInt32) :
    (word32 swapped value).length = 4 := by cases swapped <;> rfl

/-- A word is put together from its bytes: each bit stands in one of them. -/
private theorem join16 (value : UInt16) :
    value.toUInt8.toUInt16 ||| (value >>> 8).toUInt8.toUInt16 <<< 8 = value := by
  apply UInt16.eq_of_toBitVec_eq
  apply BitVec.eq_of_getLsbD_eq
  intro i hi
  have h8 : UInt16.toBitVec 8 % 16 = 8#16 := by decide
  simp only [UInt16.toBitVec_or, UInt16.toBitVec_shiftLeft, UInt8.toBitVec_toUInt16,
    UInt16.toBitVec_toUInt8, UInt16.toBitVec_shiftRight, h8, BitVec.shiftLeft_eq',
    BitVec.ushiftRight_eq', BitVec.getLsbD_or, BitVec.getLsbD_shiftLeft, BitVec.getLsbD_setWidth,
    BitVec.getLsbD_ushiftRight]
  interval_cases i <;> simp

private theorem join32 (value : UInt32) :
    value.toUInt8.toUInt32 ||| (value >>> 8).toUInt8.toUInt32 <<< 8 |||
      (value >>> 16).toUInt8.toUInt32 <<< 16 ||| (value >>> 24).toUInt8.toUInt32 <<< 24 =
        value := by
  apply UInt32.eq_of_toBitVec_eq
  apply BitVec.eq_of_getLsbD_eq
  intro i hi
  have h8 : UInt32.toBitVec 8 % 32 = 8#32 := by decide
  have h16 : UInt32.toBitVec 16 % 32 = 16#32 := by decide
  have h24 : UInt32.toBitVec 24 % 32 = 24#32 := by decide
  simp only [UInt32.toBitVec_or, UInt32.toBitVec_shiftLeft, UInt8.toBitVec_toUInt32,
    UInt32.toBitVec_toUInt8, UInt32.toBitVec_shiftRight, h8, h16, h24, BitVec.shiftLeft_eq',
    BitVec.ushiftRight_eq', BitVec.getLsbD_or, BitVec.getLsbD_shiftLeft, BitVec.getLsbD_setWidth,
    BitVec.getLsbD_ushiftRight]
  interval_cases i <;> simp

/-- Swapping puts a word together from its bytes in reverse. -/
private theorem swap16 (value : UInt16) :
    ((value >>> 8).toUInt8.toUInt16 ||| value.toUInt8.toUInt16 <<< 8) >>> 8 |||
      ((value >>> 8).toUInt8.toUInt16 ||| value.toUInt8.toUInt16 <<< 8) <<< 8 = value := by
  apply UInt16.eq_of_toBitVec_eq
  apply BitVec.eq_of_getLsbD_eq
  intro i hi
  have h8 : UInt16.toBitVec 8 % 16 = 8#16 := by decide
  simp only [UInt16.toBitVec_or, UInt16.toBitVec_shiftLeft, UInt8.toBitVec_toUInt16,
    UInt16.toBitVec_toUInt8, UInt16.toBitVec_shiftRight, h8, BitVec.shiftLeft_eq',
    BitVec.ushiftRight_eq', BitVec.getLsbD_or, BitVec.getLsbD_shiftLeft, BitVec.getLsbD_setWidth,
    BitVec.getLsbD_ushiftRight]
  interval_cases i <;> simp

private theorem swap32 (value word : UInt32)
    (hword : word = (value >>> 24).toUInt8.toUInt32 ||| (value >>> 16).toUInt8.toUInt32 <<< 8 |||
      (value >>> 8).toUInt8.toUInt32 <<< 16 ||| value.toUInt8.toUInt32 <<< 24) :
    word >>> 24 ||| (word >>> 8 &&& (0x0000ff00 : UInt32)) |||
      (word <<< 8 &&& (0x00ff0000 : UInt32)) ||| word <<< 24 = value := by
  subst hword
  apply UInt32.eq_of_toBitVec_eq
  apply BitVec.eq_of_getLsbD_eq
  intro i hi
  have h8 : UInt32.toBitVec 8 % 32 = 8#32 := by decide
  have h16 : UInt32.toBitVec 16 % 32 = 16#32 := by decide
  have h24 : UInt32.toBitVec 24 % 32 = 24#32 := by decide
  have hlow : UInt32.toBitVec 0x0000ff00 = 0x0000ff00#32 := by decide
  have hhigh : UInt32.toBitVec 0x00ff0000 = 0x00ff0000#32 := by decide
  simp only [UInt32.toBitVec_or, UInt32.toBitVec_and, UInt32.toBitVec_shiftLeft,
    UInt8.toBitVec_toUInt32, UInt32.toBitVec_toUInt8, UInt32.toBitVec_shiftRight, h8, h16, h24,
    hlow, hhigh, BitVec.shiftLeft_eq', BitVec.ushiftRight_eq', BitVec.getLsbD_or,
    BitVec.getLsbD_and, BitVec.getLsbD_shiftLeft, BitVec.getLsbD_setWidth,
    BitVec.getLsbD_ushiftRight]
  interval_cases i <;> simp

/-- A timestamp is put together from its halves. -/
theorem join64 (value : UInt64) :
    (value >>> 32).toUInt32.toUInt64 <<< 32 ||| value.toUInt32.toUInt64 = value := by
  apply UInt64.eq_of_toBitVec_eq
  apply BitVec.eq_of_getLsbD_eq
  intro i hi
  have h32 : UInt64.toBitVec 32 % 64 = 32#64 := by decide
  simp only [UInt64.toBitVec_or, UInt64.toBitVec_shiftLeft, UInt32.toBitVec_toUInt64,
    UInt64.toBitVec_toUInt32, UInt64.toBitVec_shiftRight, h32, BitVec.shiftLeft_eq',
    BitVec.ushiftRight_eq', BitVec.getLsbD_or, BitVec.getLsbD_shiftLeft, BitVec.getLsbD_setWidth,
    BitVec.getLsbD_ushiftRight]
  interval_cases i <;> simp

section
variable {data : Bytes} {offset : Nat}

/-- What stands behind the first byte of a piece. -/
private theorem HasAt.behind {b : UInt8} {more : Bytes} (h : HasAt data offset (b :: more)) :
    HasAt data (offset + 1) more := by
  rw [← List.singleton_append] at h
  exact h.right

theorem returns_word16 {swapped : Bool} {value : UInt16}
    (h : HasAt data offset (word16 swapped value)) : Returns (readU16 data offset swapped) value := by
  unfold readU16
  cases swapped with
  | false =>
      have h : HasAt data offset (le16 value) := h
      have h₁ := HasAt.behind h
      refine (returns_byte h.head).bind ((returns_byte h₁.head).bind ?_)
      simp only [Bool.false_eq_true, if_false, join16]
      exact returns_pure value
  | true =>
      have h : HasAt data offset [(value >>> 8).toUInt8, value.toUInt8] := h
      have h₁ := HasAt.behind h
      refine (returns_byte h.head).bind ((returns_byte h₁.head).bind ?_)
      simp only [if_true, swap16]
      exact returns_pure value

theorem returns_word32 {swapped : Bool} {value : UInt32}
    (h : HasAt data offset (word32 swapped value)) : Returns (readU32 data offset swapped) value := by
  unfold readU32
  cases swapped with
  | false =>
      have h : HasAt data offset (le32 value) := h
      have h₁ := HasAt.behind h
      have h₂ := HasAt.behind h₁
      have h₃ := HasAt.behind h₂
      refine (returns_byte h.head).bind ((returns_byte h₁.head).bind
        ((returns_byte h₂.head).bind ((returns_byte h₃.head).bind ?_)))
      simp only [Bool.not_false, if_true, join32]
      exact returns_pure value
  | true =>
      have h : HasAt data offset [(value >>> 24).toUInt8, (value >>> 16).toUInt8,
        (value >>> 8).toUInt8, value.toUInt8] := h
      have h₁ := HasAt.behind h
      have h₂ := HasAt.behind h₁
      have h₃ := HasAt.behind h₂
      refine (returns_byte h.head).bind ((returns_byte h₁.head).bind
        ((returns_byte h₂.head).bind ((returns_byte h₃.head).bind ?_)))
      simp only [Bool.not_true, Bool.false_eq_true, if_false]
      rw [swap32 value _ rfl]
      exact returns_pure value

theorem returns_readU16 {value : UInt16} (h : HasAt data offset (le16 value)) :
    Returns (readU16 data offset false) value := returns_word16 h

theorem returns_readU32 {value : UInt32} (h : HasAt data offset (le32 value)) :
    Returns (readU32 data offset false) value := returns_word32 h

end

/-! ## Blocks and options -/

/-- Zeros up to the next multiple of four. -/
def padding (length : Nat) : Bytes := List.replicate ((4 - length % 4) % 4) 0

/-- An option: its code, its length, and its value, padded. -/
def option (code : UInt16) (value : Bytes) : Bytes :=
  le16 code ++ (le16 (.ofNat value.length) ++ (value ++ padding value.length))

/-- The end of a list of options. -/
def optionsEnd : Bytes := le16 optionEnd ++ le16 0

/-- A block: its type, its length, its body, and its length again. -/
def block (blockType : UInt32) (body : Bytes) : Bytes :=
  le32 blockType ++
    (le32 (.ofNat (body.length + 12)) ++ (body ++ le32 (.ofNat (body.length + 12))))

/-- The option of a resolution, in a byte order. -/
def resolutionOption (swapped : Bool) (resolution : UInt8) : Bytes :=
  word16 swapped optionTimestampResolution ++ (word16 swapped 1 ++ (resolution :: padding 1))

/-- A block in a byte order. -/
def orderedBlock (swapped : Bool) (blockType : UInt32) (body : Bytes) : Bytes :=
  word32 swapped blockType ++
    (word32 swapped (.ofNat (body.length + 12)) ++
      (body ++ word32 swapped (.ofNat (body.length + 12))))

@[simp] theorem length_padding (length : Nat) :
    (padding length).length = (4 - length % 4) % 4 := List.length_replicate

/-- What an option takes: a multiple of four. -/
theorem length_option (code : UInt16) (value : Bytes) :
    (option code value).length = 4 + (value.length + 3) / 4 * 4 := by
  simp only [option, List.length_append, length_le16, length_padding]
  omega

@[simp] theorem length_optionsEnd : optionsEnd.length = 4 := rfl

@[simp] theorem length_block (blockType : UInt32) (body : Bytes) :
    (block blockType body).length = body.length + 12 := by
  simp only [block, List.length_append, length_le32]
  omega

@[simp] theorem length_resolutionOption (swapped : Bool) (resolution : UInt8) :
    (resolutionOption swapped resolution).length = 8 := by cases swapped <;> rfl

@[simp] theorem length_orderedBlock (swapped : Bool) (blockType : UInt32) (body : Bytes) :
    (orderedBlock swapped blockType body).length = body.length + 12 := by
  simp only [orderedBlock, List.length_append, length_word32]
  omega

theorem appendU16_eq (buffer : Bytes) (value : UInt16) :
    appendU16 buffer value = buffer ++ le16 value := rfl

theorem appendU32_eq (buffer : Bytes) (value : UInt32) :
    appendU32 buffer value = buffer ++ le32 value := rfl

theorem appendPadding_eq (buffer : Bytes) (length : Nat) :
    appendPadding buffer length = buffer ++ padding length := by
  unfold appendPadding padding
  split_ifs with haligned
  · rw [Nat.mod_eq_of_lt (by omega : 4 - length % 4 < 4)]
  · have hnone : (4 - length % 4) % 4 = 0 := by omega
    rw [hnone, List.replicate_zero, List.append_nil]

theorem appendOption_eq (buffer : Bytes) (code : UInt16) (value : Bytes) :
    appendOption buffer code value = buffer ++ option code value := by
  simp only [appendOption, appendU16_eq, appendPadding_eq, option, List.append_assoc]

theorem appendOptionEnd_eq (buffer : Bytes) : appendOptionEnd buffer = buffer ++ optionsEnd := by
  simp only [appendOptionEnd, appendU16_eq, optionsEnd, List.append_assoc]

/-- Closing a block makes it one: the length is patched in its place. -/
theorem closeBlock_eq (before : Bytes) (blockType : UInt32) (body : Bytes) :
    closeBlock (before ++ (le32 blockType ++ (le32 0 ++ body))) before.length =
      before ++ block blockType body := by
  have htotal : (before ++ (le32 blockType ++ (le32 0 ++ body))).length - before.length + 4 =
      body.length + 12 := by
    simp only [List.length_append, length_le32]
    omega
  unfold closeBlock
  rw [htotal]
  generalize hlength : UInt32.ofNat (body.length + 12) = total
  simp only [appendU32_eq, block, hlength]
  simp [le32]

/-! ## Reading options -/

section
variable {data : Bytes} {options length : Nat} {scan : OptionScan}

/-- An option that does not matter is passed. -/
theorem returns_scanOption_pass {code : UInt16} {value : Bytes}
    (h : HasAt data (options + scan.offset) (option code value)) (hsmall : value.length < 65536)
    (hend : code ≠ optionEnd) (hother : code ≠ optionTimestampResolution) :
    Returns (scanOption data options length false scan)
      { scan with offset := scan.offset + (option code value).length } := by
  have hlength : (UInt16.ofNat value.length).toNat = value.length := by
    rw [UInt16.toNat_ofNat', Nat.mod_eq_of_lt hsmall]
  unfold scanOption
  refine (returns_readU16 h.left).bind ((returns_readU16 h.right.left).bind ?_)
  rw [if_neg hend, if_neg fun hres => hother hres.1, hlength, length_option]
  exact returns_pure _

/-- A resolution is found. -/
theorem returns_scanOption_resolution {swapped : Bool} {resolution : UInt8}
    (h : HasAt data (options + scan.offset) (resolutionOption swapped resolution))
    (hroom : scan.offset + 5 ≤ length) :
    Returns (scanOption data options length swapped scan)
      { scan with resolution := some resolution, ended := true } := by
  have hlength := h.right.left
  rw [length_word16] at hlength
  have hvalue := h.right.right
  rw [length_word16, length_word16] at hvalue
  unfold scanOption
  refine (returns_word16 h.left).bind ((returns_word16 hlength).bind ?_)
  rw [if_neg (by decide), if_pos ⟨rfl, le_refl 1, hroom⟩]
  exact (returns_byte hvalue.head).bind (returns_pure _)

/-- **The resolution of an interface** is found behind its name. -/
theorem returns_resolution {name : Bytes} {resolution : UInt8}
    (h : HasAt data options (option optionInterfaceName name ++
      (option optionTimestampResolution [resolution] ++ optionsEnd)))
    (hsmall : name.length < 65536)
    (hlength : (option optionInterfaceName name ++
      (option optionTimestampResolution [resolution] ++ optionsEnd)).length = length) :
    Returns (readTimestampResolution data options length false) resolution := by
  simp only [List.length_append, length_option, length_optionsEnd, List.length_singleton]
    at hlength
  have hname : (option optionInterfaceName name).length = 4 + (name.length + 3) / 4 * 4 :=
    length_option _ _
  obtain ⟨rounds, rfl⟩ : ∃ rounds, length = rounds + 1 := ⟨length - 1, by omega⟩
  -- The name is passed, the resolution ends the scan.
  have hpassed : Returns (scanOption data options (rounds + 1) false {})
      { offset := 0 + (option optionInterfaceName name).length } :=
    returns_scanOption_pass h.left hsmall (by decide) (by decide)
  have hfound : Returns (scanOption data options (rounds + 1) false
        { offset := 0 + (option optionInterfaceName name).length })
      { offset := 0 + (option optionInterfaceName name).length
        resolution := some resolution, ended := true } := by
    refine returns_scanOption_resolution ?_ ?_
    · show HasAt data (options + (0 + (option optionInterfaceName name).length)) _
      rw [Nat.zero_add]
      exact h.right.left
    · show 0 + (option optionInterfaceName name).length + 5 ≤ rounds + 1
      omega
  unfold readTimestampResolution
  refine Returns.bind (Returns.loop ?_ hpassed (Returns.loop ?_ hfound
    (returns_loop_end ?_ rounds))) (returns_pure _)
  · rw [Bool.not_false, Bool.true_and, decide_eq_true_eq]
    show 0 + 4 ≤ rounds + 1
    omega
  · rw [Bool.not_false, Bool.true_and, decide_eq_true_eq]
    show 0 + (option optionInterfaceName name).length + 4 ≤ rounds + 1
    omega
  · rfl

end

/-! ## Reading blocks -/

section
variable {data body : Bytes} {blockType : UInt32} {scan opened next : BlockScan}

/-- **One block** comes to its body: its type is read in the order the walk has
before it, the rest in the block's own, and its length again behind the body. -/
theorem readBlock_eq {swapped : Bool}
    (h : HasAt data scan.offset (orderedBlock swapped blockType body))
    (htype : Returns (readU32 data scan.offset scan.swapped) blockType)
    (haligned : body.length % 4 = 0) (hsmall : body.length + 12 < 2 ^ 32)
    (hopen : Returns (openSection data blockType scan) opened)
    (hopened : opened.offset = scan.offset ∧ opened.swapped = swapped) :
    readBlock data scan = (do
      let next ← readBody data blockType (scan.offset + 8) body.length opened
      let trailer ← readU32 data (next.offset + (body.length + 12) - 4) next.swapped
      if trailer ≠ .ofNat (body.length + 12) then throw .truncatedPacket
      else pure { next with offset := next.offset + (body.length + 12) }) := by
  obtain ⟨hopened, hopenedOrder⟩ := hopened
  have hinside : scan.offset + (body.length + 12) ≤ data.length := by
    have := h.length_le (List.ne_nil_of_length_pos (by rw [length_orderedBlock]; omega))
    rwa [length_orderedBlock] at this
  have hlength : (UInt32.ofNat (body.length + 12)).toNat = body.length + 12 := by
    rw [UInt32.toNat_ofNat', Nat.mod_eq_of_lt hsmall]
  have hheader := h.right.left
  rw [length_word32] at hheader
  unfold readBlock
  rw [if_neg (by simp only [blockMinimumSize]; omega), htype.bind_eq, hopen.bind_eq, hopened,
    hopenedOrder, (returns_word32 hheader).bind_eq, hlength,
    show body.length + 12 - blockMinimumSize = body.length from rfl,
    if_neg (by simp only [blockMinimumSize]; omega)]

/-- A block takes the walk behind it, where its body is read. -/
theorem returns_orderedBlock {swapped : Bool}
    (h : HasAt data scan.offset (orderedBlock swapped blockType body))
    (htype : Returns (readU32 data scan.offset scan.swapped) blockType)
    (haligned : body.length % 4 = 0) (hsmall : body.length + 12 < 2 ^ 32)
    (hopen : Returns (openSection data blockType scan) opened)
    (hopened : opened.offset = scan.offset ∧ opened.swapped = swapped)
    (hbody : Returns (readBody data blockType (scan.offset + 8) body.length opened) next)
    (hnext : next.offset = scan.offset ∧ next.swapped = swapped) :
    Returns (readBlock data scan) { next with offset := scan.offset + (body.length + 12) } := by
  obtain ⟨hnext, hnextOrder⟩ := hnext
  have htrailer := h.right.right.right
  rw [length_word32, length_word32] at htrailer
  rw [readBlock_eq h htype haligned hsmall hopen hopened]
  refine hbody.bind ?_
  rw [hnext, hnextOrder,
    show scan.offset + (body.length + 12) - 4 = scan.offset + 4 + 4 + body.length by omega]
  exact (returns_word32 htrailer).bind (returns_unless (fun hne => hne rfl) (returns_pure _))

/-- The type of a section header reads the same in either order. -/
theorem returns_headerType {offset : Nat} {swapped : Bool} (reading : Bool)
    (h : HasAt data offset (word32 swapped blockSectionHeader)) :
    Returns (readU32 data offset reading) blockSectionHeader := by
  have hpalindrome : word32 swapped blockSectionHeader = word32 reading blockSectionHeader := by
    cases swapped <;> cases reading <;> decide
  rw [hpalindrome] at h
  exact returns_word32 h

/-- **A section header** sets its own order, and forgets the interfaces. -/
theorem returns_sectionHeader {swapped : Bool} {preamble : Bytes}
    (h : HasAt data scan.offset
      (orderedBlock swapped blockSectionHeader (word32 swapped byteOrderMagic ++ preamble)))
    (haligned : (word32 swapped byteOrderMagic ++ preamble).length % 4 = 0)
    (hsmall : (word32 swapped byteOrderMagic ++ preamble).length + 12 < 2 ^ 32) :
    Returns (readBlock data scan)
      { scan with
        offset := scan.offset + ((word32 swapped byteOrderMagic ++ preamble).length + 12)
        swapped
        interfaceResolutions := [] } := by
  have hinside := h.length_le (List.ne_nil_of_length_pos (by rw [length_orderedBlock]; omega))
  rw [length_orderedBlock, List.length_append, length_word32] at hinside
  have hmagic := h.right.right.left.left
  rw [length_word32, length_word32] at hmagic
  have horder : Returns (readSectionOrder data scan.offset) swapped := by
    unfold readSectionOrder
    refine returns_unless (by omega) ?_
    cases swapped with
    | false =>
        refine (returns_word32 hmagic).bind ?_
        rw [if_pos rfl]
        exact returns_pure false
    | true =>
        have hmagic : HasAt data (scan.offset + 4 + 4) (word32 false byteOrderMagicSwapped) := hmagic
        refine (returns_word32 hmagic).bind ?_
        rw [if_neg (by decide), if_pos rfl]
        exact returns_pure true
  have hopen : Returns (openSection data blockSectionHeader scan)
      { scan with swapped, interfaceResolutions := [] } := horder.bind (returns_pure _)
  exact returns_orderedBlock h (returns_headerType scan.swapped h.left) haligned hsmall hopen
    ⟨rfl, rfl⟩ (returns_pure _) ⟨rfl, rfl⟩

/-- A block of a file that is not swapped. -/
theorem returns_readBlock (h : HasAt data scan.offset (block blockType body))
    (horder : scan.swapped = false) (haligned : body.length % 4 = 0)
    (hsmall : body.length + 12 < 2 ^ 32)
    (hopen : Returns (openSection data blockType scan) opened)
    (hopened : opened.offset = scan.offset ∧ opened.swapped = false)
    (hbody : Returns (readBody data blockType (scan.offset + 8) body.length opened) next)
    (hnext : next.offset = scan.offset ∧ next.swapped = false) :
    Returns (readBlock data scan) { next with offset := scan.offset + (body.length + 12) } := by
  have hordered : HasAt data scan.offset (orderedBlock false blockType body) := h
  refine returns_orderedBlock hordered ?_ haligned hsmall hopen hopened hbody hnext
  rw [horder]
  exact returns_word32 hordered.left

end

end WireLab
