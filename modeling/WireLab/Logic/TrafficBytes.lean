import WireLab.Base.OnesComplement
import WireLab.Model.DeviceTrafficGenerator

/-!
# The bytes of a generated frame

What the generator and the kernel write, as lists of bytes: the random payload
(`randomPayload`), the headers over its front (`ipv4Header`, `udpHeader`) and the whole
frame (`frameBytes`). Each writer has one lemma that says which bytes it lays over the
memory; the loops are judged by the rule of loops.
-/

namespace WireLab

open Base TrafficGenerator

namespace Traffic

/-! ## The random payload -/

/-- The bytes of a word, the least significant first. -/
def wordByte (value : UInt64) (i : Nat) : UInt8 := .ofNat (value.toNat >>> (8 * i))

def wordBytes (value : UInt64) : Bytes := (List.range 8).map (wordByte value)

/-- The random state after some words. -/
def stateAfter (state : UInt64) : Nat → UInt64
  | 0 => state
  | n + 1 => (splitmix64 (stateAfter state n)).2

/-- The word drawn after `n` others. -/
def randomWord (state : UInt64) (n : Nat) : UInt64 := (splitmix64 (stateAfter state n)).1

/-- The bytes of the first words. -/
def randomBytes (state : UInt64) : Nat → Bytes
  | 0 => []
  | n + 1 => randomBytes state n ++ wordBytes (randomWord state n)

/-- As many of them as fit. -/
def randomPayload (state : UInt64) (size : Nat) : Bytes :=
  (randomBytes state (size / 8 + 1)).take size

@[simp] theorem length_wordBytes (value : UInt64) : (wordBytes value).length = 8 := by
  simp [wordBytes]

@[simp] theorem length_randomBytes (state : UInt64) (n : Nat) :
    (randomBytes state n).length = 8 * n := by
  induction n with
  | zero => rfl
  | succ n ih =>
      rw [randomBytes, List.length_append, ih, length_wordBytes]
      omega

@[simp] theorem length_randomPayload (state : UInt64) (size : Nat) :
    (randomPayload state size).length = size := by
  rw [randomPayload, List.length_take, length_randomBytes]
  omega

/-- The payload is its whole words and a piece of the next one. -/
theorem randomPayload_eq (state : UInt64) {size n : Nat} (hn : 8 * n ≤ size) (hlast : size < 8 * n + 8) :
    randomPayload state size =
      randomBytes state n ++ (wordBytes (randomWord state n)).take (size - 8 * n) := by
  have hdiv : size / 8 = n := by omega
  rw [randomPayload, hdiv, randomBytes, List.take_append, length_randomBytes,
    List.take_of_length_le (by rw [length_randomBytes]; exact hn)]

private theorem take_wordBytes {value : UInt64} {k : Nat} (hk : k < 8) :
    (wordBytes value).take (k + 1) = (wordBytes value).take k ++ [wordByte value k] := by
  rw [List.take_succ_eq_append_getElem (by simpa using hk)]
  simp [wordBytes]

/-- A byte shifted down to the end of a word. -/
private theorem wordByte_of_toNat {value rest : UInt64} {k : Nat}
    (h : rest.toNat = value.toNat >>> (8 * k)) : rest.toUInt8 = wordByte value k := by
  rw [wordByte, ← h]
  exact (UInt8.ofNat_uInt64ToNat rest).symm

private theorem shifted {value rest : UInt64} {k : Nat}
    (h : rest.toNat = value.toNat >>> (8 * k)) :
    (rest >>> 8).toNat = value.toNat >>> (8 * (k + 1)) := by
  rw [UInt64.toNat_shiftRight, h, Nat.mul_succ, Nat.shiftRight_add]
  rfl

/-- A word of the payload, byte by byte. -/
private theorem writeWord_fold (writes : Writes) (payload : Nat) {index : UInt64} (value : UInt64)
    (hindex : index.toNat + 8 ≤ 2 ^ 64) {k : Nat} (hk : k ≤ 8) :
    let written := (List.range k).foldl (fun (value, writes) offset =>
      (value >>> 8, Writes.write writes (payload + (index + .ofNat offset).toNat) value.toUInt8))
      (value, writes)
    written.1.toNat = value.toNat >>> (8 * k) ∧ written.2.memory =
      writes.memory.overlay (payload + index.toNat) ((wordBytes value).take k) := by
  induction k with
  | zero =>
      refine ⟨rfl, ?_⟩
      funext address
      exact (Memory.overlay_outside (by simp only [List.take_zero, List.length_nil]; omega)).symm
  | succ k ih =>
      obtain ⟨hvalue, hmemory⟩ := ih (by omega)
      simp only [List.range_succ, List.foldl_append, List.foldl_cons, List.foldl_nil]
      refine ⟨shifted hvalue, ?_⟩
      have hoffset : (index + UInt64.ofNat k).toNat = index.toNat + k := by
        rw [UInt64.toNat_add, UInt64.toNat_ofNat', Nat.mod_eq_of_lt (by omega : k < 2 ^ 64)]
        omega
      rw [Writes.memory_write, hmemory, wordByte_of_toNat hvalue, hoffset,
        Memory.overlay_behind, take_wordBytes (by omega)]
      rw [List.length_take, length_wordBytes]
      omega

theorem memory_writeWord (writes : Writes) (payload : Nat) {index : UInt64} (value : UInt64)
    (hindex : index.toNat + 8 ≤ 2 ^ 64) :
    (writeWord writes payload index value).memory =
      writes.memory.overlay (payload + index.toNat) (wordBytes value) := by
  have hwritten := (writeWord_fold writes payload value hindex (Nat.le_refl 8)).2
  rw [List.take_of_length_le (by simp)] at hwritten
  exact hwritten

/-- Some whole words are written. -/
structure WordsWritten (state : UInt64) (writes : Writes) (payload size n : Nat)
    (filling : Filling) : Prop where
  index : filling.index.toNat = 8 * n
  within : 8 * n ≤ size
  random : filling.state = stateAfter state n
  memory : filling.writes.memory = writes.memory.overlay payload (randomBytes state n)

/-- A piece of the next word is written as well. -/
structure PieceWritten (state : UInt64) (writes : Writes) (payload size n k : Nat)
    (last : LastWord) : Prop where
  index : last.index.toNat = 8 * n + k
  within : 8 * n + k ≤ size
  value : last.value.toNat = (randomWord state n).toNat >>> (8 * k)
  memory : last.writes.memory = writes.memory.overlay payload
    (randomBytes state n ++ (wordBytes (randomWord state n)).take k)

variable {state : UInt64} {writes : Writes} {payload : Nat} {size : UInt64}

private theorem WordsWritten.fillWord {n : Nat} {filling : Filling}
    (h : WordsWritten state writes payload size.toNat n filling)
    (hroom : filling.index.toNat + 8 ≤ size.toNat) (hsize : size.toNat + 8 < 2 ^ 64) :
    WordsWritten state writes payload size.toNat (n + 1) (fillWord payload filling) where
  index := by
    have hindex := h.index
    simp only [TrafficGenerator.fillWord, UInt64.toNat_add, UInt64.reduceToNat]
    omega
  within := by
    have hindex := h.index
    omega
  random := by rw [TrafficGenerator.fillWord, h.random, stateAfter]
  memory := by
    have hindex := h.index
    rw [TrafficGenerator.fillWord, memory_writeWord _ _ _ (by omega), h.memory, randomBytes,
      Memory.overlay_behind (by rw [length_randomBytes, hindex]), randomWord, h.random]

private theorem PieceWritten.fillByte {n k : Nat} {last : LastWord}
    (h : PieceWritten state writes payload size.toNat n k last)
    (hroom : last.index.toNat < size.toNat) (hk : k < 8) :
    PieceWritten state writes payload size.toNat n (k + 1) (fillByte payload last) where
  index := by
    have hindex := h.index
    have hsize := size.toNat_lt
    simp only [TrafficGenerator.fillByte, UInt64.toNat_add, UInt64.reduceToNat]
    omega
  within := by
    have hindex := h.index
    omega
  value := shifted h.value
  memory := by
    have hindex := h.index
    rw [TrafficGenerator.fillByte, Writes.memory_write, h.memory, wordByte_of_toNat h.value,
      take_wordBytes hk, ← List.append_assoc, Memory.overlay_behind]
    rw [List.length_append, List.length_take, length_randomBytes, length_wordBytes, hindex]
    omega

/-- **The generator's payload.** -/
theorem fillRandomPayload_spec (state : UInt64) (payload : Nat) (writes : Writes)
    (hsize : size.toNat + 8 < 2 ^ 64) :
    ∃ filled, fillRandomPayload state payload size writes = some filled ∧
      filled.memory = writes.memory.overlay payload (randomPayload state size.toNat) := by
  have hstart : ∃ n, WordsWritten state writes payload size.toNat n { state, writes } := by
    refine ⟨0, rfl, by omega, rfl, ?_⟩
    funext address
    exact (Memory.overlay_outside (by simp only [randomBytes, List.length_nil]; omega)).symm
  -- whole words as long as one fits
  obtain ⟨filling, hloop, ⟨n, hwords⟩, hend⟩ := loop_spec
    (fun filling : Filling => decide (filling.index + 8 ≤ size)) (fillWord payload)
    (fun filling => ∃ n, WordsWritten state writes payload size.toNat n filling)
    (fun filling => size.toNat - filling.index.toNat)
    (fun filling ⟨n, h⟩ htest => by
      have hindex := h.index
      have hwithin := h.within
      rw [decide_eq_true_eq, UInt64.le_iff_toNat_le, UInt64.toNat_add] at htest
      simp only [UInt64.reduceToNat] at htest
      have hnext := h.fillWord (by omega) hsize
      have hindex' := hnext.index
      exact ⟨⟨n + 1, hnext⟩, by omega⟩)
    hstart (Nat.sub_le _ _)
  have hindex := hwords.index
  have hwithin := hwords.within
  rw [decide_eq_false_iff_not, UInt64.le_iff_toNat_le, UInt64.toNat_add] at hend
  simp only [UInt64.reduceToNat] at hend
  have hpayload := randomPayload_eq state hwithin (by omega)
  -- then the first bytes of one more word, if the payload does not end with a whole one
  by_cases hrest : filling.index < size
  · have hpiece : ∃ k, PieceWritten state writes payload size.toNat n k
        { value := (splitmix64 filling.state).1, index := filling.index, writes := filling.writes } :=
      ⟨0, by rw [hindex, Nat.add_zero], by omega, by rw [hwords.random]; rfl, by
        rw [List.take_zero, List.append_nil]
        exact hwords.memory⟩
    obtain ⟨last, hloop', ⟨k, hlast⟩, hend'⟩ := loop_spec
      (fun last : LastWord => decide (last.index < size)) (fillByte payload)
      (fun last => ∃ k, PieceWritten state writes payload size.toNat n k last)
      (fun last => size.toNat - last.index.toNat)
      (fun last ⟨k, h⟩ htest => by
        have hlast := h.index
        rw [decide_eq_true_eq, UInt64.lt_iff_toNat_lt] at htest
        have hnext := h.fillByte htest (by omega)
        have hlast' := hnext.index
        exact ⟨⟨k + 1, hnext⟩, by omega⟩)
      hpiece (Nat.sub_le _ _)
    have hstop := hlast.index
    have hstop' := hlast.within
    rw [decide_eq_false_iff_not, UInt64.lt_iff_toNat_lt] at hend'
    have hk : k = size.toNat - 8 * n := by omega
    refine ⟨last.writes, ?_, by rw [hlast.memory, hpayload, hk]⟩
    simp only [fillRandomPayload, hloop, Option.bind_eq_bind, Option.bind_some, if_pos hrest, hloop']
    rfl
  · have hstop := hrest
    rw [UInt64.lt_iff_toNat_lt] at hstop
    have hfull : size.toNat - 8 * n = 0 := by omega
    refine ⟨filling.writes, ?_, by
      rw [hwords.memory, hpayload, hfull, List.take_zero, List.append_nil]⟩
    simp only [fillRandomPayload, hloop, Option.bind_eq_bind, Option.bind_some, if_neg hrest]
    rfl

/-! ## The kernel's payload -/

/-- The kernel has written some whole words. -/
structure WordsFilled (state : UInt64) (writes : Writes) (payload size n : Nat)
    (filling : Metal.Traffic.Filling) : Prop where
  offset : filling.offset.toNat = 8 * n
  within : 8 * n ≤ size
  random : filling.state = stateAfter state n
  memory : filling.writes.memory = writes.memory.overlay payload (randomBytes state n)

theorem splitmixNext_eq (state : UInt64) : Metal.Traffic.splitmixNext state = splitmix64 state := rfl

section
open Metal.Traffic

/-- A byte is one of the word, wherever it is shifted from. -/
private theorem memory_writeByte (payload : Nat) {offset byte : UInt32} (value : UInt64)
    (writes : Writes) (hbyte : byte.toNat < 8) (hoffset : offset.toNat + 8 ≤ 2 ^ 32) :
    (writeByte payload offset value writes byte).memory =
      writes.memory.overlay (payload + offset.toNat + byte.toNat) [wordByte value byte.toNat] := by
  have haddress : (offset + byte).toNat = offset.toNat + byte.toNat := by
    rw [UInt32.toNat_add]
    omega
  have hshift : (value >>> (8 * byte).toUInt64).toNat = value.toNat >>> (8 * byte.toNat) := by
    rw [UInt64.toNat_shiftRight, UInt32.toNat_toUInt64, UInt32.toNat_mul]
    simp only [UInt32.reduceToNat]
    congr 1
    omega
  rw [writeByte, Writes.memory_write, haddress, wordByte_of_toNat hshift, Nat.add_assoc]

/-- A whole word, byte by byte. -/
private theorem memory_writeBytes (payload : Nat) {offset : UInt32} (value : UInt64)
    (writes : Writes) (hoffset : offset.toNat + 8 ≤ 2 ^ 32) {k : Nat} (hk : k ≤ 8) :
    (((List.range k).map UInt32.ofNat).foldl (writeByte payload offset value) writes).memory =
      writes.memory.overlay (payload + offset.toNat) ((wordBytes value).take k) := by
  induction k with
  | zero =>
      funext address
      exact (Memory.overlay_outside (by simp only [List.take_zero, List.length_nil]; omega)).symm
  | succ k ih =>
      have hbyte : (UInt32.ofNat k).toNat = k := by
        rw [UInt32.toNat_ofNat', Nat.mod_eq_of_lt (by omega)]
      rw [List.range_succ, List.map_append, List.foldl_append, List.map_singleton, List.foldl_cons,
        List.foldl_nil, memory_writeByte _ _ _ (by omega) hoffset, ih (by omega), hbyte,
        take_wordBytes (by omega), Memory.overlay_behind]
      rw [List.length_take, length_wordBytes]
      omega

variable {size : UInt32}

private theorem WordsFilled.fillWord {n : Nat} {filling : Metal.Traffic.Filling}
    (h : WordsFilled state writes payload size.toNat n filling)
    (hroom : filling.offset.toNat + 8 ≤ size.toNat) (hsize : size.toNat + 8 < 2 ^ 32) :
    WordsFilled state writes payload size.toNat (n + 1)
      (Metal.Traffic.fillWord payload filling) where
  offset := by
    have hoffset := h.offset
    simp only [Metal.Traffic.fillWord, UInt32.toNat_add, UInt32.reduceToNat]
    omega
  within := by
    have hoffset := h.offset
    omega
  random := by rw [Metal.Traffic.fillWord, h.random, splitmixNext_eq, stateAfter]
  memory := by
    have hoffset := h.offset
    rw [Metal.Traffic.fillWord, memory_writeBytes _ _ _ (by omega) (Nat.le_refl 8), h.memory,
      randomBytes, List.take_of_length_le (by rw [length_wordBytes]),
      Memory.overlay_behind (by rw [length_randomBytes, hoffset]), randomWord, splitmixNext_eq,
      h.random]

/-- The loop over the last word writes what is left of the payload. -/
private theorem fillRest_spec {offset : UInt32} (payload : Nat) (value : UInt64) (writes : Writes)
    (hleft : offset.toNat < size.toNat) (hshort : size.toNat < offset.toNat + 8)
    (hsize : size.toNat + 8 < 2 ^ 32) :
    ∃ filled, fillRest payload size offset value writes = some filled ∧ filled.memory =
      writes.memory.overlay (payload + offset.toNat)
        ((wordBytes value).take (size.toNat - offset.toNat)) := by
  have hstart : let rest : Rest := { writes }
      offset.toNat + rest.byte.toNat ≤ size.toNat ∧ rest.writes.memory =
        writes.memory.overlay (payload + offset.toNat) ((wordBytes value).take rest.byte.toNat) := by
    simp only [UInt32.reduceToNat]
    refine ⟨by omega, ?_⟩
    funext address
    exact (Memory.overlay_outside (by simp only [List.take_zero, List.length_nil]; omega)).symm
  obtain ⟨rest, hloop, ⟨hwithin, hmemory⟩, hend⟩ := loop_spec
    (fun rest : Rest => decide (offset + rest.byte < size)) (Metal.Traffic.fillByte payload offset value)
    (fun rest => offset.toNat + rest.byte.toNat ≤ size.toNat ∧ rest.writes.memory =
      writes.memory.overlay (payload + offset.toNat) ((wordBytes value).take rest.byte.toNat))
    (fun rest => size.toNat - rest.byte.toNat)
    (fun rest ⟨hwithin, hmemory⟩ htest => by
      rw [decide_eq_true_eq, UInt32.lt_iff_toNat_lt, UInt32.toNat_add] at htest
      have hbyte : (rest.byte + 1).toNat = rest.byte.toNat + 1 := by
        rw [UInt32.toNat_add]
        simp only [UInt32.reduceToNat]
        omega
      simp only [Metal.Traffic.fillByte, hbyte]
      refine ⟨⟨by omega, ?_⟩, by omega⟩
      rw [memory_writeByte _ _ _ (by omega) (by omega), hmemory, take_wordBytes (by omega),
        Memory.overlay_behind]
      rw [List.length_take, length_wordBytes]
      omega)
    hstart (Nat.sub_le _ _)
  rw [decide_eq_false_iff_not, UInt32.lt_iff_toNat_lt, UInt32.toNat_add] at hend
  have hlast : rest.byte.toNat = size.toNat - offset.toNat := by omega
  refine ⟨rest.writes, ?_, by rw [hmemory, hlast]⟩
  simp only [fillRest, hloop, Option.bind_eq_bind, Option.bind_some]
  rfl

/-- **The kernel's payload** is the generator's. -/
theorem fillPayload_spec (state : UInt64) (payload : Nat) (writes : Writes)
    (hsize : size.toNat + 8 < 2 ^ 32) :
    ∃ filled, fillPayload state payload size writes = some filled ∧
      filled.memory = writes.memory.overlay payload (randomPayload state size.toNat) := by
  have hstart : ∃ n, WordsFilled state writes payload size.toNat n { state, writes } := by
    refine ⟨0, rfl, by omega, rfl, ?_⟩
    funext address
    exact (Memory.overlay_outside (by simp only [randomBytes, List.length_nil]; omega)).symm
  obtain ⟨filling, hloop, ⟨n, hwords⟩, hend⟩ := loop_spec
    (fun filling : Metal.Traffic.Filling => decide (filling.offset + 8 ≤ size))
    (Metal.Traffic.fillWord payload)
    (fun filling => ∃ n, WordsFilled state writes payload size.toNat n filling)
    (fun filling => size.toNat - filling.offset.toNat)
    (fun filling ⟨n, h⟩ htest => by
      have hoffset := h.offset
      have hwithin := h.within
      rw [decide_eq_true_eq, UInt32.le_iff_toNat_le, UInt32.toNat_add] at htest
      simp only [UInt32.reduceToNat] at htest
      have hnext := h.fillWord (by omega) hsize
      have hoffset' := hnext.offset
      exact ⟨⟨n + 1, hnext⟩, by omega⟩)
    hstart (Nat.sub_le _ _)
  have hoffset := hwords.offset
  have hwithin := hwords.within
  rw [decide_eq_false_iff_not, UInt32.le_iff_toNat_le, UInt32.toNat_add] at hend
  simp only [UInt32.reduceToNat] at hend
  have hpayload := randomPayload_eq state hwithin (by omega)
  by_cases hrest : filling.offset < size
  · have hleft := hrest
    rw [UInt32.lt_iff_toNat_lt] at hleft
    obtain ⟨filled, hfill, hmemory⟩ := fillRest_spec payload (splitmixNext filling.state).1
      filling.writes hleft (by omega) hsize
    refine ⟨filled, ?_, ?_⟩
    · simp only [fillPayload, hloop, Option.bind_eq_bind, Option.bind_some, if_pos hrest, hfill]
    · rw [hmemory, hwords.memory, hpayload, hwords.random, splitmixNext_eq, hoffset,
        Memory.overlay_behind (by rw [length_randomBytes]), randomWord]
  · have hstop := hrest
    rw [UInt32.lt_iff_toNat_lt] at hstop
    have hfull : size.toNat - 8 * n = 0 := by omega
    refine ⟨filling.writes, ?_, by
      rw [hwords.memory, hpayload, hfull, List.take_zero, List.append_nil]⟩
    simp only [fillPayload, hloop, Option.bind_eq_bind, Option.bind_some, if_neg hrest]
    rfl

end

/-! ## Headers -/

/-- The two bytes of a number, the most significant first. -/
def networkU16 (value : UInt16) : Bytes := [(value >>> 8).toUInt8, value.toUInt8]

theorem memory_writeNetworkU16 (writes : Writes) (out : Nat) (value : UInt16) :
    (writeNetworkU16 writes out value).memory = writes.memory.overlay out (networkU16 value) := by
  have hbehind : out + 1 = out + [(value >>> 8).toUInt8].length := rfl
  rw [writeNetworkU16, Writes.memory_write, Writes.memory_write, Memory.overlay_behind hbehind]
  rfl

/-- An IPv4 header with some checksum. -/
def headerBytes (size identification : UInt16) (protocol : UInt8) (source destination : UInt16)
    (checksum : UInt16) : Bytes :=
  ([0x45, 0] ++ networkU16 size ++ networkU16 identification ++ networkU16 0 ++ [64, protocol]) ++
    (networkU16 checksum ++ ([10, 0] ++ networkU16 source ++ [10, 0] ++ networkU16 destination))

/-- The carries of a sum, folded into its lower half. -/
def carried (sum : UInt32) : UInt32 :=
  (loop (fun sum : UInt32 => sum >>> (16 : UInt32) ≠ 0) foldCarry sum.toNat sum).getD 0

/-- The sum of the ten words of a header. -/
def headerSum (header : Bytes) : UInt32 :=
  (List.range 10).foldl (fun sum word =>
    sum + ((header.getD (2 * word) 0).toUInt32 <<< 8 ||| (header.getD (2 * word + 1) 0).toUInt32)) 0

def headerChecksum (header : Bytes) : UInt16 := (~~~(carried (headerSum header))).toUInt16

/-- An IPv4 header. -/
def ipv4Header (size identification : UInt16) (protocol : UInt8) (source destination : UInt16) :
    Bytes :=
  headerBytes size identification protocol source destination
    (headerChecksum (headerBytes size identification protocol source destination 0))

@[simp] theorem length_ipv4Header (size identification : UInt16) (protocol : UInt8)
    (source destination : UInt16) :
    (ipv4Header size identification protocol source destination).length = 20 := rfl

/-- One turn folds the carries of a sum once. -/
private theorem toNat_foldCarry {sum : UInt32} (hcarry : sum.toNat / 2 ^ 16 ≠ 0) :
    (foldCarry sum).toNat = sum.toNat % 2 ^ 16 + sum.toNat / 2 ^ 16 ∧
      (foldCarry sum).toNat < sum.toNat := by
  have hbound := sum.toNat_lt
  have hlow : (sum &&& 0xffff).toNat = sum.toNat % 2 ^ 16 := by
    rw [UInt32.toNat_and]
    exact Nat.and_two_pow_sub_one_eq_mod _ 16
  have hhigh : (sum >>> (16 : UInt32)).toNat = sum.toNat / 2 ^ 16 := by
    rw [UInt32.toNat_shiftRight]
    simp only [UInt32.reduceToNat, Nat.reduceMod, Nat.shiftRight_eq_div_pow]
  have hfolded : (foldCarry sum).toNat = sum.toNat % 2 ^ 16 + sum.toNat / 2 ^ 16 := by
    rw [foldCarry, UInt32.toNat_add, hlow, hhigh, Nat.mod_eq_of_lt (by omega)]
  refine ⟨hfolded, ?_⟩
  rw [hfolded]
  omega

/-- Folding the carries ends, since a sum with a carry becomes smaller; what is left is
the ones'-complement residue of the sum. -/
theorem loop_foldCarry (sum : UInt32) :
    loop (fun sum : UInt32 => sum >>> (16 : UInt32) ≠ 0) foldCarry sum.toNat sum =
        some (carried sum) ∧
      (carried sum).toNat = OnesComplement.residue 65535 sum.toNat := by
  have hcheck (sum : UInt32) : sum >>> (16 : UInt32) ≠ 0 ↔ sum.toNat / 2 ^ 16 ≠ 0 := by
    rw [ne_eq, ← UInt32.toNat_inj, UInt32.toNat_shiftRight]
    simp only [UInt32.reduceToNat, Nat.reduceMod, Nat.shiftRight_eq_div_pow, ne_eq]
  obtain ⟨last, hloop, hresidue, hend⟩ := loop_spec
    (fun sum : UInt32 => decide (sum >>> (16 : UInt32) ≠ 0)) foldCarry
    (fun rest => OnesComplement.residue 65535 rest.toNat = OnesComplement.residue 65535 sum.toNat)
    UInt32.toNat
    (fun rest hrest htest => by
      rw [decide_eq_true_eq, hcheck] at htest
      obtain ⟨hfolded, hless⟩ := toNat_foldCarry htest
      refine ⟨?_, hless⟩
      rw [hfolded]
      exact (OnesComplement.residue_fold rest.toNat).trans hrest)
    rfl (Nat.le_refl sum.toNat)
  have hlast : carried sum = last := by
    rw [carried, hloop]
    rfl
  refine ⟨by rw [hlast, hloop], ?_⟩
  rw [decide_eq_false_iff_not, hcheck, not_not] at hend
  rw [hlast, ← hresidue, OnesComplement.residue_of_le (by omega)]

/-- The words of a header that lies in the memory. -/
theorem sumWords_of_shows {memory : Memory} {header : Nat} {bytes : Bytes}
    (h : memory.Shows header bytes) (hlength : bytes.length = 20) :
    sumWords memory header = some (headerSum bytes) := by
  have hread : ∀ k < 20, memory (header + k) = some (bytes.getD k 0) := by
    intro k hk
    rw [h k (by omega), List.getD_eq_getElem?_getD, List.getElem?_eq_getElem (by omega)]
    rfl
  have hfold : ∀ n ≤ 10, (List.range n).foldlM (fun sum word => do
      let high ← memory (header + 2 * word)
      let low ← memory (header + (2 * word + 1))
      return sum + (high.toUInt32 <<< 8 ||| low.toUInt32)) (0 : UInt32) =
      some ((List.range n).foldl (fun sum word => sum + ((bytes.getD (2 * word) 0).toUInt32 <<< 8 |||
        (bytes.getD (2 * word + 1) 0).toUInt32)) 0) := by
    intro n hn
    induction n with
    | zero => rfl
    | succ n ih =>
        rw [List.range_succ, List.foldlM_append, ih (by omega), List.foldl_append]
        simp only [Option.bind_eq_bind, Option.bind_some, List.foldlM_cons, List.foldlM_nil,
          hread (2 * n) (by omega), hread (2 * n + 1) (by omega), List.foldl_cons, List.foldl_nil]
        rfl
  exact hfold 10 (Nat.le_refl 10)

theorem memory_writeIpv4Fields (writes : Writes) (payload : Nat) (size identification : UInt16)
    (protocol : UInt8) (source destination : UInt16) :
    (writeIpv4Fields writes payload size identification protocol source destination).memory =
      writes.memory.overlay payload
        (headerBytes size identification protocol source destination 0) := by
  simp only [writeIpv4Fields, memory_writeNetworkU16, Writes.memory_write]
  simp (disch := (simp [networkU16])) only [Memory.overlay_behind]
  rfl

/-- The checksum of fields that lie in the memory. -/
theorem checksum_of_fields (writes : Writes) (payload : Nat) (size identification : UInt16)
    (protocol : UInt8) (source destination : UInt16) :
    ipv4Checksum
        (writeIpv4Fields writes payload size identification protocol source destination).memory
        payload =
      some (headerChecksum (headerBytes size identification protocol source destination 0)) := by
  have hshows := Memory.shows_overlay writes.memory payload
    (headerBytes size identification protocol source destination 0)
  rw [← memory_writeIpv4Fields] at hshows
  simp only [ipv4Checksum, sumWords_of_shows hshows rfl, Option.bind_eq_bind, Option.bind_some,
    (loop_foldCarry _).1]
  rfl

/-- The header is the fields with the checksum put in. -/
theorem memory_checksum (writes : Writes) (payload : Nat) (size identification : UInt16)
    (protocol : UInt8) (source destination : UInt16) :
    (writeNetworkU16 (writeIpv4Fields writes payload size identification protocol source destination)
        (payload + 10)
        (headerChecksum (headerBytes size identification protocol source destination 0))).memory =
      writes.memory.overlay payload (ipv4Header size identification protocol source destination) := by
  rw [memory_writeNetworkU16, memory_writeIpv4Fields]
  exact Memory.overlay_within rfl rfl

/-- **The generator's IPv4 header.** -/
theorem writeIpv4Header_spec (writes : Writes) (payload : Nat) (payloadSize : UInt64)
    (identification : UInt16) (protocol : UInt8) (sourceHost destinationHost : UInt32) :
    ∃ written, writeIpv4Header writes payload payloadSize identification protocol sourceHost
        destinationHost = some written ∧
      written.memory = writes.memory.overlay payload (ipv4Header payloadSize.toUInt16
        identification protocol sourceHost.toUInt16 destinationHost.toUInt16) := by
  refine ⟨_, ?_, memory_checksum writes payload payloadSize.toUInt16 identification protocol
    sourceHost.toUInt16 destinationHost.toUInt16⟩
  simp only [writeIpv4Header, checksum_of_fields, Option.bind_eq_bind, Option.bind_some]
  rfl

/-- **The kernel's IPv4 header** is the generator's. -/
theorem kernel_writeIpv4Header (writes : Writes) (payload : Nat) {size : UInt64} {size' : UInt32}
    (hsize : size.toUInt16 = size'.toUInt16) (sequence : UInt64) (protocol : UInt8)
    (sourceHost destinationHost : UInt32) :
    Metal.Traffic.writeIpv4Header writes payload size' sequence protocol sourceHost destinationHost =
      writeIpv4Header writes payload size sequence.toUInt16 protocol sourceHost destinationHost := by
  have hfields : Metal.Traffic.writeIpv4Fields = writeIpv4Fields := rfl
  have hsum : Metal.Traffic.sumWords = sumWords := rfl
  have hcarry : Metal.Traffic.foldCarry = foldCarry := rfl
  simp only [Metal.Traffic.writeIpv4Header, writeIpv4Header, ipv4Checksum, hfields, hsum, hcarry,
    hsize, Option.bind_eq_bind, Option.bind_assoc]
  rfl

/-- A UDP header without a checksum. -/
def udpHeader (source destination size : UInt16) : Bytes :=
  networkU16 source ++ networkU16 destination ++ networkU16 size ++ networkU16 0

theorem memory_writeUdpHeader (writes : Writes) (transport : Nat) (size : UInt64)
    (source destination : UInt16) :
    (writeUdpHeader writes transport size source destination).memory =
      writes.memory.overlay transport (udpHeader source destination size.toUInt16) := by
  simp only [writeUdpHeader, memory_writeNetworkU16]
  simp (disch := (simp [networkU16])) only [Memory.overlay_behind]
  rfl

/-! ## Frames -/

/-- The Ethernet header of a frame. -/
def ethernetBytes (shape : FrameShape) : Bytes :=
  shape.destinationMac.bytes ++ shape.sourceMac.bytes ++ networkU16 TrafficGenerator.ethertypeIpv4

@[simp] theorem length_ethernetBytes (shape : FrameShape) : (ethernetBytes shape).length = 14 := by
  simp only [ethernetBytes, List.length_append, shape.destinationMac.size, shape.sourceMac.size]
  rfl

/-- Whether a frame has a UDP header. -/
def hasUdp (shape : FrameShape) (size : Nat) : Bool := shape.udp && 28 ≤ size

/-- The payload of a frame: random bytes, with the headers that fit over the first of
them. -/
def payloadBytes (shape : FrameShape) (sequence state : UInt64) (size : Nat) : Bytes :=
  if size < 20 ∨ 65535 < size then randomPayload state size
  else
    ipv4Header (.ofNat size) sequence.toUInt16
        (if hasUdp shape size then TrafficGenerator.udpProtocol else 0)
        shape.sourceHost.toUInt16 shape.destinationHost.toUInt16 ++
      if hasUdp shape size then
        udpHeader shape.sourcePort shape.destinationPort (.ofNat (size - 20)) ++
          (randomPayload state size).drop 28
      else (randomPayload state size).drop 20

/-- The first draw of a frame. -/
def firstDraw (config : TrafficGeneratorConfig) (sequence : UInt64) : UInt64 × UInt64 :=
  splitmix64 (config.seed ^^^ (sequence * TrafficGenerator.splitmixGamma))

def shapeOf (config : TrafficGeneratorConfig) (sequence : UInt64) : FrameShape :=
  frameShape config (frameScenario config sequence) sequence (firstDraw config sequence).1

/-- The bytes of the frame with a sequence number. -/
def frameBytes (config : TrafficGeneratorConfig) (sequence : UInt64) : Bytes :=
  ethernetBytes (shapeOf config sequence) ++
    payloadBytes (shapeOf config sequence) sequence (firstDraw config sequence).2
      (config.frameSize.toNat - 14)

@[simp] theorem length_udpHeader (source destination size : UInt16) :
    (udpHeader source destination size).length = 8 := rfl

/-- A frame with a UDP header has room for it. -/
theorem long_of_hasUdp {shape : FrameShape} {size : Nat} (h : hasUdp shape size = true) :
    28 ≤ size := by
  rw [hasUdp, Bool.and_eq_true, decide_eq_true_eq] at h
  exact h.2

@[simp] theorem length_payloadBytes (shape : FrameShape) (sequence state : UInt64) (size : Nat) :
    (payloadBytes shape sequence state size).length = size := by
  unfold payloadBytes
  split
  · exact length_randomPayload state size
  · next hroom =>
      rw [not_or] at hroom
      rw [List.length_append, length_ipv4Header]
      split
      · next hudp =>
          have hlong := long_of_hasUdp hudp
          rw [List.length_append, length_udpHeader, List.length_drop, length_randomPayload]
          omega
      · rw [List.length_drop, length_randomPayload]
        omega

theorem length_frameBytes {config : TrafficGeneratorConfig} (hsize : 14 ≤ config.frameSize.toNat)
    (sequence : UInt64) : (frameBytes config sequence).length = config.frameSize.toNat := by
  rw [frameBytes, List.length_append, length_ethernetBytes, length_payloadBytes]
  omega

/-- The headers over a random payload. -/
theorem overlay_headers (memory : Memory) (frame : Nat) (shape : FrameShape)
    (sequence state : UInt64) {size : Nat} (hroom : ¬ (size < 20 ∨ 65535 < size)) :
    let protocol := if hasUdp shape size then TrafficGenerator.udpProtocol else 0
    let withIpv4 := (memory.overlay frame (ethernetBytes shape ++ randomPayload state size)).overlay
      (frame + 14) (ipv4Header (.ofNat size) sequence.toUInt16 protocol shape.sourceHost.toUInt16
        shape.destinationHost.toUInt16)
    (if hasUdp shape size then
      withIpv4.overlay (frame + 34)
        (udpHeader shape.sourcePort shape.destinationPort (.ofNat (size - 20)))
      else withIpv4) =
      memory.overlay frame (ethernetBytes shape ++ payloadBytes shape sequence state size) := by
  dsimp only
  rw [payloadBytes, if_neg hroom, Memory.overlay_over (by rw [length_ethernetBytes])
    (by rw [length_ipv4Header, length_randomPayload]; omega), length_ipv4Header]
  cases hudp : hasUdp shape size with
  | true =>
      have hlong := long_of_hasUdp hudp
      simp only [↓reduceIte]
      rw [← List.append_assoc, Memory.overlay_over
        (by rw [List.length_append, length_ethernetBytes, length_ipv4Header])
        (by rw [length_udpHeader, List.length_drop, length_randomPayload]; omega),
        length_udpHeader, List.drop_drop, List.append_assoc]
  | false => simp only [Bool.false_eq_true, ↓reduceIte]

/-- The Ethernet header, in the generator's order. -/
def writeEthernet (writes : Writes) (out : Nat) (shape : FrameShape) : Writes :=
  writeNetworkU16 ((writes.copy out shape.destinationMac.bytes).copy (out + macAddressSize)
    shape.sourceMac.bytes) (out + macAddressSize * 2) TrafficGenerator.ethertypeIpv4

theorem memory_writeEthernet (writes : Writes) (out : Nat) (shape : FrameShape) :
    (writeEthernet writes out shape).memory =
      writes.memory.overlay out (ethernetBytes shape) := by
  rw [writeEthernet, memory_writeNetworkU16, Writes.memory_copy, Writes.memory_copy,
    Memory.overlay_behind (by rw [shape.sourceMac.size]; rfl),
    Memory.overlay_behind (by rw [shape.destinationMac.size]), ethernetBytes, List.append_assoc]

/-- The generator from the first draw on. -/
private theorem writeTrafficFrame_eq {config : TrafficGeneratorConfig} {sequence : UInt64} {out : Nat}
    (h : ¬ (config.frameSize < .ofNat ethernetHeaderSize ∨ config.hostCount < 2)) :
    let shape := shapeOf config sequence
    let payloadSize := config.frameSize - .ofNat ethernetHeaderSize
    let withUdp := shape.udp &&
      decide (payloadSize ≥ TrafficGenerator.ipv4HeaderSize + TrafficGenerator.udpHeaderSize)
    writeTrafficFrame config sequence (some out) =
      (fillRandomPayload (firstDraw config sequence).2 (out + ethernetHeaderSize) payloadSize
        (writeEthernet [] out shape)).bind fun writes =>
      if payloadSize < TrafficGenerator.ipv4HeaderSize ∨ 65535 < payloadSize then some (config.frameSize, writes)
      else
        (writeIpv4Header writes (out + ethernetHeaderSize) payloadSize sequence.toUInt16
          (if withUdp then TrafficGenerator.udpProtocol else noTransportProtocol) shape.sourceHost
          shape.destinationHost).bind fun writes =>
        if withUdp then
          some (config.frameSize, writeUdpHeader writes
            (out + ethernetHeaderSize + TrafficGenerator.ipv4HeaderSize.toNat) (payloadSize - TrafficGenerator.ipv4HeaderSize)
            shape.sourcePort shape.destinationPort)
        else some (config.frameSize, writes) := by
  simp only [writeTrafficFrame, if_neg h]
  rfl

/-- **The generator's frame.** -/
theorem writeTrafficFrame_spec {config : TrafficGeneratorConfig}
    (hsize : 14 ≤ config.frameSize.toNat) (hhosts : 2 ≤ config.hostCount.toNat) (sequence : UInt64)
    (out : Nat) :
    ∃ written, writeTrafficFrame config sequence (some out) = some (config.frameSize, written) ∧
      written.memory = (Writes.memory []).overlay out (frameBytes config sequence) := by
  have hpayload : (config.frameSize - .ofNat ethernetHeaderSize).toNat =
      config.frameSize.toNat - 14 := by
    rw [UInt64.toNat_sub_of_le _ _ (by rw [UInt64.le_iff_toNat_le]; exact hsize)]
    rfl
  have hbound := config.frameSize.toNat_lt
  have hbad : ¬ (config.frameSize < .ofNat ethernetHeaderSize ∨ config.hostCount < 2) := by
    rw [UInt64.lt_iff_toNat_lt, UInt32.lt_iff_toNat_lt, not_or, Nat.not_lt, Nat.not_lt]
    exact ⟨hsize, hhosts⟩
  have hsmall : (config.frameSize - .ofNat ethernetHeaderSize).toNat + 8 < 2 ^ 64 := by omega
  obtain ⟨filled, hfilled, hrandom⟩ := fillRandomPayload_spec (firstDraw config sequence).2
    (out + ethernetHeaderSize) (writeEthernet [] out (shapeOf config sequence)) hsmall
  rw [memory_writeEthernet, Memory.overlay_behind (by rw [length_ethernetBytes]; rfl), hpayload]
    at hrandom
  rw [writeTrafficFrame_eq hbad, hfilled, Option.bind_some]
  have hframe : frameBytes config sequence = ethernetBytes (shapeOf config sequence) ++
      payloadBytes (shapeOf config sequence) sequence (firstDraw config sequence).2
        (config.frameSize - .ofNat ethernetHeaderSize).toNat := by rw [frameBytes, hpayload]
  rw [← hpayload] at hrandom
  rw [hframe]
  generalize config.frameSize - .ofNat ethernetHeaderSize = payloadSize at hrandom ⊢
  generalize shapeOf config sequence = shape at hrandom ⊢
  have hroom : payloadSize < TrafficGenerator.ipv4HeaderSize ∨ 65535 < payloadSize ↔
      payloadSize.toNat < 20 ∨ 65535 < payloadSize.toNat := by
    rw [UInt64.lt_iff_toNat_lt, UInt64.lt_iff_toNat_lt]
    rfl
  -- a frame with no room for the headers keeps its random payload
  by_cases hheaders : payloadSize.toNat < 20 ∨ 65535 < payloadSize.toNat
  · refine ⟨filled, if_pos (hroom.mpr hheaders), ?_⟩
    rw [hrandom, payloadBytes, if_pos hheaders]
  · have hudp : (shape.udp &&
        decide (payloadSize ≥ TrafficGenerator.ipv4HeaderSize + TrafficGenerator.udpHeaderSize)) =
        hasUdp shape payloadSize.toNat := by
      exact congrArg (shape.udp && ·) (decide_eq_decide.mpr UInt64.le_iff_toNat_le)
    have hsize16 : payloadSize.toUInt16 = .ofNat payloadSize.toNat :=
      (UInt16.ofNat_uInt64ToNat payloadSize).symm
    have hlow := (not_or.mp hheaders).1
    have hrest : (payloadSize - TrafficGenerator.ipv4HeaderSize).toUInt16 = .ofNat (payloadSize.toNat - 20) := by
      rw [← UInt16.ofNat_uInt64ToNat, UInt64.toNat_sub_of_le _ _ (by
        rw [UInt64.le_iff_toNat_le]
        exact Nat.not_lt.mp hlow)]
      rfl
    obtain ⟨written, hwritten, hheader⟩ := writeIpv4Header_spec filled (out + ethernetHeaderSize)
      payloadSize sequence.toUInt16
      (if hasUdp shape payloadSize.toNat then TrafficGenerator.udpProtocol else noTransportProtocol)
      shape.sourceHost shape.destinationHost
    rw [if_neg (mt hroom.mp hheaders), hudp, hwritten, Option.bind_some]
    rw [hsize16, hrandom] at hheader
    have hall := overlay_headers (Writes.memory []) out shape sequence (firstDraw config sequence).2
      hheaders
    cases hhas : hasUdp shape payloadSize.toNat with
    | true =>
        simp only [hhas, ↓reduceIte] at hheader hall ⊢
        refine ⟨_, rfl, ?_⟩
        rw [memory_writeUdpHeader, hheader, hrest]
        exact hall
    | false =>
        simp only [hhas, Bool.false_eq_true, ↓reduceIte] at hheader hall ⊢
        exact ⟨written, rfl, hheader.trans hall⟩

/-- A frame in a vector of its own. -/
theorem trafficFrame_eq {config : TrafficGeneratorConfig} (hsize : 14 ≤ config.frameSize.toNat)
    (hhosts : 2 ≤ config.hostCount.toNat) (sequence : UInt64) :
    trafficFrame config sequence = some (frameBytes config sequence) := by
  obtain ⟨written, hwritten, hmemory⟩ := writeTrafficFrame_spec hsize hhosts sequence 0
  have hlength := length_frameBytes hsize sequence
  simp only [trafficFrame, hwritten, Option.bind_eq_bind, Option.bind_some, Option.pure_def]
  congr 1
  refine List.ext_getElem (by simp [hlength]) fun i hi hi' => ?_
  have hread : written.memory i = (frameBytes config sequence)[i]? := by
    have hshows := Memory.shows_overlay (Writes.memory []) 0 (frameBytes config sequence) i hi'
    rwa [← hmemory, Nat.zero_add] at hshows
  rw [List.getElem_map, List.getElem_range, hread, List.getElem?_eq_getElem hi', Option.getD_some]

/-! ## The kernel's frame -/

section
open Metal.Traffic

/-- The kernel's turns of mixed traffic are the generator's. -/
theorem kernelScenario (config : TrafficGeneratorConfig) (sequence : UInt64) :
    (if config.scenario.code = scenarioMixed then (sequence % 3).toUInt32
      else config.scenario.code) = (frameScenario config sequence).code := by
  have hturn : (sequence % 3).toNat = sequence.toNat % 3 := by
    rw [UInt64.toNat_mod]
    rfl
  have hturns : sequence % 3 = 0 ∨ sequence % 3 = 1 ∨ sequence % 3 = 2 := by
    simp only [← UInt64.toNat_inj, hturn, UInt64.reduceToNat]
    omega
  unfold frameScenario
  cases hscenario : config.scenario with
  | mixed =>
      rw [if_pos (by decide), if_neg (by decide)]
      rcases hturns with h | h | h
      · rw [h]
        decide
      · rw [h]
        decide
      · rw [h]
        decide
  | knownUnicast | broadcast | unknownUnicast | udpFlood | portScan | broadcastStorm =>
      rw [if_neg (by decide), if_pos (by decide)]

theorem frameScenario_ne_mixed (config : TrafficGeneratorConfig) (sequence : UInt64) :
    frameScenario config sequence ≠ .mixed := by
  unfold frameScenario
  split
  · assumption
  · split
    · decide
    · split <;> decide

/-- The bytes of a host's address, in the kernel's words. -/
def hostBytes (host : UInt32) : Bytes :=
  [0x02, 0x57, 0x4c, (host >>> 16).toUInt8, (host >>> 8).toUInt8, host.toUInt8]

def unknownBytes (value : UInt64) : Bytes :=
  [0x02, 0xfe, (value >>> 24).toUInt8, (value >>> 16).toUInt8, (value >>> 8).toUInt8, value.toUInt8]

/-- The mask of a cast to a byte does nothing. -/
private theorem toUInt8_and_mask (value : UInt32) : (value &&& 0xff).toUInt8 = value.toUInt8 := by
  rw [← UInt8.toNat_inj, UInt32.toNat_toUInt8, UInt32.toNat_toUInt8, UInt32.toNat_and]
  have hmask : value.toNat &&& 255 = value.toNat % 256 := Nat.and_two_pow_sub_one_eq_mod value.toNat 8
  simp only [UInt32.reduceToNat, hmask]
  omega

private theorem toUInt8_and_mask' (value : UInt64) : (value &&& 0xff).toUInt8 = value.toUInt8 := by
  rw [← UInt8.toNat_inj, UInt64.toNat_toUInt8, UInt64.toNat_toUInt8, UInt64.toNat_and]
  have hmask : value.toNat &&& 255 = value.toNat % 256 := Nat.and_two_pow_sub_one_eq_mod value.toNat 8
  simp only [UInt64.reduceToNat, hmask]
  omega

theorem hostMac_bytes (host : UInt32) : (hostMac host).bytes = hostBytes host := by
  simp only [hostMac, toUInt8_and_mask]
  rfl

theorem unknownMac_bytes (value : UInt64) : (unknownMac value).bytes = unknownBytes value := by
  simp only [unknownMac, toUInt8_and_mask']
  rfl

/-- The kernel's decisions about a frame are those of its shape. -/
structure Plans (plan : FramePlan) (entropy : UInt64) (shape : FrameShape) : Prop where
  sourceHost : plan.sourceHost = shape.sourceHost
  destinationHost : plan.destinationHost = shape.destinationHost
  protocol : plan.protocol = if shape.udp then TrafficGenerator.udpProtocol else 0
  sourcePort : plan.sourcePort = shape.sourcePort
  destinationPort : plan.destinationPort = shape.destinationPort
  source : shape.sourceMac.bytes = hostBytes shape.sourceHost
  destination : shape.destinationMac.bytes =
    if plan.broadcastDestination then List.replicate 6 0xff
    else if plan.unknownDestination then unknownBytes entropy
    else hostBytes shape.destinationHost

/-- **The scenarios of the kernel** decide what those of the generator do. -/
theorem framePlan_plans (parameters : TrafficKernelParameters) {config : TrafficGeneratorConfig}
    (hhosts : parameters.hostCount = config.hostCount) {scenario : TrafficScenario}
    (hscenario : scenario ≠ .mixed) (sequence entropy : UInt64) :
    Plans (framePlan parameters scenario.code sequence entropy) entropy
      (frameShape config scenario sequence entropy) := by
  cases scenario with
  | mixed => exact absurd rfl hscenario
  | knownUnicast | broadcast | unknownUnicast =>
      constructor <;> simp [framePlan, frameShape, benignShape, TrafficScenario.code, hhosts,
        hostMac_bytes, unknownMac_bytes, scenarioBroadcast, scenarioUnknownUnicast,
        scenarioUdpFlood, scenarioPortScan, scenarioBroadcastStorm, MacAddress.broadcast]
  | udpFlood | portScan | broadcastStorm =>
      constructor <;> simp [framePlan, frameShape, TrafficScenario.code, hhosts, hostMac_bytes,
        scenarioBroadcast, scenarioUnknownUnicast, scenarioUdpFlood, scenarioPortScan,
        scenarioBroadcastStorm, MacAddress.broadcast] <;> rfl

/-- The Ethernet header, in the kernel's order. -/
def kernelEthernet (writes : Writes) (frame : Nat) (plan : FramePlan) (entropy : UInt64) : Writes :=
  writeU16 (writeHostMac (writeDestination writes frame plan entropy) (frame + 6) plan.sourceHost)
    (frame + 12) 0x0800

theorem writeU16_eq (writes : Writes) (out : Nat) (value : UInt16) :
    writeU16 writes out value = writeNetworkU16 writes out value := rfl

theorem memory_kernelEthernet (writes : Writes) (frame : Nat) {plan : FramePlan} {entropy : UInt64}
    {shape : FrameShape} (h : Plans plan entropy shape) :
    (kernelEthernet writes frame plan entropy).memory =
      writes.memory.overlay frame (ethernetBytes shape) := by
  have hdestination : (writeDestination writes frame plan entropy).memory =
      writes.memory.overlay frame shape.destinationMac.bytes := by
    rw [h.destination, writeDestination]
    split
    · rw [Writes.memory_copy]
    · split
      · rw [Writes.memory_copy]
        rfl
      · rw [writeHostMac, Writes.memory_copy, h.destinationHost]
        rfl
  rw [kernelEthernet, writeU16_eq, memory_writeNetworkU16, writeHostMac, Writes.memory_copy,
    hdestination, h.sourceHost, Memory.overlay_behind (by rfl),
    Memory.overlay_behind (by rw [shape.destinationMac.size]), ethernetBytes, List.append_assoc,
    h.source]
  rfl

theorem memory_kernelUdpHeader (writes : Writes) (transport : Nat) (size : UInt32)
    (source destination : UInt16) :
    (Metal.Traffic.writeUdpHeader writes transport size source destination).memory =
      writes.memory.overlay transport (udpHeader source destination size.toUInt16) := by
  simp only [Metal.Traffic.writeUdpHeader, writeU16_eq, memory_writeNetworkU16]
  simp (disch := (simp [networkU16])) only [Memory.overlay_behind]
  rfl

/-- The protocol that the kernel claims in a header. -/
def kernelProtocol (plan : FramePlan) (payloadSize : UInt32) : UInt8 :=
  if plan.protocol = Metal.Traffic.udpProtocol ∧
      payloadSize < Metal.Traffic.ipv4MinimumHeaderSize + Metal.Traffic.udpHeaderSize then 0
  else plan.protocol

/-- The kernel from the first draw on. -/
private theorem generateFrames_eq {config : TrafficGeneratorConfig} {first count : UInt64}
    {index : UInt32} (hindex : index < count.toUInt32) :
    let parameters := trafficKernelParameters config first count
    let sequence := first + index.toUInt64
    let entropy := (firstDraw config sequence).1
    let frame := (index.toUInt64 * config.frameSize.toUInt32.toUInt64).toNat
    let payloadSize := config.frameSize.toUInt32 - Metal.Traffic.ethernetHeaderSize
    let plan := framePlan parameters (frameScenario config sequence).code sequence entropy
    generateFrames parameters index =
      (fillPayload (firstDraw config sequence).2 (frame + 14) payloadSize []).bind fun writes =>
      if payloadSize < Metal.Traffic.ipv4MinimumHeaderSize ∨ ipv4MaximumTotalSize < payloadSize then
        some (kernelEthernet writes frame plan entropy)
      else
        (Metal.Traffic.writeIpv4Header (kernelEthernet writes frame plan entropy) (frame + 14)
          payloadSize sequence (kernelProtocol plan payloadSize) plan.sourceHost
          plan.destinationHost).bind fun writes =>
        if kernelProtocol plan payloadSize ≠ Metal.Traffic.udpProtocol then some writes
        else some (Metal.Traffic.writeUdpHeader writes (frame + 34)
          (payloadSize - Metal.Traffic.ipv4MinimumHeaderSize) plan.sourcePort plan.destinationPort) := by
  dsimp only
  rw [← kernelScenario]
  unfold generateFrames
  rw [if_neg (by rw [UInt32.not_le]; exact hindex)]
  rfl

/-- The kernel claims UDP exactly where there is room for it. -/
theorem kernelProtocol_eq {plan : FramePlan} {entropy : UInt64} {shape : FrameShape}
    (h : Plans plan entropy shape) (payloadSize : UInt32) :
    kernelProtocol plan payloadSize =
      if hasUdp shape payloadSize.toNat then TrafficGenerator.udpProtocol else 0 := by
  have hroom : payloadSize < Metal.Traffic.ipv4MinimumHeaderSize + Metal.Traffic.udpHeaderSize ↔
      ¬ 28 ≤ payloadSize.toNat := by
    rw [UInt32.lt_iff_toNat_lt, Nat.not_le]
    rfl
  have hprotocol : TrafficGenerator.udpProtocol = Metal.Traffic.udpProtocol := rfl
  rw [kernelProtocol, h.protocol, hasUdp]
  cases shape.udp with
  | true =>
      by_cases hlong : 28 ≤ payloadSize.toNat
      · simp [hroom, hlong]
      · simp [hroom, hlong, hprotocol]
  | false => simp

/-- **The kernel's frame** is the generator's, in the frame's own place. -/
theorem generateFrames_spec {config : TrafficGeneratorConfig}
    (hsize : 14 ≤ config.frameSize.toNat) (hsmall : config.frameSize.toNat < 2 ^ 32)
    (first : UInt64) {count : UInt64} {index : UInt32} (hindex : index < count.toUInt32) :
    ∃ written, generateFrames (trafficKernelParameters config first count) index = some written ∧
      written.memory = (Writes.memory []).overlay (index.toNat * config.frameSize.toNat)
        (frameBytes config (first + index.toUInt64)) := by
  -- nothing wraps: a frame's size has 32 bits, and the offset of a frame has 64
  have hwidth : config.frameSize.toUInt32.toNat = config.frameSize.toNat := by
    rw [UInt64.toNat_toUInt32]
    exact Nat.mod_eq_of_lt hsmall
  have hpayload : (config.frameSize.toUInt32 - Metal.Traffic.ethernetHeaderSize).toNat =
      config.frameSize.toNat - 14 := by
    rw [UInt32.toNat_sub_of_le _ _ (by rw [UInt32.le_iff_toNat_le, hwidth]; exact hsize), hwidth]
    rfl
  have hframe : (index.toUInt64 * config.frameSize.toUInt32.toUInt64).toNat =
      index.toNat * config.frameSize.toNat := by
    have hindex := index.toNat_lt
    rw [UInt64.toNat_mul, UInt32.toNat_toUInt64, UInt32.toNat_toUInt64, hwidth]
    refine Nat.mod_eq_of_lt ?_
    calc index.toNat * config.frameSize.toNat < 2 ^ 32 * 2 ^ 32 :=
          Nat.mul_lt_mul_of_lt_of_lt hindex hsmall
      _ = 2 ^ 64 := rfl
  have hbytes : frameBytes config (first + index.toUInt64) =
      ethernetBytes (shapeOf config (first + index.toUInt64)) ++
        payloadBytes (shapeOf config (first + index.toUInt64)) (first + index.toUInt64)
          (firstDraw config (first + index.toUInt64)).2
          (config.frameSize.toUInt32 - Metal.Traffic.ethernetHeaderSize).toNat := by
    rw [frameBytes, hpayload]
  have hpayloadBound : (config.frameSize.toUInt32 - Metal.Traffic.ethernetHeaderSize).toNat + 8 <
      2 ^ 32 := by omega
  rw [generateFrames_eq hindex, hframe, hbytes]
  generalize first + index.toUInt64 = sequence
  have hplan : Plans (framePlan (trafficKernelParameters config first count)
      (frameScenario config sequence).code sequence (firstDraw config sequence).1)
      (firstDraw config sequence).1 (shapeOf config sequence) :=
    framePlan_plans _ rfl (frameScenario_ne_mixed config sequence) sequence _
  obtain ⟨filled, hfilled, hrandom⟩ := fillPayload_spec (firstDraw config sequence).2
    (index.toNat * config.frameSize.toNat + 14) [] hpayloadBound
  have hethernet := memory_kernelEthernet filled (index.toNat * config.frameSize.toNat) hplan
  rw [hrandom, Memory.overlay_before (by rw [length_ethernetBytes])] at hethernet
  rw [hfilled, Option.bind_some]
  generalize framePlan _ _ _ _ = plan at hplan hethernet ⊢
  generalize config.frameSize.toUInt32 - Metal.Traffic.ethernetHeaderSize = payloadSize
    at hethernet ⊢
  generalize shapeOf config sequence = shape at hplan hethernet ⊢
  have hroom : payloadSize < Metal.Traffic.ipv4MinimumHeaderSize ∨ ipv4MaximumTotalSize < payloadSize ↔
      payloadSize.toNat < 20 ∨ 65535 < payloadSize.toNat := by
    rw [UInt32.lt_iff_toNat_lt, UInt32.lt_iff_toNat_lt]
    rfl
  -- a frame with no room for the headers keeps its random payload
  by_cases hheaders : payloadSize.toNat < 20 ∨ 65535 < payloadSize.toNat
  · refine ⟨_, if_pos (hroom.mpr hheaders), ?_⟩
    rw [hethernet, payloadBytes, if_pos hheaders]
  · have hsize16 : payloadSize.toUInt64.toUInt16 = .ofNat payloadSize.toNat := by
      rw [UInt32.toUInt16_toUInt64]
      exact (UInt16.ofNat_uInt32ToNat payloadSize).symm
    have hlow := (not_or.mp hheaders).1
    have hrest : (payloadSize - Metal.Traffic.ipv4MinimumHeaderSize).toUInt16 =
        .ofNat (payloadSize.toNat - 20) := by
      rw [← UInt16.ofNat_uInt32ToNat, UInt32.toNat_sub_of_le _ _ (by
        rw [UInt32.le_iff_toNat_le]
        exact Nat.not_lt.mp hlow)]
      rfl
    rw [if_neg (mt hroom.mp hheaders), kernelProtocol_eq hplan, hplan.sourceHost,
      hplan.destinationHost, hplan.sourcePort, hplan.destinationPort,
      kernel_writeIpv4Header _ _ (UInt32.toUInt16_toUInt64 payloadSize)]
    obtain ⟨written, hwritten, hheader⟩ := writeIpv4Header_spec
      (kernelEthernet filled (index.toNat * config.frameSize.toNat) plan
        (firstDraw config sequence).1)
      (index.toNat * config.frameSize.toNat + 14) payloadSize.toUInt64 sequence.toUInt16
      (if hasUdp shape payloadSize.toNat then TrafficGenerator.udpProtocol else 0)
      shape.sourceHost shape.destinationHost
    rw [hsize16, hethernet] at hheader
    rw [hwritten, Option.bind_some]
    have hall := overlay_headers (Writes.memory []) (index.toNat * config.frameSize.toNat) shape
      sequence (firstDraw config sequence).2 hheaders
    cases hhas : hasUdp shape payloadSize.toNat with
    | true =>
        simp only [hhas, ↓reduceIte] at hheader hall ⊢
        refine ⟨_, if_neg (not_not.mpr rfl), ?_⟩
        rw [memory_kernelUdpHeader, hheader, hrest]
        exact hall
    | false =>
        simp only [hhas, Bool.false_eq_true, ↓reduceIte] at hheader hall ⊢
        exact ⟨written, if_pos (by decide), hheader.trans hall⟩

end

end Traffic
end WireLab
