import WireLab.Base.Bytes

/-!
# Checked memory

A program that reads through pointers reads a memory: the byte at each address, if
there is one. A read of anything else has no result, and neither has what follows
it. `Shows` says that some bytes lie in a memory from an address on.

A program that writes leaves a list of writes, in which it reads what it has written
itself (`Writes.memory`). Writes in a row, over each other or next to each other make
one `overlay`.
-/

namespace Base

/-- The byte at each address, where one may be read. -/
abbrev Memory := Nat → Option UInt8

namespace Memory

/-- Some bytes and nothing else, from address zero on. -/
def ofBytes (bytes : Bytes) : Memory := fun address => bytes[address]?

/-- From the address `start` on, the memory holds these bytes. -/
def Shows (memory : Memory) (start : Nat) (bytes : Bytes) : Prop :=
  ∀ k, k < bytes.length → memory (start + k) = bytes[k]?

theorem shows_ofBytes (bytes : Bytes) : (ofBytes bytes).Shows 0 bytes := by
  intro k _
  rw [Nat.zero_add, ofBytes]

/-- Bytes between others. -/
theorem shows_append (before bytes after : Bytes) :
    (ofBytes (before ++ (bytes ++ after))).Shows before.length bytes := by
  intro k hk
  rw [ofBytes, List.getElem?_append_right (Nat.le_add_right _ _), Nat.add_sub_cancel_left,
    List.getElem?_append_left hk]

/-- The part of the memory from the address `start` on and before `stop`. -/
def within (memory : Memory) (start stop : Nat) : Memory := fun address =>
  if start ≤ address ∧ address < stop then memory address else none

/-- Bytes are in the part where they lie. -/
theorem shows_within {memory : Memory} {start stop : Nat} {bytes : Bytes}
    (h : memory.Shows start bytes) (hstop : start + bytes.length ≤ stop) :
    (memory.within start stop).Shows start bytes := by
  intro k hk
  rw [within, if_pos (by omega), h k hk]

/-! ## Writing -/

/-- The memory with some bytes written over it from the address `start` on. -/
def overlay (memory : Memory) (start : Nat) (bytes : Bytes) : Memory := fun address =>
  if start ≤ address ∧ address < start + bytes.length then bytes[address - start]?
  else memory address

variable {memory : Memory} {start next : Nat} {first second : Bytes}

theorem overlay_inside {address : Nat} (hstart : start ≤ address)
    (hend : address < start + first.length) :
    memory.overlay start first address = first[address - start]? :=
  if_pos ⟨hstart, hend⟩

theorem overlay_outside {address : Nat} (h : address < start ∨ start + first.length ≤ address) :
    memory.overlay start first address = memory address :=
  if_neg (by omega)

theorem shows_overlay (memory : Memory) (start : Nat) (bytes : Bytes) :
    (memory.overlay start bytes).Shows start bytes := by
  intro k hk
  rw [overlay_inside (Nat.le_add_right _ _) (by omega), Nat.add_sub_cancel_left]

/-- Bytes written behind others. -/
theorem overlay_behind (h : next = start + first.length) :
    (memory.overlay start first).overlay next second = memory.overlay start (first ++ second) := by
  funext address
  by_cases hsecond : next ≤ address ∧ address < next + second.length
  · rw [overlay_inside hsecond.1 hsecond.2,
      overlay_inside (by omega) (by rw [List.length_append]; omega),
      List.getElem?_append_right (by omega)]
    congr 1
    omega
  · rw [overlay_outside (by omega)]
    by_cases hfirst : start ≤ address ∧ address < start + first.length
    · rw [overlay_inside hfirst.1 hfirst.2,
        overlay_inside hfirst.1 (by rw [List.length_append]; omega),
        List.getElem?_append_left (by omega)]
    · rw [overlay_outside (by omega), overlay_outside (by rw [List.length_append]; omega)]

/-- Bytes written before others. -/
theorem overlay_before (h : next = start + first.length) :
    (memory.overlay next second).overlay start first = memory.overlay start (first ++ second) := by
  funext address
  by_cases hfirst : start ≤ address ∧ address < start + first.length
  · rw [overlay_inside hfirst.1 hfirst.2,
      overlay_inside hfirst.1 (by rw [List.length_append]; omega),
      List.getElem?_append_left (by omega)]
  · rw [overlay_outside (by omega)]
    by_cases hsecond : next ≤ address ∧ address < next + second.length
    · rw [overlay_inside hsecond.1 hsecond.2,
        overlay_inside (by omega) (by rw [List.length_append]; omega),
        List.getElem?_append_right (by omega)]
      congr 1
      omega
    · rw [overlay_outside (by omega), overlay_outside (by rw [List.length_append]; omega)]

/-- Bytes written over as many others. -/
theorem overlay_within {middle third : Bytes} (h : next = start + first.length)
    (hlength : middle.length = second.length) :
    (memory.overlay start (first ++ (middle ++ third))).overlay next second =
      memory.overlay start (first ++ (second ++ third)) := by
  funext address
  by_cases hsecond : next ≤ address ∧ address < next + second.length
  · rw [overlay_inside hsecond.1 hsecond.2,
      overlay_inside (by omega) (by simp only [List.length_append]; omega),
      List.getElem?_append_right (by omega), List.getElem?_append_left (by omega)]
    congr 1
    omega
  · rw [overlay_outside (by omega)]
    by_cases hall : start ≤ address ∧
        address < start + (first ++ (second ++ third)).length
    · have hall' := hall
      simp only [List.length_append] at hall'
      rw [overlay_inside hall.1 (by simp only [List.length_append]; omega),
        overlay_inside hall.1 hall.2]
      by_cases hfirst : address < next
      · rw [List.getElem?_append_left (by omega), List.getElem?_append_left (by omega)]
      · rw [List.getElem?_append_right (by omega), List.getElem?_append_right (by omega),
          List.getElem?_append_right (by omega), List.getElem?_append_right (by omega), hlength]
    · have hall' := hall
      simp only [List.length_append] at hall'
      rw [overlay_outside (by simp only [List.length_append]; omega),
        overlay_outside (by simp only [List.length_append]; omega)]

/-- Bytes written over the first ones of others. -/
theorem overlay_over {bytes : Bytes} (h : next = start + first.length)
    (hlength : second.length ≤ bytes.length) :
    (memory.overlay start (first ++ bytes)).overlay next second =
      memory.overlay start (first ++ (second ++ bytes.drop second.length)) := by
  have hbytes : bytes = bytes.take second.length ++ bytes.drop second.length :=
    (List.take_append_drop _ _).symm
  rw [congrArg (fun rest => memory.overlay start (first ++ rest)) hbytes,
    overlay_within h (by rw [List.length_take]; omega)]

end Memory

/-! ## Programs that write -/

/-- What a program has written, the last write first. -/
abbrev Writes := List (Nat × UInt8)

namespace Writes

/-- What the program reads back. -/
def memory (writes : Writes) : Memory := fun address => writes.lookup address

def write (writes : Writes) (address : Nat) (byte : UInt8) : Writes := (address, byte) :: writes

/-- Bytes copied to an address. -/
def copy (writes : Writes) (address : Nat) : Bytes → Writes
  | [] => writes
  | byte :: rest => (writes.write address byte).copy (address + 1) rest

theorem memory_write (writes : Writes) (address : Nat) (byte : UInt8) :
    (writes.write address byte).memory = writes.memory.overlay address [byte] := by
  funext other
  by_cases hother : other = address
  · subst hother
    rw [Memory.overlay_inside (Nat.le_refl _) (by simp), Nat.sub_self]
    simp only [memory, write, List.lookup_cons, beq_self_eq_true]
    rfl
  · rw [Memory.overlay_outside (by simp only [List.length_singleton]; omega)]
    simp only [memory, write, List.lookup_cons, beq_eq_false_iff_ne.mpr hother]

theorem memory_copy (writes : Writes) (address : Nat) (bytes : Bytes) :
    (writes.copy address bytes).memory = writes.memory.overlay address bytes := by
  induction bytes generalizing writes address with
  | nil =>
      funext other
      rw [copy, Memory.overlay_outside (by simp only [List.length_nil]; omega)]
  | cons byte rest ih =>
      have hbehind : address + 1 = address + [byte].length := rfl
      rw [copy, ih, memory_write, Memory.overlay_behind hbehind, List.singleton_append]

/-- What was written can be read. -/
theorem memory_of_mem {writes : Writes} {write : Nat × UInt8} (h : write ∈ writes) :
    writes.memory write.1 ≠ none := by
  intro hnone
  rw [memory, List.lookup_eq_none_iff] at hnone
  exact absurd (hnone write h) (by simp)

/-- What can be read was written. -/
theorem mem_of_memory {writes : Writes} {address : Nat} (h : writes.memory address ≠ none) :
    ∃ byte, (address, byte) ∈ writes := by
  by_contra hnever
  refine h ?_
  rw [memory, List.lookup_eq_none_iff]
  rintro ⟨other, byte⟩ hmem
  rw [bne_iff_ne]
  rintro rfl
  exact hnever ⟨byte, hmem⟩

/-- Bytes that were laid over nothing are all that was written. -/
theorem mem_iff_of_overlay {writes : Writes} {start : Nat} {bytes : Bytes}
    (h : writes.memory = (memory []).overlay start bytes) (address : Nat) :
    (∃ byte, (address, byte) ∈ writes) ↔ start ≤ address ∧ address < start + bytes.length := by
  constructor
  · intro ⟨byte, hmem⟩
    by_contra houtside
    refine memory_of_mem hmem ?_
    rw [h, Memory.overlay_outside (by omega)]
    rfl
  · intro ⟨hstart, hend⟩
    refine mem_of_memory ?_
    rw [h, Memory.overlay_inside hstart hend, List.getElem?_eq_getElem (by omega)]
    exact Option.some_ne_none _

end Writes
end Base
