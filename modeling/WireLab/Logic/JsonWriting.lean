import WireLab.Base.JsonText
import WireLab.Model.ControlJsonWriter

/-!
# What the writer writes

The serialisers build every message from strings, numerals, truth values and
objects. Each of these is a text of the value it was made from: a string is
spelled with escapes (`jsonString_text`), an object lists its members
(`jsonObject_text`).
-/

namespace WireLab

open Base Base.Json

/-- The two digits of a control character. -/
private theorem hex4_hexByte :
    ∀ n < 0x20, hex4 0x30 0x30 (hexOf (UInt8.ofNat n / 16)) (hexOf (UInt8.ofNat n % 16)) =
      some n := by decide

private theorem utf8EncodeChar_ascii {character : Char} (h : character.toNat < 0x80) :
    String.utf8EncodeChar character = [UInt8.ofNat character.toNat] := by
  have hval : character.val.toNat = character.toNat := rfl
  unfold String.utf8EncodeChar
  simp only [hval]
  exact if_pos (by omega)

/-- One byte of a string, escaped or as it is. -/
theorem jsonCharacter_spells (c : UInt8) {value text : Bytes} (h : Spells value text) :
    Spells (c :: value) (jsonCharacter c ++ text) := by
  unfold jsonCharacter
  -- Seven bytes have an escape of one letter.
  iterate 7
    split
    · next hc =>
        subst hc
        exact .short (by decide) h
  split
  · next hcontrol =>
      -- A control character without a letter of its own is written by its code.
      have hlow : c.toNat < 0x20 := UInt8.lt_iff_toNat_lt.mp hcontrol
      obtain ⟨character, hcharacter⟩ := exists_char (n := c.toNat) (by omega) (by omega)
      have hencoded : String.utf8EncodeChar character = [c] := by
        rw [utf8EncodeChar_ascii (by omega), hcharacter, UInt8.ofNat_toNat]
      have hhex := hex4_hexByte c.toNat hlow
      rw [UInt8.ofNat_toNat, ← hcharacter] at hhex
      have hcode := Spells.code hhex h
      rw [hencoded] at hcode
      exact hcode
  · next hquote hbackslash _ _ _ _ _ hcontrol =>
      refine .plain ?_ h
      simp only [isPlain, Bool.and_eq_true, decide_eq_true_eq]
      exact ⟨⟨UInt8.not_lt.mp hcontrol, hquote⟩, hbackslash⟩

/-- **A written string is a spelling of its value**, whatever bytes it holds. -/
theorem jsonString_spells (value : Bytes) : Spells value (value.flatMap jsonCharacter) := by
  induction value with
  | nil => exact .nil
  | cons c value ih => exact jsonCharacter_spells c ih

theorem jsonString_text (value : Bytes) : StringText value (jsonString value) :=
  ⟨_, jsonString_spells value, rfl⟩

theorem jsonBool_text (value : Bool) : BoolText value (jsonBool value) := rfl

section
variable {α : Type} {members : Members α}

/-- A member as the writer writes it: its name, and a text of its value. -/
def WritesMember (members : Members α) (a : α) (member : String × Bytes) : Prop :=
  members.name a = bytes member.1 ∧ members.Reads a member.2

theorem jsonMember_text {a : α} {member : String × Bytes} (h : WritesMember members a member) :
    MemberText members a (jsonMember member) := by
  have hkey : Spells (members.name a) ((bytes member.1).flatMap jsonCharacter) :=
    h.1 ▸ jsonString_spells _
  have htext := MemberText.mk blank_nil hkey blank_nil blank_nil h.2 blank_nil
  simpa only [jsonMember, jsonString, List.nil_append, List.append_nil, List.append_assoc,
    List.cons_append] using htext

private theorem intercalate_text {a : α} {rest : List α} {member : String × Bytes}
    {written : List (String × Bytes)} (ha : WritesMember members a member)
    (hrest : List.Forall₂ (WritesMember members) rest written) :
    MembersText members (a :: rest)
      ([comma].intercalate ((member :: written).map jsonMember)) := by
  induction hrest generalizing a member with
  | nil =>
      rw [List.map_cons, List.map_nil, List.intercalate_singleton]
      exact .one (jsonMember_text ha)
  | cons hb _ ih =>
      have hmore := MembersText.more (jsonMember_text ha) (ih hb)
      simpa only [List.map_cons, List.intercalate_cons_cons, List.append_assoc, List.cons_append,
        List.nil_append] using hmore

/-- **A written object lists its members.** -/
theorem jsonObject_text {all : List α} {written : List (String × Bytes)}
    (h : List.Forall₂ (WritesMember members) all written) :
    ObjectText members all (jsonObject written) := by
  cases h with
  | nil => exact .empty blank_nil
  | cons ha hrest => exact .filled (intercalate_text ha hrest)

end
end WireLab
