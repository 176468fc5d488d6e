import WireLab.Base.Bytes

/-!
# What a JSON text says

The texts that stand for a value, token by token, as relations between the value
and the text: a string may be spelled with any mixture of raw bytes and escapes
(`Spells`), a number with its digits (`Numeral`), an object as its members in some
order with blanks between the tokens (`ObjectText`). What a member is, is the
caller's: `Members` names the members and says how each value reads.
-/

namespace Base.Json

abbrev quote : UInt8 := 0x22
abbrev backslash : UInt8 := 0x5C
abbrev comma : UInt8 := 0x2C
abbrev openBrace : UInt8 := 0x7B
abbrev closeBrace : UInt8 := 0x7D

/-! ## Blanks -/

def isSpace (c : UInt8) : Bool := c = 0x20 || c = 0x0A || c = 0x0D || c = 0x09

/-- White space, or nothing. -/
def Blank (w : Bytes) : Prop := ∀ c ∈ w, isSpace c = true

theorem blank_nil : Blank [] := fun _ h => absurd h List.not_mem_nil

theorem Blank.append {v w : Bytes} (hv : Blank v) (hw : Blank w) : Blank (v ++ w) :=
  fun c hc => (List.mem_append.mp hc).elim (hv c) (hw c)

/-! ## Strings -/

/-- The value of a hexadecimal digit. -/
def hexValue (c : UInt8) : Option Nat :=
  if 0x30 ≤ c ∧ c ≤ 0x39 then some (c.toNat - 0x30)
  else if 0x61 ≤ c ∧ c ≤ 0x66 then some (c.toNat - 0x61 + 10)
  else if 0x41 ≤ c ∧ c ≤ 0x46 then some (c.toNat - 0x41 + 10)
  else none

/-- The value of four hexadecimal digits. -/
def hex4 (a b c d : UInt8) : Option Nat := do
  let a ← hexValue a
  let b ← hexValue b
  let c ← hexValue c
  let d ← hexValue d
  return ((a * 16 + b) * 16 + c) * 16 + d

theorem hexValue_lt {c : UInt8} {n : Nat} (h : hexValue c = some n) : n < 16 := by
  unfold hexValue at h
  split at h
  · next hrange =>
      have hhigh : c.toNat ≤ 0x39 := UInt8.le_iff_toNat_le.mp hrange.2
      have := Option.some.inj h
      omega
  · split at h
    · next hrange =>
        have hhigh : c.toNat ≤ 0x66 := UInt8.le_iff_toNat_le.mp hrange.2
        have := Option.some.inj h
        omega
    · split at h
      · next hrange =>
          have hhigh : c.toNat ≤ 0x46 := UInt8.le_iff_toNat_le.mp hrange.2
          have := Option.some.inj h
          omega
      · exact absurd h (by simp)

theorem hex4_lt {a b c d : UInt8} {n : Nat} (h : hex4 a b c d = some n) : n < 0x10000 := by
  simp only [hex4, bind, pure, Option.bind_eq_some_iff, Option.some.injEq] at h
  obtain ⟨i, hi, j, hj, k, hk, l, hl, rfl⟩ := h
  have := hexValue_lt hi
  have := hexValue_lt hj
  have := hexValue_lt hk
  have := hexValue_lt hl
  omega

/-- The escapes of one letter, with what they stand for. -/
def shortEscapes : List (UInt8 × UInt8) :=
  [(0x22, 0x22), (0x5C, 0x5C), (0x2F, 0x2F), (0x62, 0x08), (0x66, 0x0C), (0x6E, 0x0A),
    (0x72, 0x0D), (0x74, 0x09)]

/-- A byte that may stand for itself. -/
def isPlain (c : UInt8) : Bool := 0x20 ≤ c && c ≠ quote && c ≠ backslash

def isHigh (n : Nat) : Bool := 0xD800 ≤ n && n ≤ 0xDBFF
def isLow (n : Nat) : Bool := 0xDC00 ≤ n && n ≤ 0xDFFF

/-- A number that is no half of a pair is a character. -/
theorem exists_char {n : Nat} (hbound : n < 0x110000) (hsurrogate : n < 0xD800 ∨ 0xDFFF < n) :
    ∃ character : Char, character.toNat = n := by
  refine ⟨Char.ofNat n, ?_⟩
  have hvalid : n.isValidChar := by
    unfold Nat.isValidChar
    omega
  rw [Char.toNat_ofNat, if_pos]
  exact hvalid

/-- `Spells value text`: between quotes, `text` is a spelling of `value`. A `\u`
escape stands for a character, in UTF-8; one beyond the first plane takes a pair. -/
inductive Spells : Bytes → Bytes → Prop
  | nil : Spells [] []
  | plain {c : UInt8} {value text : Bytes} (hc : isPlain c = true) (h : Spells value text) :
      Spells (c :: value) (c :: text)
  | short {e c : UInt8} {value text : Bytes} (he : (e, c) ∈ shortEscapes) (h : Spells value text) :
      Spells (c :: value) (backslash :: e :: text)
  | code {a b c d : UInt8} {character : Char} {value text : Bytes}
      (hhex : hex4 a b c d = some character.toNat) (h : Spells value text) :
      Spells (String.utf8EncodeChar character ++ value)
        (backslash :: 0x75 :: a :: b :: c :: d :: text)
  | pair {a b c d e f g i : UInt8} {high low : Nat} {character : Char} {value text : Bytes}
      (hhigh : hex4 a b c d = some high) (hlow : hex4 e f g i = some low)
      (hranges : isHigh high && isLow low)
      (hcharacter : character.toNat = 0x10000 + (high - 0xD800) * 1024 + (low - 0xDC00))
      (h : Spells value text) :
      Spells (String.utf8EncodeChar character ++ value)
        (backslash :: 0x75 :: a :: b :: c :: d :: backslash :: 0x75 :: e :: f :: g :: i :: text)

/-- A string between its quotes. -/
def StringText (value text : Bytes) : Prop :=
  ∃ body, Spells value body ∧ text = quote :: (body ++ [quote])

/-! ## Truth values and numbers -/

/-- A truth value. -/
def BoolText (value : Bool) (text : Bytes) : Prop :=
  text = if value then bytes "true" else bytes "false"

/-- `Numeral n text`: `text` is some digits, and their value is `n`. -/
def Numeral (n : Nat) (text : Bytes) : Prop :=
  text ≠ [] ∧ (∀ c ∈ text, isDigit c = true) ∧ digitsFrom 0 text = n

/-- No digit comes first. -/
def NoDigit (text : Bytes) : Prop := ∀ c, text.head? = some c → isDigit c = false

theorem le_digitsFrom (value : Nat) (digits : Bytes) : value ≤ digitsFrom value digits := by
  induction digits generalizing value with
  | nil => exact le_rfl
  | cons c digits ih =>
      have hlater := ih (value * 10 + (c.toNat - 0x30))
      simp only [digitsFrom, List.foldl_cons] at hlater ⊢
      omega

/-- A numeral says its number. -/
theorem decimal_numeral (n : Nat) : Numeral n (decimal n) :=
  ⟨decimal_ne_nil n, fun _ => isDigit_of_mem_decimal, digitsFrom_decimal n⟩

/-! ## Objects -/

/-- What the members of an object are: the name of each, and the texts that say
its value. -/
structure Members (α : Type) where
  name : α → Bytes
  Reads : α → Bytes → Prop

section
variable {α : Type} (members : Members α)

/-- A member as text, with blanks around each token. -/
inductive MemberText : α → Bytes → Prop
  | mk {a : α} {before key afterKey beforeValue value after : Bytes} (hbefore : Blank before)
      (hkey : Spells (members.name a) key) (hafterKey : Blank afterKey)
      (hbeforeValue : Blank beforeValue) (hvalue : members.Reads a value) (hafter : Blank after) :
      MemberText a (before ++ quote :: (key ++ quote :: (afterKey ++ colon ::
        (beforeValue ++ (value ++ after)))))

/-- Members with commas between them. -/
inductive MembersText : List α → Bytes → Prop
  | one {a : α} {text : Bytes} (h : MemberText members a text) : MembersText [a] text
  | more {a : α} {rest : List α} {text texts : Bytes} (h : MemberText members a text)
      (hrest : MembersText rest texts) : MembersText (a :: rest) (text ++ comma :: texts)

/-- An object and its members. -/
inductive ObjectText : List α → Bytes → Prop
  | empty {blank : Bytes} (h : Blank blank) : ObjectText [] (openBrace :: (blank ++ [closeBrace]))
  | filled {all : List α} {body : Bytes} (h : MembersText members all body) :
      ObjectText all (openBrace :: (body ++ [closeBrace]))

variable {members}

/-- The first token of a member is a quote. -/
theorem MemberText.starts {a : α} {text : Bytes} (h : MemberText members a text) :
    ∃ w later, Blank w ∧ text = w ++ quote :: later := by
  cases h with
  | mk hbefore _ _ _ _ _ => exact ⟨_, _, hbefore, rfl⟩

/-- The first token of the members is a quote. -/
theorem MembersText.starts {all : List α} {body : Bytes} (h : MembersText members all body) :
    ∃ w later, Blank w ∧ body = w ++ quote :: later := by
  cases h with
  | one h => exact h.starts
  | @more _ _ text texts h _ =>
      obtain ⟨w, later, hw, rfl⟩ := h.starts
      refine ⟨w, later ++ comma :: texts, hw, ?_⟩
      rw [List.append_assoc, List.cons_append]

/-- A member is not empty. -/
theorem MembersText.length_le {all : List α} {body : Bytes} (h : MembersText members all body) :
    all.length ≤ body.length := by
  have hmember : ∀ {a : α} {text : Bytes}, MemberText members a text → 1 ≤ text.length := by
    intro a text h
    obtain ⟨w, later, _, rfl⟩ := h.starts
    simp only [List.length_append, List.length_cons]
    omega
  induction h with
  | one h => exact hmember h
  | more h _ ih =>
      have := hmember h
      simp only [List.length_append, List.length_cons]
      omega

/-! ### Reading the same members otherwise -/

section
variable {other : Members α} {all : List α} {text : Bytes}

/-- A member is a member wherever its name is the same and its value reads. -/
theorem MemberText.mono {a : α} (hname : other.name a = members.name a)
    (hreads : ∀ value, members.Reads a value → other.Reads a value)
    (h : MemberText members a text) : MemberText other a text := by
  cases h with
  | mk hbefore hkey hafterKey hbeforeValue hvalue hafter =>
      exact .mk hbefore (hname.symm ▸ hkey) hafterKey hbeforeValue (hreads _ hvalue) hafter

theorem MembersText.mono (hname : ∀ a, other.name a = members.name a)
    (hreads : ∀ a ∈ all, ∀ value, members.Reads a value → other.Reads a value)
    (h : MembersText members all text) : MembersText other all text := by
  induction h with
  | one h => exact .one (h.mono (hname _) (hreads _ List.mem_cons_self))
  | more h _ ih =>
      exact .more (h.mono (hname _) (hreads _ List.mem_cons_self))
        (ih fun a ha => hreads a (List.mem_cons_of_mem _ ha))

theorem ObjectText.mono (hname : ∀ a, other.name a = members.name a)
    (hreads : ∀ a ∈ all, ∀ value, members.Reads a value → other.Reads a value)
    (h : ObjectText members all text) : ObjectText other all text := by
  cases h with
  | empty hblank => exact .empty hblank
  | filled h => exact .filled (h.mono hname hreads)

/-- What is listed is read from some text. -/
theorem ObjectText.reads (h : ObjectText members all text) :
    ∀ a ∈ all, ∃ value, members.Reads a value := by
  cases h with
  | empty => exact fun a ha => absurd ha (by simp)
  | filled h =>
      induction h with
      | one h =>
          intro a ha
          obtain rfl := List.mem_singleton.mp ha
          cases h with
          | mk _ _ _ _ hvalue _ => exact ⟨_, hvalue⟩
      | more h _ ih =>
          intro a ha
          rcases List.mem_cons.mp ha with rfl | hrest
          · cases h with
            | mk _ _ _ _ hvalue _ => exact ⟨_, hvalue⟩
          · exact ih a hrest

end

end

end Base.Json
