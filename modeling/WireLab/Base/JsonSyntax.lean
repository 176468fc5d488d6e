import WireLab.Base.JsonText

/-!
# The syntax of JSON

Which texts are JSON, whatever they say: `JsonText part text`, byte by byte. An
object whose members read as `JsonText` does not ask for more is JSON as well,
but for its numerals, which may begin with zeros that JSON does not allow. A scan
from left to right (`scan`) finds those: it gets through every text that is JSON
(`JsonText.scan`), and an object it gets through is JSON (`ObjectText.json`).
-/

namespace Base.Json

abbrev openBracket : UInt8 := 0x5B
abbrev closeBracket : UInt8 := 0x5D

/-! ## The grammar -/

/-- What may stand between the quotes of a string. -/
inductive StringBody : Bytes → Prop
  | nil : StringBody []
  | plain {c : UInt8} {text : Bytes} (hc : isPlain c = true) (h : StringBody text) :
      StringBody (c :: text)
  | short {e c : UInt8} {text : Bytes} (he : (e, c) ∈ shortEscapes) (h : StringBody text) :
      StringBody (backslash :: e :: text)
  | code {a b c d : UInt8} {n : Nat} {text : Bytes} (hhex : hex4 a b c d = some n)
      (h : StringBody text) : StringBody (backslash :: 0x75 :: a :: b :: c :: d :: text)

def Digits (text : Bytes) : Prop := text ≠ [] ∧ ∀ c ∈ text, isDigit c = true

/-- Zero, or digits of which the first is not zero. -/
def IntegerText (text : Bytes) : Prop := Digits text ∧ (text.head? = some 0x30 → text = [0x30])

def FractionText (text : Bytes) : Prop := text = [] ∨ ∃ digits, Digits digits ∧ text = 0x2E :: digits

def ExponentText (text : Bytes) : Prop :=
  text = [] ∨ ∃ e sign digits, (e = 0x65 ∨ e = 0x45) ∧ sign ∈ [[], [0x2B], [0x2D]] ∧
    Digits digits ∧ text = e :: (sign ++ digits)

/-- A number: a sign, an integer, a fraction and an exponent. -/
def NumberText (text : Bytes) : Prop :=
  ∃ sign integer fraction exponent, sign ∈ [[], [0x2D]] ∧ IntegerText integer ∧
    FractionText fraction ∧ ExponentText exponent ∧
    text = sign ++ (integer ++ (fraction ++ exponent))

/-- The parts of a text that are made of one another. -/
inductive Part
  | value
  | element
  | elements
  | member
  | members

/-- The texts that are JSON. -/
inductive JsonText : Part → Bytes → Prop
  | literal {text : Bytes} (h : text ∈ [bytes "true", bytes "false", bytes "null"]) :
      JsonText .value text
  | number {text : Bytes} (h : NumberText text) : JsonText .value text
  | string {body : Bytes} (h : StringBody body) : JsonText .value (quote :: (body ++ [quote]))
  | emptyArray {blank : Bytes} (h : Blank blank) :
      JsonText .value (openBracket :: (blank ++ [closeBracket]))
  | array {body : Bytes} (h : JsonText .elements body) :
      JsonText .value (openBracket :: (body ++ [closeBracket]))
  | emptyObject {blank : Bytes} (h : Blank blank) :
      JsonText .value (openBrace :: (blank ++ [closeBrace]))
  | object {body : Bytes} (h : JsonText .members body) :
      JsonText .value (openBrace :: (body ++ [closeBrace]))
  | element {before value after : Bytes} (hbefore : Blank before) (hvalue : JsonText .value value)
      (hafter : Blank after) : JsonText .element (before ++ (value ++ after))
  | oneElement {text : Bytes} (h : JsonText .element text) : JsonText .elements text
  | moreElements {text texts : Bytes} (h : JsonText .element text)
      (hrest : JsonText .elements texts) : JsonText .elements (text ++ comma :: texts)
  | member {before key afterKey value : Bytes} (hbefore : Blank before) (hkey : StringBody key)
      (hafterKey : Blank afterKey) (hvalue : JsonText .element value) :
      JsonText .member (before ++ quote :: (key ++ quote :: (afterKey ++ colon :: value)))
  | oneMember {text : Bytes} (h : JsonText .member text) : JsonText .members text
  | moreMembers {text texts : Bytes} (h : JsonText .member text)
      (hrest : JsonText .members texts) : JsonText .members (text ++ comma :: texts)

/-- An object, with blanks around it. -/
def JsonObject (text : Bytes) : Prop :=
  ∃ before object after, Blank before ∧ Blank after ∧ JsonText .value object ∧
    object.head? = some openBrace ∧ text = before ++ (object ++ after)

/-! ## The scan -/

/-- Where in a text a scan is. -/
inductive Place
  | outside
  | string
  | escape
  | zero
  | digits
  deriving DecidableEq, Repr

/-- Outside of strings and numbers. -/
def Place.enter (c : UInt8) : Place :=
  if c = quote then .string
  else if c = 0x30 then .zero
  else if isDigit c then .digits
  else .outside

/-- What a number has besides digits, after the first of them. -/
def inNumber (c : UInt8) : Bool :=
  c = 0x2E || c = 0x65 || c = 0x45 || c = 0x2B || c = 0x2D

/-- One byte further; a digit after a leading zero is too many. -/
def Place.next : Place → UInt8 → Option Place
  | .outside, c => some (.enter c)
  | .string, c =>
      if c = quote then some .outside else if c = backslash then some .escape else some .string
  | .escape, _ => some .string
  | .zero, c => if isDigit c then none else if inNumber c then some .digits else some (.enter c)
  | .digits, c => if isDigit c || inNumber c then some .digits else some (.enter c)

def scan (place : Place) (text : Bytes) : Option Place := text.foldlM Place.next place

/-- No number of the text begins with a zero that another digit follows. -/
def NoSuperfluousZero (text : Bytes) : Prop := (scan .outside text).isSome = true

instance (text : Bytes) : Decidable (NoSuperfluousZero text) :=
  inferInstanceAs (Decidable (_ = true))

@[simp] theorem scan_nil (place : Place) : scan place [] = some place := rfl

theorem scan_cons (place : Place) (c : UInt8) (text : Bytes) :
    scan place (c :: text) = (place.next c).bind fun place => scan place text := rfl

theorem scan_append (place : Place) (text texts : Bytes) :
    scan place (text ++ texts) = (scan place text).bind fun place => scan place texts :=
  List.foldlM_append

/-- In no string. -/
def Settled (place : Place) : Prop := place ≠ .string ∧ place ≠ .escape

/-- A byte that ends a number and begins nothing. -/
def isDelimiter (c : UInt8) : Bool :=
  isSpace c || c = comma || c = colon || c = openBrace || c = closeBrace || c = openBracket ||
    c = closeBracket

private theorem delimiter_facts {c : UInt8} (hc : isDelimiter c = true) :
    isDigit c = false ∧ inNumber c = false ∧ Place.enter c = .outside := by
  simp only [isDelimiter, isSpace, Bool.or_eq_true, decide_eq_true_eq, or_assoc] at hc
  rcases hc with rfl | rfl | rfl | rfl | rfl | rfl | rfl | rfl | rfl | rfl <;>
    exact ⟨rfl, rfl, rfl⟩

/-- After a delimiter a scan is outside. -/
theorem next_delimiter {place : Place} (hplace : Settled place) {c : UInt8}
    (hc : isDelimiter c = true) : place.next c = some .outside := by
  obtain ⟨hdigit, hnumber, henter⟩ := delimiter_facts hc
  cases place with
  | outside => simp only [Place.next, henter]
  | string => exact absurd rfl hplace.1
  | escape => exact absurd rfl hplace.2
  | zero => simp only [Place.next, hdigit, hnumber, henter, Bool.false_eq_true, if_false]
  | digits =>
      simp only [Place.next, hdigit, hnumber, henter, Bool.or_false, Bool.false_eq_true, if_false]

theorem scan_delimiter {place : Place} (hplace : Settled place) {c : UInt8}
    (hc : isDelimiter c = true) (text : Bytes) :
    scan place (c :: text) = scan .outside text := by
  rw [scan_cons, next_delimiter hplace hc, Option.bind_some]

theorem settled_outside : Settled .outside := ⟨by decide, by decide⟩

private theorem blank_delimiter {w : Bytes} (hw : Blank w) {c : UInt8} (hc : c ∈ w) :
    isDelimiter c = true := by
  simp only [isDelimiter, hw c hc, Bool.true_or]

/-- Blanks lead from outside to outside. -/
theorem scan_blank {w : Bytes} (hw : Blank w) (text : Bytes) :
    scan .outside (w ++ text) = scan .outside text := by
  induction w with
  | nil => rfl
  | cons c w ih =>
      rw [List.cons_append, scan_delimiter settled_outside (blank_delimiter hw List.mem_cons_self)]
      exact ih fun d hd => hw d (List.mem_cons_of_mem _ hd)

/-- Blanks after a value and a delimiter after these. -/
theorem scan_blank_delimiter {place : Place} (hplace : Settled place) {w : Bytes} (hw : Blank w)
    {c : UInt8} (hc : isDelimiter c = true) (text : Bytes) :
    scan place (w ++ c :: text) = scan .outside text := by
  cases w with
  | nil => exact scan_delimiter hplace hc text
  | cons d w =>
      rw [List.cons_append, scan_delimiter hplace (blank_delimiter hw List.mem_cons_self),
        scan_blank (fun e he => hw e (List.mem_cons_of_mem _ he)),
        scan_delimiter settled_outside hc]

/-- Blanks after a value leave a scan settled. -/
theorem scan_settled_blank {place : Place} (hplace : Settled place) {w : Bytes} (hw : Blank w) :
    ∃ place', Settled place' ∧ scan place w = some place' := by
  cases w with
  | nil => exact ⟨place, hplace, rfl⟩
  | cons d w =>
      refine ⟨.outside, settled_outside, ?_⟩
      rw [scan_delimiter hplace (blank_delimiter hw List.mem_cons_self), ← List.append_nil w,
        scan_blank (fun e he => hw e (List.mem_cons_of_mem _ he)), scan_nil]

/-- The inside of a string leads back into it. -/
private theorem scan_body {text : Bytes} (h : StringBody text) (rest : Bytes) :
    scan .string (text ++ rest) = scan .string rest := by
  have hother {c : UInt8} (hquote : c ≠ quote) (hbackslash : c ≠ backslash) (rest : Bytes) :
      scan .string (c :: rest) = scan .string rest := by
    simp only [scan_cons, Place.next, if_neg hquote, if_neg hbackslash, Option.bind_some]
  have hescaped (e : UInt8) (rest : Bytes) :
      scan .string (backslash :: e :: rest) = scan .string rest := rfl
  induction h with
  | nil => rfl
  | plain hc _ ih =>
      simp only [isPlain, Bool.and_eq_true, decide_eq_true_eq] at hc
      rw [List.cons_append, hother hc.1.2 hc.2, ih]
  | short _ _ ih => rw [List.cons_append, List.cons_append, hescaped, ih]
  | @code a b c d n text hhex _ ih =>
      have hhexadecimal {c : UInt8} {n : Nat} (h : hexValue c = some n) :
          c ≠ quote ∧ c ≠ backslash := by
        constructor
        · rintro rfl
          exact absurd (show none = some n from h) (by simp)
        · rintro rfl
          exact absurd (show none = some n from h) (by simp)
      simp only [hex4, bind, pure, Option.bind_eq_some_iff] at hhex
      obtain ⟨i, hi, j, hj, k, hk, l, hl, _⟩ := hhex
      simp only [List.cons_append]
      rw [hescaped, hother (hhexadecimal hi).1 (hhexadecimal hi).2,
        hother (hhexadecimal hj).1 (hhexadecimal hj).2,
        hother (hhexadecimal hk).1 (hhexadecimal hk).2,
        hother (hhexadecimal hl).1 (hhexadecimal hl).2, ih]

/-- A string leads from outside of it to outside. -/
theorem scan_string {place : Place} (hplace : Settled place) {body : Bytes} (h : StringBody body)
    (rest : Bytes) :
    scan place (quote :: (body ++ quote :: rest)) = scan .outside rest := by
  have hquote : place.next quote = some .string := by
    cases place with
    | outside => rfl
    | string => exact absurd rfl hplace.1
    | escape => exact absurd rfl hplace.2
    | zero => rfl
    | digits => rfl
  rw [scan_cons, hquote, Option.bind_some, scan_body h]
  rfl

/-! ## What is JSON is scanned to its end -/

private theorem scan_digits {digits : Bytes} (h : ∀ c ∈ digits, isDigit c = true) (rest : Bytes) :
    scan .digits (digits ++ rest) = scan .digits rest := by
  induction digits with
  | nil => rfl
  | cons c digits ih =>
      have hc : Place.next .digits c = some .digits := by
        simp only [Place.next, h c List.mem_cons_self, Bool.true_or, if_true]
      rw [List.cons_append, scan_cons, hc, Option.bind_some]
      exact ih fun d hd => h d (List.mem_cons_of_mem _ hd)

/-- In a number. -/
private def InDigits (place : Place) : Prop := place = .zero ∨ place = .digits

private theorem next_inNumber {place : Place} (hplace : InDigits place) {c : UInt8}
    (hc : inNumber c = true) : place.next c = some .digits := by
  have hdigit : isDigit c = false := by
    simp only [inNumber, Bool.or_eq_true, decide_eq_true_eq, or_assoc] at hc
    rcases hc with rfl | rfl | rfl | rfl | rfl <;> rfl
  rcases hplace with rfl | rfl
  · simp only [Place.next, hdigit, hc, Bool.false_eq_true, if_false, if_true]
  · simp only [Place.next, hc, Bool.or_true, if_true]

private theorem scan_integer {text : Bytes} (h : IntegerText text) :
    ∃ place, InDigits place ∧ scan .outside text = some place := by
  obtain ⟨⟨hne, hdigits⟩, hzero⟩ := h
  cases text with
  | nil => exact absurd rfl hne
  | cons c rest =>
      have hc := hdigits c List.mem_cons_self
      have hquote : c ≠ quote := by
        rintro rfl
        exact absurd hc (by decide)
      by_cases hhead : c = 0x30
      · subst hhead
        obtain rfl : rest = [] := by simpa using hzero rfl
        exact ⟨.zero, .inl rfl, rfl⟩
      · refine ⟨.digits, .inr rfl, ?_⟩
        have henter : Place.next .outside c = some .digits := by
          simp only [Place.next, Place.enter, if_neg hquote, if_neg hhead, hc, if_true]
        rw [scan_cons, henter, Option.bind_some, ← List.append_nil rest,
          scan_digits fun d hd => hdigits d (List.mem_cons_of_mem _ hd)]
        rfl

private theorem scan_fraction {place : Place} (hplace : InDigits place) {text : Bytes}
    (h : FractionText text) : ∃ place', InDigits place' ∧ scan place text = some place' := by
  rcases h with rfl | ⟨digits, ⟨_, hdigits⟩, rfl⟩
  · exact ⟨place, hplace, rfl⟩
  · refine ⟨.digits, .inr rfl, ?_⟩
    rw [scan_cons, next_inNumber hplace rfl, Option.bind_some, ← List.append_nil digits,
      scan_digits hdigits]
    rfl

private theorem scan_exponent {place : Place} (hplace : InDigits place) {text : Bytes}
    (h : ExponentText text) : ∃ place', InDigits place' ∧ scan place text = some place' := by
  rcases h with rfl | ⟨e, sign, digits, he, hsign, ⟨_, hdigits⟩, rfl⟩
  · exact ⟨place, hplace, rfl⟩
  · refine ⟨.digits, .inr rfl, ?_⟩
    have hletter : inNumber e = true := by
      rcases he with rfl | rfl <;> rfl
    have hlast : scan .digits digits = some .digits := by
      rw [← List.append_nil digits, scan_digits hdigits]
      rfl
    rw [scan_cons, next_inNumber hplace hletter, Option.bind_some, scan_append]
    simp only [List.mem_cons, List.not_mem_nil, or_false] at hsign
    rcases hsign with rfl | rfl | rfl
    · exact hlast
    · exact hlast
    · exact hlast

private theorem scan_number {text : Bytes} (h : NumberText text) :
    ∃ place, Settled place ∧ scan .outside text = some place := by
  obtain ⟨sign, integer, fraction, exponent, hsign, hinteger, hfraction, hexponent, rfl⟩ := h
  obtain ⟨place, hplace, hscan⟩ := scan_integer hinteger
  obtain ⟨place₁, hplace₁, hscan₁⟩ := scan_fraction hplace hfraction
  obtain ⟨place₂, hplace₂, hscan₂⟩ := scan_exponent hplace₁ hexponent
  have hsettled : Settled place₂ := by
    rcases hplace₂ with rfl | rfl <;> exact ⟨by decide, by decide⟩
  refine ⟨place₂, hsettled, ?_⟩
  have hrest : scan .outside (integer ++ (fraction ++ exponent)) = some place₂ := by
    rw [scan_append, hscan, Option.bind_some, scan_append, hscan₁, Option.bind_some, hscan₂]
  simp only [List.mem_cons, List.not_mem_nil, or_false] at hsign
  rcases hsign with rfl | rfl
  · exact hrest
  · exact hrest

/-- **JSON is scanned to its end**, and the scan ends in no string. -/
theorem JsonText.scan {part : Part} {text : Bytes} (h : JsonText part text) :
    ∃ place, Settled place ∧ Json.scan .outside text = some place := by
  induction h with
  | literal h =>
      simp only [List.mem_cons, List.not_mem_nil, or_false] at h
      rcases h with rfl | rfl | rfl <;> exact ⟨.outside, settled_outside, rfl⟩
  | number h => exact scan_number h
  | string h => exact ⟨.outside, settled_outside, scan_string settled_outside h []⟩
  | @emptyArray blank h =>
      refine ⟨.outside, settled_outside, ?_⟩
      rw [scan_delimiter settled_outside rfl, scan_blank h]
      rfl
  | @array body _ ih =>
      obtain ⟨place, hplace, hscan⟩ := ih
      refine ⟨.outside, settled_outside, ?_⟩
      rw [scan_delimiter settled_outside rfl, scan_append, hscan, Option.bind_some,
        scan_delimiter hplace rfl, scan_nil]
  | @emptyObject blank h =>
      refine ⟨.outside, settled_outside, ?_⟩
      rw [scan_delimiter settled_outside rfl, scan_blank h]
      rfl
  | @object body _ ih =>
      obtain ⟨place, hplace, hscan⟩ := ih
      refine ⟨.outside, settled_outside, ?_⟩
      rw [scan_delimiter settled_outside rfl, scan_append, hscan, Option.bind_some,
        scan_delimiter hplace rfl, scan_nil]
  | @element before value after hbefore _ hafter ih =>
      obtain ⟨place, hplace, hscan⟩ := ih
      obtain ⟨place', hplace', hscan'⟩ := scan_settled_blank hplace hafter
      refine ⟨place', hplace', ?_⟩
      rw [scan_blank hbefore, scan_append, hscan, Option.bind_some, hscan']
  | oneElement _ ih => exact ih
  | @moreElements text texts _ _ ih ihrest =>
      obtain ⟨place, hplace, hscan⟩ := ih
      obtain ⟨place', hplace', hscan'⟩ := ihrest
      refine ⟨place', hplace', ?_⟩
      rw [scan_append, hscan, Option.bind_some, scan_delimiter hplace rfl, hscan']
  | @member before key afterKey value hbefore hkey hafterKey _ ih =>
      obtain ⟨place, hplace, hscan⟩ := ih
      refine ⟨place, hplace, ?_⟩
      rw [scan_blank hbefore, scan_string settled_outside hkey,
        scan_blank_delimiter settled_outside hafterKey rfl, hscan]
  | oneMember _ ih => exact ih
  | @moreMembers text texts _ _ ih ihrest =>
      obtain ⟨place, hplace, hscan⟩ := ih
      obtain ⟨place', hplace', hscan'⟩ := ihrest
      refine ⟨place', hplace', ?_⟩
      rw [scan_append, hscan, Option.bind_some, scan_delimiter hplace rfl, hscan']

theorem JsonObject.noSuperfluousZero {text : Bytes} (h : JsonObject text) :
    NoSuperfluousZero text := by
  obtain ⟨before, object, after, hbefore, hafter, hobject, _, rfl⟩ := h
  obtain ⟨place, _, hscan⟩ := (JsonText.element hbefore hobject hafter).scan
  rw [NoSuperfluousZero, hscan]
  rfl

/-! ## What is scanned to its end is JSON -/

theorem Spells.body {value text : Bytes} (h : Spells value text) : StringBody text := by
  induction h with
  | nil => exact .nil
  | plain hc _ ih => exact .plain hc ih
  | short he _ ih => exact .short he ih
  | code hhex _ ih => exact .code hhex ih
  | pair hhigh hlow _ _ _ ih => exact .code hhigh (.code hlow ih)

/-- `text` is JSON as far as a scan gets through it. -/
def JsonIfScanned (part : Part) (text : Bytes) : Prop :=
  ∀ place, scan .outside text = some place → JsonText part text ∧ Settled place

theorem JsonText.ifScanned {part : Part} {text : Bytes} (h : JsonText part text) :
    JsonIfScanned part text := by
  intro place hscan
  obtain ⟨place', hplace', hscan'⟩ := h.scan
  obtain rfl := Option.some.inj (hscan'.symm.trans hscan)
  exact ⟨h, hplace'⟩

/-- A numeral is a number if a scan gets through it. -/
theorem Numeral.ifScanned {n : Nat} {text : Bytes} (h : Numeral n text) :
    JsonIfScanned .value text := by
  intro place hscan
  obtain ⟨hne, hdigits, _⟩ := h
  have hinteger : IntegerText text := by
    refine ⟨⟨hne, hdigits⟩, fun hzero => ?_⟩
    cases text with
    | nil => exact absurd rfl hne
    | cons c rest =>
        obtain rfl := Option.some.inj hzero
        cases rest with
        | nil => rfl
        | cons d rest =>
            -- The scan stops at a digit after the zero.
            have hd : Place.next .zero d = none := by
              simp only [Place.next, hdigits d (by simp), if_true]
            rw [scan_cons, show Place.next .outside 0x30 = some .zero from rfl, Option.bind_some,
              scan_cons, hd] at hscan
            exact absurd hscan (by simp)
  have hnumber : JsonText .value text :=
    .number ⟨[], text, [], [], by simp, hinteger, .inl rfl, .inl rfl, by simp⟩
  exact hnumber.ifScanned place hscan

/-- A numeral as it is written has no zeros in front. -/
theorem decimal_integerText (n : Nat) : IntegerText (decimal n) := by
  refine ⟨⟨decimal_ne_nil n, fun _ => isDigit_of_mem_decimal⟩, ?_⟩
  induction n using Nat.strong_induction_on with
  | _ n ih =>
      intro hhead
      by_cases hsmall : n < 10
      · interval_cases n <;> first
          | rfl
          | exact absurd hhead (by decide)
      · -- The first digit is that of the number without its last digit.
        have hsplit : decimal n = decimal (n / 10) ++ decimal (n % 10) := by
          simp only [decimal, ← List.map_append]
          rw [Nat.toDigits_of_base_le (by decide) (by omega),
            Nat.toDigits_of_lt_base (Nat.mod_lt n (by decide))]
        have hfront : (decimal (n / 10)).head? = some 0x30 := by
          rw [hsplit, List.head?_append_of_ne_nil _ (decimal_ne_nil _)] at hhead
          exact hhead
        have hzero : n / 10 = 0 := decimal_inj (ih (n / 10) (by omega) hfront)
        omega

section
variable {α : Type} {members : Members α}

theorem MemberText.ifScanned (hreads : ∀ a text, members.Reads a text → JsonIfScanned .value text)
    {a : α} {text : Bytes} (h : MemberText members a text) : JsonIfScanned .member text := by
  intro place hscan
  cases h with
  | mk hbefore hkey hafterKey hbeforeValue hvalue hafter =>
      rw [scan_blank hbefore, scan_string settled_outside hkey.body,
        scan_blank_delimiter settled_outside hafterKey rfl, scan_blank hbeforeValue,
        scan_append] at hscan
      obtain ⟨place', hscan', hrest⟩ := Option.bind_eq_some_iff.mp hscan
      obtain ⟨hjson, hplace'⟩ := hreads _ _ hvalue place' hscan'
      obtain ⟨place'', hplace'', hblank⟩ := scan_settled_blank hplace' hafter
      obtain rfl := Option.some.inj (hblank.symm.trans hrest)
      exact ⟨.member hbefore hkey.body hafterKey (.element hbeforeValue hjson hafter), hplace''⟩

theorem MembersText.ifScanned (hreads : ∀ a text, members.Reads a text → JsonIfScanned .value text)
    {all : List α} {text : Bytes} (h : MembersText members all text) :
    JsonIfScanned .members text := by
  induction h with
  | one h =>
      intro place hscan
      obtain ⟨hjson, hplace⟩ := h.ifScanned hreads place hscan
      exact ⟨.oneMember hjson, hplace⟩
  | more h _ ih =>
      intro place hscan
      rw [scan_append] at hscan
      obtain ⟨place', hscan', hrest⟩ := Option.bind_eq_some_iff.mp hscan
      obtain ⟨hjson, hplace'⟩ := h.ifScanned hreads place' hscan'
      rw [scan_delimiter hplace' rfl] at hrest
      obtain ⟨hjsons, hplace⟩ := ih place hrest
      exact ⟨.moreMembers hjson hjsons, hplace⟩

/-- **An object that a scan gets through is JSON**, if its values are. -/
theorem ObjectText.ifScanned (hreads : ∀ a text, members.Reads a text → JsonIfScanned .value text)
    {all : List α} {text : Bytes} (h : ObjectText members all text) :
    JsonIfScanned .value text := by
  intro place hscan
  cases h with
  | empty hblank => exact (JsonText.emptyObject hblank).ifScanned place hscan
  | filled hbody =>
      rw [scan_delimiter settled_outside rfl, scan_append] at hscan
      obtain ⟨place', hscan', hrest⟩ := Option.bind_eq_some_iff.mp hscan
      obtain ⟨hjson, hplace'⟩ := hbody.ifScanned hreads place' hscan'
      rw [scan_delimiter hplace' rfl] at hrest
      obtain rfl := Option.some.inj hrest
      exact ⟨.object hjson, settled_outside⟩

end

end Base.Json
