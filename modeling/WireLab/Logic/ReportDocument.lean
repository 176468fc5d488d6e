import WireLab.Base.JsonTree
import WireLab.Logic.PrintedMessages
import WireLab.Model.ReportText

/-!
# The document of a report

`report_json` writes one JSON document, whatever bytes its texts hold, as long as its
doubles print as JSON numbers (`reportJson_document`): the provenance, and an object for
every row.
-/

namespace WireLab

open Base Base.Json Base.Json.Tree SessionDetail ReportText

/-! ## What the document says -/

/-- The doubles of a row. -/
def ReportRow.measures (row : ReportRow) : List Float :=
  [row.packetsPerSecond, row.goodputBitsPerSecond, row.lossPercent, row.speedup]

/-- The doubles of a row are numbers that JSON can write: neither infinite nor no number. -/
def ReportRow.Printable (format : NumberFormat) (row : ReportRow) : Prop :=
  ∀ measure ∈ row.measures, NumberText (format.json measure)

namespace ReportText

def count (n : UInt64) : Tree := .word (decimal n.toNat)

def rowMembers (format : NumberFormat) (row : ReportRow) : List (Bytes × Tree) :=
  [(bytes "backend", .string row.backendLabel),
    (bytes "backendId", .string row.backendId),
    (bytes "scenario", .string row.scenario),
    (bytes "packets", count row.packets),
    (bytes "elapsedNs", count row.elapsedNs),
    (bytes "packetsPerSecond", .word (format.json row.packetsPerSecond)),
    (bytes "goodputBitsPerSecond", .word (format.json row.goodputBitsPerSecond)),
    (bytes "lossPercent", .word (format.json row.lossPercent)),
    (bytes "latencyP50Ns", count row.latencyP50Ns),
    (bytes "latencyP95Ns", count row.latencyP95Ns),
    (bytes "latencyP99Ns", count row.latencyP99Ns),
    (bytes "hostToDeviceNs", count row.hostToDeviceNs),
    (bytes "kernelNs", count row.kernelNs),
    (bytes "deviceToHostNs", count row.deviceToHostNs),
    (bytes "transferInclusiveNs", count row.transferInclusiveNs),
    (bytes "queueWaitNs", count row.queueWaitNs),
    (bytes "speedup", .word (format.json row.speedup))]

def strings (values : List Bytes) : Tree := .array (values.map .string)

def provenanceMembers (provenance : ReportProvenance) : List (Bytes × Tree) :=
  [(bytes "scenario", .string provenance.scenario),
    (bytes "seed", count provenance.seed),
    (bytes "packets", count provenance.packets),
    (bytes "batchSize", count provenance.batchSize),
    (bytes "frameSize", count provenance.frameSize),
    (bytes "hostCount", count provenance.hostCount),
    (bytes "generator", .string provenance.generator),
    (bytes "version", .string provenance.version),
    (bytes "buildType", .string provenance.buildType),
    (bytes "backendsCompiledIn", strings provenance.backendsCompiledIn),
    (bytes "backendsPresent", strings provenance.backendsPresent),
    (bytes "generatedAt", .string provenance.generatedAt)]

/-- The document of a report. -/
def reportTree (format : NumberFormat) (provenance : ReportProvenance) (rows : List ReportRow) :
    Tree :=
  .object [(bytes "provenance", .object (provenanceMembers provenance)),
    (bytes "results", .array (rows.map fun row => .object (rowMembers format row)))]

/-! ## Literals -/

private theorem escapes : bytes "\\\"" = [0x5C, 0x22] ∧ bytes "\\\\" = [0x5C, 0x5C] ∧
    bytes "\\n" = [0x5C, 0x6E] ∧ bytes "\\r" = [0x5C, 0x72] ∧ bytes "\\t" = [0x5C, 0x74] ∧
    bytes "\\u00" = [0x5C, 0x75, 0x30, 0x30] := by decide +kernel

/-- Some blanks. -/
private abbrev spaces (n : Nat) : Bytes := List.replicate n 0x20

private theorem punctuation : bytes "\"" = [quote] ∧ bytes "\": " = quote :: colon :: spaces 1 ∧
    bytes "\": \"" = quote :: colon :: (spaces 1 ++ [quote]) ∧ bytes "\n" = [0x0A] ∧
    bytes ",\n" = [comma, 0x0A] ∧ bytes ", " = comma :: spaces 1 ∧ bytes "[" = [openBracket] ∧
    bytes "]" = [closeBracket] := by decide +kernel

/-- The lines of the document that are always the same. -/
private theorem layout : bytes "    " = spaces 4 ∧ bytes "      " = spaces 6 ∧
    bytes "    \x7b\n" = spaces 4 ++ [openBrace, 0x0A] ∧
    bytes "    \x7d\n" = spaces 4 ++ [closeBrace, 0x0A] ∧
    bytes "    \x7d,\n" = spaces 4 ++ [closeBrace, comma, 0x0A] ∧
    bytes "]\n\x7d\n" = [closeBracket, 0x0A, closeBrace, 0x0A] ∧
    bytes "  ]\n\x7d\n" = spaces 2 ++ [closeBracket, 0x0A, closeBrace, 0x0A] ∧
    bytes "\x7b\n  \"provenance\": \x7b\n" = openBrace :: 0x0A :: (spaces 2 ++ quote ::
      (bytes "provenance" ++ quote :: colon :: (spaces 1 ++ [openBrace, 0x0A]))) ∧
    bytes "  \x7d,\n  \"results\": [" = spaces 2 ++ closeBrace :: comma :: 0x0A :: (spaces 2 ++
      quote :: (bytes "results" ++ quote :: colon :: (spaces 1 ++ [openBracket]))) := by
  decide +kernel

/-- The keys of the document. -/
private def reportKeys : List String :=
  ["provenance", "results", "backend", "backendId", "scenario", "packets", "elapsedNs",
    "packetsPerSecond", "goodputBitsPerSecond", "lossPercent", "latencyP50Ns", "latencyP95Ns",
    "latencyP99Ns", "hostToDeviceNs", "kernelNs", "deviceToHostNs", "transferInclusiveNs",
    "queueWaitNs", "speedup", "seed", "batchSize", "frameSize", "hostCount", "generator", "version",
    "buildType", "backendsCompiledIn", "backendsPresent", "generatedAt"]

/-- No key needs an escape. -/
private theorem reportKeys_plain : ∀ key ∈ reportKeys, (bytes key).all isPlain = true := by
  decide +kernel

private theorem blank_spaces (n : Nat) : Blank (spaces n) := by
  intro c hc
  rw [List.eq_of_mem_replicate hc]
  rfl

private theorem blank_newline : Blank [0x0A] := by
  intro c hc
  obtain rfl := List.mem_singleton.mp hc
  rfl

/-! ## Strings and numbers -/

/-- But for two control characters, a byte is escaped as in a control message. -/
private theorem jsonEscapeCharacter_eq {c : UInt8} (hbackspace : c ≠ 0x08) (hfeed : c ≠ 0x0C) :
    jsonEscapeCharacter c = jsonCharacter c := by
  obtain ⟨hquote, hbackslash, hnewline, hreturn, htab, hcode⟩ := escapes
  unfold jsonEscapeCharacter jsonCharacter
  rw [if_neg hbackspace, if_neg hfeed, hquote, hbackslash, hnewline, hreturn, htab, hcode]

/-- One byte of a string, escaped or as it is. -/
theorem jsonEscapeCharacter_spells (c : UInt8) {value text : Bytes} (h : Spells value text) :
    Spells (c :: value) (jsonEscapeCharacter c ++ text) := by
  have hcode : bytes "\\u00" = [0x5C, 0x75, 0x30, 0x30] := escapes.2.2.2.2.2
  by_cases hbackspace : c = 0x08
  · subst hbackspace
    have htext : jsonEscapeCharacter 0x08 = [0x5C, 0x75, 0x30, 0x30, 0x30, 0x38] := by
      show bytes "\\u00" ++ hexByte 0x08 = _
      rw [hcode]
      rfl
    rw [htext]
    exact @Spells.code _ _ _ _ (Char.ofNat 8) _ _ rfl h
  · by_cases hfeed : c = 0x0C
    · subst hfeed
      have htext : jsonEscapeCharacter 0x0C = [0x5C, 0x75, 0x30, 0x30, 0x30, 0x63] := by
        show bytes "\\u00" ++ hexByte 0x0C = _
        rw [hcode]
        rfl
      rw [htext]
      exact @Spells.code _ _ _ _ (Char.ofNat 12) _ _ rfl h
    · rw [jsonEscapeCharacter_eq hbackspace hfeed]
      exact jsonCharacter_spells c h

theorem jsonEscape_spells (value : Bytes) : Spells value (jsonEscape value) := by
  induction value with
  | nil => exact .nil
  | cons c value ih => exact jsonEscapeCharacter_spells c ih

/-- A text that needs no escape is its own spelling. -/
theorem spells_plain {text : Bytes} (h : text.all isPlain = true) : Spells text text := by
  induction text with
  | nil => exact .nil
  | cons c text ih =>
      simp only [List.all_cons, Bool.and_eq_true] at h
      exact .plain h.1 (ih h.2)

theorem count_text (n : UInt64) : (count n).Text (decimal n.toNat) := by
  refine .word (.inr ⟨[], decimal n.toNat, [], [], by simp, decimal_integerText _, .inl rfl,
    .inl rfl, by simp⟩)

theorem string_text (value : Bytes) :
    Text (.string value) ([0x22] ++ jsonEscape value ++ [0x22]) :=
  Text.string (jsonEscape_spells value)

/-! ## Fields -/

/-- A field whose value is a text of a tree. -/
private theorem jsonRawField_named {key : String} (hkey : key ∈ reportKeys) {t : Tree}
    {value : Bytes} (h : t.Text value) : Named Text (bytes key, t) (jsonRawField key value) := by
  obtain ⟨hquote, hcolon, -⟩ := punctuation
  have hnamed := Named.mk (spells_plain (reportKeys_plain key hkey)) blank_nil (blank_spaces 1) h
  rw [jsonRawField, hquote, hcolon]
  simpa only [List.singleton_append, List.cons_append, List.append_assoc, List.nil_append]
    using hnamed

private theorem jsonTextField_named {key : String} (hkey : key ∈ reportKeys) (value : Bytes) :
    Named Text (bytes key, .string value) (jsonTextField key value) := by
  obtain ⟨hquote, hcolon, hopen, -⟩ := punctuation
  have hnamed := jsonRawField_named hkey (string_text value)
  rw [jsonRawField, hquote, hcolon] at hnamed
  rw [jsonTextField, hquote, hopen]
  simpa only [List.singleton_append, List.cons_append, List.append_assoc] using hnamed

private theorem joinJsonFields_separated {indent : Bytes} (hindent : Blank indent)
    {member : Bytes × Tree} {members : List (Bytes × Tree)} {field : Bytes} {fields : List Bytes}
    (h : Named Text member field) (hrest : List.Forall₂ (Named Text) members fields)
    {before after : Bytes} (hbefore : Blank before) (hafter : Blank after) :
    Separated (Named Text) (member :: members)
      (before ++ (joinJsonFields indent (field :: fields) ++ after)) := by
  obtain ⟨-, -, -, hnewline, hcomma, -⟩ := punctuation
  induction hrest generalizing member field before with
  | nil =>
      have hone := Separated.one (hbefore.append hindent) h (blank_newline.append hafter)
      simpa only [joinJsonFields, hnewline, List.append_assoc] using hone
  | cons hnext _ ih =>
      have hmore := Separated.more (hbefore.append hindent) h blank_nil (ih hnext blank_newline)
      simpa only [joinJsonFields, hcomma, List.append_assoc, List.cons_append, List.nil_append]
        using hmore

/-- **Fields are the members of an object**, with more blanks around them. -/
theorem joinJsonFields_listing {indent : Bytes} (hindent : Blank indent)
    {members : List (Bytes × Tree)} {fields : List Bytes}
    (h : List.Forall₂ (Named Text) members fields) {before after : Bytes}
    (hbefore : Blank before) (hafter : Blank after) :
    Listing (Named Text) members (before ++ (joinJsonFields indent fields ++ after)) := by
  cases h with
  | nil => exact .none (hbefore.append hafter)
  | cons hfield hrest =>
      exact .some (joinJsonFields_separated hindent hfield hrest hbefore hafter)

private theorem jsonStrings_separated (value : Bytes) (values : List Bytes) {before : Bytes}
    (hbefore : Blank before) :
    Separated Text ((value :: values).map .string) (before ++ jsonStrings (value :: values)) := by
  obtain ⟨-, -, -, -, -, hcomma, -⟩ := punctuation
  induction values generalizing value before with
  | nil =>
      have hone := Separated.one hbefore (string_text value) blank_nil
      simpa only [jsonStrings, List.append_nil, List.map_cons, List.map_nil] using hone
  | cons next values ih =>
      have hmore := Separated.more hbefore (string_text value) blank_nil
        (ih next (blank_spaces 1))
      simpa only [jsonStrings, hcomma, List.map_cons, List.append_assoc, List.cons_append,
        List.nil_append] using hmore

theorem jsonStringArray_text (values : List Bytes) :
    (strings values).Text (jsonStringArray values) := by
  obtain ⟨-, -, -, -, -, -, hopen, hclose⟩ := punctuation
  rw [jsonStringArray, hopen, hclose]
  cases values with
  | nil => exact .array (.none blank_nil)
  | cons value values => exact .array (.some (jsonStrings_separated value values blank_nil))

/-! ## The document -/

theorem rowFields_named {format : NumberFormat} {row : ReportRow} (h : row.Printable format) :
    List.Forall₂ (Named Text) (rowMembers format row) (reportRowJsonFields format row) := by
  have hmeasure (measure : Float) (hmeasure : measure ∈ row.measures) :
      Text (.word (format.json measure)) (format.json measure) := .word (.inr (h measure hmeasure))
  simp only [ReportRow.measures, List.forall_mem_cons, List.not_mem_nil, false_implies,
    implies_true, and_true] at hmeasure
  obtain ⟨hpackets, hgoodput, hloss, hspeedup⟩ := hmeasure
  simp only [rowMembers, reportRowJsonFields, List.forall₂_cons, List.forall₂_nil_left_iff,
    and_true]
  -- a field is a text, a count or one of the four measures
  and_intros
  all_goals
    first
    | exact jsonTextField_named (by simp [reportKeys]) _
    | exact jsonRawField_named (by simp [reportKeys]) (count_text _)
    | exact jsonRawField_named (by simp [reportKeys]) (by assumption)

theorem provenanceFields_named (provenance : ReportProvenance) :
    List.Forall₂ (Named Text) (provenanceMembers provenance) (provenanceFields provenance) := by
  simp only [provenanceMembers, provenanceFields, List.forall₂_cons, List.forall₂_nil_left_iff,
    and_true]
  and_intros
  all_goals
    first
    | exact jsonTextField_named (by simp [reportKeys]) _
    | exact jsonRawField_named (by simp [reportKeys]) (count_text _)
    | exact jsonRawField_named (by simp [reportKeys]) (jsonStringArray_text _)

/-- One row, in braces. -/
private theorem row_text {format : NumberFormat} {row : ReportRow} (h : row.Printable format) :
    Text (.object (rowMembers format row))
      (openBrace :: ([0x0A] ++ (joinJsonFields (spaces 6) (reportRowJsonFields format row) ++
        spaces 4) ++ [closeBrace])) :=
  .object (joinJsonFields_listing (blank_spaces 6) (rowFields_named h) blank_newline (blank_spaces 4))

private theorem jsonRows_separated {format : NumberFormat} (row : ReportRow)
    (rows : List ReportRow) (h : ∀ other ∈ row :: rows, other.Printable format)
    {before after : Bytes} (hbefore : Blank before) (hafter : Blank after) :
    Separated Text ((row :: rows).map fun row => .object (rowMembers format row))
      (before ++ (jsonRows format (row :: rows) ++ after)) := by
  obtain ⟨-, hsix, hopen, hclose, hnext, -⟩ := layout
  induction rows generalizing row before with
  | nil =>
      have hone := Separated.one (hbefore.append (blank_spaces 4))
        (row_text (h row List.mem_cons_self)) (blank_newline.append hafter)
      simpa only [jsonRows, hsix, hopen, hclose, List.map_cons, List.map_nil, List.append_assoc,
        List.cons_append, List.nil_append] using hone
  | cons next rows ih =>
      have hrest := ih next (fun other hother => h other (List.mem_cons_of_mem _ hother))
        blank_newline
      have hmore := Separated.more (hbefore.append (blank_spaces 4))
        (row_text (h row List.mem_cons_self)) blank_nil hrest
      simpa only [jsonRows, hsix, hopen, hnext, List.map_cons, List.append_assoc,
        List.cons_append, List.nil_append] using hmore

/-- The array of the results. -/
private theorem results_text {format : NumberFormat} {rows : List ReportRow}
    (h : ∀ row ∈ rows, row.Printable format) :
    Text (.array (rows.map fun row => .object (rowMembers format row)))
      (openBracket :: ((if rows.isEmpty then [] else
        [0x0A] ++ (jsonRows format rows ++ spaces 2)) ++ [closeBracket])) := by
  cases rows with
  | nil => exact .array (.none blank_nil)
  | cons row rows =>
      exact .array (.some (jsonRows_separated row rows h blank_newline (blank_spaces 2)))

/-- **What is written is the document of the report**, whatever its texts hold. -/
theorem reportJson_document {format : NumberFormat} (provenance : ReportProvenance)
    {rows : List ReportRow} (h : ∀ row ∈ rows, row.Printable format) :
    (reportTree format provenance rows).Document (reportJson format provenance rows) := by
  obtain ⟨hfour, -, -, -, -, hempty, hfilled, hopen, hnext⟩ := layout
  have hprovenance : Text (.object (provenanceMembers provenance))
      (openBrace :: ([0x0A] ++ (joinJsonFields (spaces 4) (provenanceFields provenance) ++
        spaces 2) ++ [closeBrace])) :=
    .object (joinJsonFields_listing (blank_spaces 4) (provenanceFields_named provenance)
      blank_newline (blank_spaces 2))
  have hkey {key : String} (hkey : key ∈ reportKeys) := spells_plain (reportKeys_plain key hkey)
  have hfirst := Named.mk (hkey (by simp [reportKeys] : "provenance" ∈ reportKeys)) blank_nil
    (blank_spaces 1) hprovenance
  have hsecond := Named.mk (hkey (by simp [reportKeys] : "results" ∈ reportKeys)) blank_nil
    (blank_spaces 1) (results_text h)
  have hblank := blank_newline.append (blank_spaces 2)
  have hmembers := Separated.more hblank hfirst blank_nil
    (Separated.one hblank hsecond blank_newline)
  have hdocument := Document.mk blank_nil (.object (.some hmembers)) blank_newline
  rw [reportJson, reportTree, hfour, hopen, hnext]
  cases hrows : rows.isEmpty with
  | true =>
      rw [if_pos rfl, hempty]
      simpa only [hrows, if_true, List.append_assoc, List.cons_append, List.nil_append]
        using hdocument
  | false =>
      have hnewline : bytes "\n" = [0x0A] := punctuation.2.2.2.1
      rw [if_neg Bool.false_ne_true, hfilled, hnewline]
      simpa only [hrows, Bool.false_eq_true, if_false, List.append_assoc, List.cons_append,
        List.nil_append] using hdocument

end ReportText
end WireLab
