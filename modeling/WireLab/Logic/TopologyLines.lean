import WireLab.Logic.TopologyText

/-!
# The lines of a topology file

How the parser goes over a text. Whatever it collects is made of bytes of the
text (`parseLines_madeOf`), and the entries of a section are read one by one:
each line of the form `  - {…}` gives the fields of its flow mapping, and the
line after it turns them into a node or a link (`parseItems`).
-/

namespace WireLab

open Base

namespace TopologyYamlParser

/-! ## What is collected comes from the text -/

/-- Every value of these fields is made of bytes that `P` allows. -/
def FieldsOf (P : UInt8 → Prop) (fields : Fields) : Prop :=
  ∀ key value, fields.lookup key = some value → ∀ c ∈ value, P c

/-- The name and the ids collected so far are made of bytes that `P` allows. -/
structure MadeOf (P : UInt8 → Prop) (parser : TopologyYamlParser) : Prop where
  name : ∀ c ∈ parser.configuration.name, P c
  nodes : ∀ node ∈ parser.configuration.nodes, ∀ c ∈ node.id, P c
  fields : FieldsOf P parser.entryFields

section
variable {P : UInt8 → Prop} {parser out : TopologyYamlParser}

theorem fieldsOf_empty : FieldsOf P ∅ := by
  intro key value h
  simp at h

theorem FieldsOf.insert {fields : Fields} (h : FieldsOf P fields) (key : Bytes) {value : Bytes}
    (hvalue : ∀ c ∈ value, P c) : FieldsOf P (fields.insert key value) := by
  intro other found hfound
  rw [Dict.lookup_insert] at hfound
  split at hfound
  · obtain rfl := Option.some.inj hfound
    exact hvalue
  · exact h other found hfound

theorem addFlowFields_fieldsOf {pieces : List Bytes} {fields fields' : Fields}
    (hpieces : ∀ piece ∈ pieces, ∀ c ∈ piece, P c) (hfields : FieldsOf P fields)
    (h : addFlowFields pieces fields = some fields') : FieldsOf P fields' := by
  induction pieces generalizing fields with
  | nil =>
      obtain rfl := Option.some.inj h
      exact hfields
  | cons piece pieces ih =>
      unfold addFlowFields at h
      split at h
      · cases h
      · next key value hfield =>
          split at h
          · cases h
          · refine ih (fun piece hmem => hpieces piece (List.mem_cons_of_mem _ hmem)) ?_ h
            exact hfields.insert key fun c hc =>
              hpieces _ List.mem_cons_self c (mem_splitField hfield hc)

/-- The values of a flow mapping are made of its bytes, commas apart. -/
theorem parseFlowMapping_fieldsOf {entry : Bytes} {fields fields' : Fields}
    (hentry : ∀ c ∈ entry, c ≠ 0x2C → P c) (hfields : FieldsOf P fields)
    (h : parseFlowMapping entry fields = some fields') : FieldsOf P fields' := by
  unfold parseFlowMapping at h
  split at h
  · cases h
  · split at h
    · cases h
    · next found hfound =>
        split at h
        · cases h
        · obtain rfl := Option.some.inj h
          refine addFlowFields_fieldsOf (fun piece hpiece c hc => ?_) hfields hfound
          obtain ⟨hmem, hcomma⟩ := mem_splitPieces hpiece hc
          exact hentry c (List.mem_of_mem_drop (List.mem_of_mem_dropLast hmem)) hcomma

/-- An entry's id is the value of its `id` field. -/
theorem entryNode_id {fields : Fields} {node : TopologyNode} (h : entryNode fields = .ok node) :
    fields.lookup (bytes "id") = some node.id := by
  unfold entryNode at h
  split at h
  · next id type _ hid _ =>
      split_ifs at h
      all_goals
        obtain rfl := Except.ok.inj h
        exact hid
  · cases h

/-- What finishing an entry does to the parser. -/
inductive Flushed (parser : TopologyYamlParser) : TopologyYamlParser → Prop
  | idle (hidle : parser.hasEntry = false) : Flushed parser parser
  | node {node : TopologyNode} (hentry : parser.hasEntry = true)
      (hsection : parser.entrySection = .nodes) (hnode : entryNode parser.entryFields = .ok node) :
      Flushed parser { parser with
        hasEntry := false, entryFields := ∅,
        configuration :=
          { parser.configuration with nodes := parser.configuration.nodes ++ [node] } }
  | link {link : TopologyLink} (hentry : parser.hasEntry = true)
      (hsection : parser.entrySection ≠ .nodes) (hlink : entryLink parser.entryFields = .ok link) :
      Flushed parser { parser with
        hasEntry := false, entryFields := ∅,
        configuration :=
          { parser.configuration with links := parser.configuration.links ++ [link] } }

theorem flushEntry_flushes (h : parser.flushEntry = .ok out) : Flushed parser out := by
  unfold flushEntry at h
  split at h
  · next hidle =>
      obtain rfl := Except.ok.inj h
      exact .idle (by simpa using hidle)
  · next hentry =>
      have hentry : parser.hasEntry = true := by simpa using hentry
      dsimp only at h
      split at h
      · next hsection =>
          cases hnode : entryNode parser.entryFields with
          | error e =>
              rw [hnode] at h
              cases h
          | ok node =>
              rw [hnode] at h
              obtain rfl := Except.ok.inj h
              exact .node hentry hsection hnode
      · next hsection =>
          cases hlink : entryLink parser.entryFields with
          | error e =>
              rw [hlink] at h
              cases h
          | ok link =>
              rw [hlink] at h
              obtain rfl := Except.ok.inj h
              exact .link hentry hsection hlink

theorem flushEntry_madeOf (hmade : parser.MadeOf P) (h : parser.flushEntry = .ok out) :
    out.MadeOf P := by
  cases flushEntry_flushes h with
  | idle hidle => exact hmade
  | node hentry hsection hnode =>
      refine ⟨hmade.name, fun other hother => ?_, fieldsOf_empty⟩
      rcases List.mem_append.mp hother with hold | hnew
      · exact hmade.nodes other hold
      · obtain rfl := List.mem_singleton.mp hnew
        exact hmade.fields _ _ (entryNode_id hnode)
  | link hentry hsection hlink => exact ⟨hmade.name, hmade.nodes, fieldsOf_empty⟩

theorem openSection_madeOf (hmade : parser.MadeOf P) {content : Bytes}
    (h : parser.openSection content = .ok out) : out.MadeOf P := by
  unfold openSection at h
  split_ifs at h
  all_goals
    obtain rfl := Except.ok.inj h
    exact ⟨hmade.name, hmade.nodes, hmade.fields⟩

theorem networkField_madeOf (hmade : parser.MadeOf P) {indent : Nat} {content : Bytes}
    (hcontent : ∀ c ∈ content, P c) (h : parser.networkField indent content = .ok out) :
    out.MadeOf P := by
  unfold networkField at h
  split at h
  · next key value hfield =>
      split_ifs at h
      obtain rfl := Except.ok.inj h
      exact ⟨fun c hc => hcontent c (mem_splitField hfield hc), hmade.nodes, hmade.fields⟩
  · cases h

theorem beginEntry_madeOf (hmade : parser.MadeOf P) {content : Bytes}
    (hcontent : ∀ c ∈ content, P c) (h : parser.beginEntry content = .ok out) :
    out.MadeOf P := by
  unfold beginEntry at h
  cases hflush : parser.flushEntry with
  | error e =>
      rw [hflush] at h
      cases h
  | ok flushed =>
      have hflushed := flushEntry_madeOf hmade hflush
      simp only [hflush, bind, Except.bind] at h
      split_ifs at h
      · obtain rfl := Except.ok.inj h
        exact ⟨hflushed.name, hflushed.nodes, hflushed.fields⟩
      · split at h
        · cases h
        · next fields hfields =>
            obtain rfl := Except.ok.inj h
            refine ⟨hflushed.name, hflushed.nodes, ?_⟩
            refine parseFlowMapping_fieldsOf (fun c hc _ => ?_) hflushed.fields hfields
            exact hcontent c (List.mem_of_mem_drop (mem_trim hc))

theorem entryField_madeOf (hmade : parser.MadeOf P) {indent : Nat} {content : Bytes}
    (hcontent : ∀ c ∈ content, P c) (h : parser.entryField indent content = .ok out) :
    out.MadeOf P := by
  unfold entryField at h
  split at h
  · next key value hfield =>
      split_ifs at h
      obtain rfl := Except.ok.inj h
      exact ⟨hmade.name, hmade.nodes,
        hmade.fields.insert key fun c hc => hcontent c (mem_splitField hfield hc)⟩
  · cases h

/-- A line adds nothing but its own bytes. -/
theorem parseLine_madeOf (hmade : parser.MadeOf P) {rawLine : Bytes}
    (hline : ∀ c ∈ rawLine, P c) (h : parser.parseLine rawLine = .ok out) : out.MadeOf P := by
  unfold parseLine at h
  dsimp only at h
  have hcontent : ∀ n, ∀ c ∈ (withoutComment rawLine).drop n, P c := fun n c hc =>
    hline c (mem_withoutCommentFrom (List.mem_of_mem_drop hc))
  split_ifs at h
  · obtain rfl := Except.ok.inj h
    exact hmade
  · cases hflush : parser.flushEntry with
    | error e =>
        rw [hflush] at h
        cases h
    | ok flushed =>
        rw [hflush] at h
        exact openSection_madeOf (flushEntry_madeOf hmade hflush) h
  · exact networkField_madeOf hmade (hcontent _) h
  · exact beginEntry_madeOf hmade (hcontent _) h
  · exact entryField_madeOf hmade (hcontent _) h

theorem parseLines_madeOf {lines : List Bytes} (hmade : parser.MadeOf P)
    (hlines : ∀ line ∈ lines, ∀ c ∈ line, P c) (h : parseLines parser lines = .ok out) :
    out.MadeOf P := by
  induction lines generalizing parser with
  | nil =>
      obtain rfl := Except.ok.inj h
      exact hmade
  | cons line lines ih =>
      unfold parseLines at h
      cases hline : parser.parseLine line with
      | error e =>
          rw [hline] at h
          cases h
      | ok next =>
          rw [hline] at h
          exact ih (parseLine_madeOf hmade (hlines line List.mem_cons_self) hline)
            (fun other hmem => hlines other (List.mem_cons_of_mem _ hmem)) h

theorem finish_madeOf {configuration : TopologyConfiguration} (hmade : parser.MadeOf P)
    (h : parser.finish = .ok configuration) :
    (∀ c ∈ configuration.name, P c) ∧ ∀ node ∈ configuration.nodes, ∀ c ∈ node.id, P c := by
  unfold TopologyYamlParser.finish at h
  cases hflush : parser.flushEntry with
  | error e =>
      rw [hflush] at h
      cases h
  | ok flushed =>
      have hflushed := flushEntry_madeOf hmade hflush
      simp only [hflush, bind, Except.bind] at h
      split_ifs at h
      obtain rfl := Except.ok.inj h
      exact ⟨hflushed.name, hflushed.nodes⟩

end

end TopologyYamlParser

/-- A name or id that was read from a file has no line feed in it. -/
theorem lineFeed_notMem_read {yaml : Bytes} {configuration : TopologyConfiguration}
    (h : topologyConfigurationFromYaml yaml = .ok configuration) :
    0x0A ∉ configuration.name ∧ ∀ node ∈ configuration.nodes, 0x0A ∉ node.id := by
  unfold topologyConfigurationFromYaml at h
  cases hparse : TopologyYamlParser.parseLines {} (splitPieces 0x0A yaml) with
  | error e =>
      rw [hparse] at h
      cases h
  | ok parser =>
      rw [hparse] at h
      have hmade : parser.MadeOf (· ≠ 0x0A) := TopologyYamlParser.parseLines_madeOf
        ⟨by simp, by simp, TopologyYamlParser.fieldsOf_empty⟩
        (fun line hline c hc => (mem_splitPieces hline hc).2) hparse
      obtain ⟨hname, hnodes⟩ := TopologyYamlParser.finish_madeOf hmade h
      exact ⟨fun hmem => hname _ hmem rfl, fun node hnode hmem => hnodes node hnode _ hmem rfl⟩

/-! ## The entries of a section -/

/-- An entry's line: two blanks and a hyphen in front of a flow mapping. -/
def itemLine (entry : Bytes) : Bytes := bytes "  - " ++ entry

/-- What a section makes of an entry that stands on one line. -/
def readEntry {α : Type} (error : TopologyYamlError) (make : Fields → Except TopologyYamlError α)
    (entry : Bytes) : Except TopologyYamlError α :=
  match parseFlowMapping (trim (0x20 :: withoutCommentFrom entry none (some 0x20))) ∅ with
  | none => .error error
  | some fields => make fields

namespace TopologyYamlParser

/-- The parser has turned every entry so far into a node or a link. -/
structure Idle (parser : TopologyYamlParser) : Prop where
  hasEntry : parser.hasEntry = false
  entryFields : parser.entryFields = ∅

theorem Idle.flushEntry {parser : TopologyYamlParser} (h : parser.Idle) :
    parser.flushEntry = .ok parser := by
  unfold TopologyYamlParser.flushEntry
  rw [h.hasEntry]
  rfl

/-- The line of an entry begins an entry, whatever was collected before. -/
theorem parseLine_itemLine {parser : TopologyYamlParser} {entry : Bytes}
    (hsection : parser.currentSection = .nodes ∨ parser.currentSection = .links) :
    parser.parseLine (itemLine entry) =
      parser.beginEntry (0x2D :: 0x20 :: withoutCommentFrom entry none (some 0x20)) := by
  have hline : withoutComment (itemLine entry) =
      0x20 :: 0x20 :: 0x2D :: 0x20 :: withoutCommentFrom entry none (some 0x20) :=
    withoutCommentFrom_plain (bytes "  - ") (by decide +kernel) entry none none
  have htrim : trim (withoutComment (itemLine entry)) ≠ [] :=
    trim_ne_nil (c := 0x2D) (by simp [hline]) (by decide)
  have hmargin : (withoutComment (itemLine entry)).takeWhile
      (fun c => c = 0x20 || c = 0x09) = [0x20, 0x20] := by
    rw [hline]
    rfl
  unfold parseLine
  dsimp only
  rw [hmargin, if_neg (by simpa using htrim), if_neg (by decide), if_neg (by simp), hline]
  have hnetwork : parser.currentSection ≠ .network := by
    rcases hsection with h | h <;> rw [h] <;> decide
  have hnone : parser.currentSection ≠ .none := by
    rcases hsection with h | h <;> rw [h] <;> decide
  rw [if_neg hnetwork, if_neg hnone, if_pos ⟨rfl, rfl⟩]
  rfl

/-- A finished entry stays finished, and the section is the same. -/
theorem flushEntry_flushed {parser out : TopologyYamlParser} (h : parser.flushEntry = .ok out) :
    out.flushEntry = .ok out ∧ out.currentSection = parser.currentSection := by
  have hdone : ∀ {q : TopologyYamlParser}, q.hasEntry = false → q.flushEntry = .ok q := by
    intro q hq
    simp [flushEntry, hq]
  cases flushEntry_flushes h with
  | idle hidle => exact ⟨h, rfl⟩
  | node => exact ⟨hdone rfl, rfl⟩
  | link => exact ⟨hdone rfl, rfl⟩

/-- The line of an entry first finishes the entry before it. -/
theorem parseLine_flush {parser : TopologyYamlParser} {entry : Bytes}
    (hsection : parser.currentSection = .nodes ∨ parser.currentSection = .links) :
    parser.parseLine (itemLine entry) =
      parser.flushEntry >>= fun flushed => flushed.parseLine (itemLine entry) := by
  rw [parseLine_itemLine hsection]
  cases hflush : parser.flushEntry with
  | error e =>
      unfold beginEntry
      rw [hflush]
      rfl
  | ok flushed =>
      obtain ⟨hagain, hsame⟩ := flushEntry_flushed hflush
      show _ = flushed.parseLine (itemLine entry)
      rw [parseLine_itemLine (hsame.symm ▸ hsection)]
      unfold beginEntry
      rw [hflush, hagain]

/-- An idle parser collects the fields of an entry that is a flow mapping. -/
theorem parseLine_idle {parser : TopologyYamlParser} {entry : Bytes} (hidle : parser.Idle)
    (hentry : entry.head? = some 0x7B)
    (hsection : parser.currentSection = .nodes ∨ parser.currentSection = .links) :
    parser.parseLine (itemLine entry) =
      readEntry parser.fieldError (fun entryFields => .ok { parser with
        entrySection := parser.currentSection, entryFields, hasEntry := true }) entry := by
  obtain ⟨rest, rfl⟩ : ∃ rest, entry = 0x7B :: rest := by
    cases entry with
    | nil => simp at hentry
    | cons c rest => exact ⟨rest, by simpa using hentry⟩
  have hbrace : 0x7B ∈ withoutCommentFrom (0x7B :: rest) none (some 0x20) := by
    have hquote : isQuote 0x7B = false := rfl
    simp [withoutCommentFrom, hquote]
  have htrim : (trim (0x20 :: withoutCommentFrom (0x7B :: rest) none (some 0x20))).isEmpty =
      false := by
    have := trim_ne_nil (List.mem_cons_of_mem 0x20 hbrace) (by decide)
    simpa using this
  rw [parseLine_itemLine hsection]
  unfold beginEntry readEntry
  simp only [hidle.flushEntry, bind, Except.bind, List.drop_one, List.tail_cons, htrim,
    Bool.false_eq_true, if_false, hidle.entryFields]
  rfl

/-- What follows goes on from the parser that has finished its entry. -/
theorem parseLines_flush {parser : TopologyYamlParser} (entries : List Bytes)
    (hsection : parser.currentSection = .nodes ∨ parser.currentSection = .links) :
    (parseLines parser (entries.map itemLine) >>= flushEntry) =
      parser.flushEntry >>= fun flushed =>
        parseLines flushed (entries.map itemLine) >>= flushEntry := by
  cases entries with
  | nil =>
      show parser.flushEntry = parser.flushEntry >>= flushEntry
      cases hflush : parser.flushEntry with
      | error e => rfl
      | ok flushed => exact (flushEntry_flushed hflush).1.symm
  | cons entry entries =>
      simp only [List.map_cons, parseLines, parseLine_flush hsection]
      cases parser.flushEntry <;> rfl

section
variable {α : Type} (kind : YamlSection) (error : TopologyYamlError)
  (make : Fields → Except TopologyYamlError α)
  (add : TopologyConfiguration → α → TopologyConfiguration)

/-- **The entries of a section** are read one by one. `make` is what the section
makes of an entry's fields, and `add` where it puts it. -/
theorem parseItems (hkind : kind = .nodes ∨ kind = .links)
    (herror : ∀ parser : TopologyYamlParser, parser.currentSection = kind →
      parser.fieldError = error)
    (hflush : ∀ parser : TopologyYamlParser, parser.hasEntry = true →
      parser.entrySection = kind → parser.flushEntry =
        (make parser.entryFields).map fun x => { parser with
          hasEntry := false, entryFields := ∅, configuration := add parser.configuration x })
    (entries : List Bytes) (hentries : ∀ entry ∈ entries, entry.head? = some 0x7B)
    {parser : TopologyYamlParser} (hidle : parser.Idle) (hsection : parser.currentSection = kind) :
    ∃ entrySection, (parseLines parser (entries.map itemLine) >>= flushEntry) =
      (entries.mapM (readEntry error make)).map fun xs => { parser with
        configuration := xs.foldl add parser.configuration, entrySection } := by
  induction entries generalizing parser with
  | nil => exact ⟨parser.entrySection, hidle.flushEntry⟩
  | cons entry entries ih =>
      have hrest : ∀ other ∈ entries, other.head? = some 0x7B := fun other hmem =>
        hentries other (List.mem_cons_of_mem _ hmem)
      subst hsection
      have hread := parseLine_idle hidle (hentries entry List.mem_cons_self) hkind
      rw [herror parser rfl] at hread
      simp only [List.map_cons, parseLines, hread, List.mapM_cons]
      cases hfields : parseFlowMapping
          (trim (0x20 :: withoutCommentFrom entry none (some 0x20))) ∅ with
      | none =>
          refine ⟨parser.entrySection, ?_⟩
          simp only [readEntry, hfields]
          rfl
      | some entryFields =>
          simp only [readEntry, hfields]
          -- The entry is collected: finishing it is what `make` makes of its fields.
          have hmake := hflush
            { parser with entrySection := parser.currentSection, entryFields, hasEntry := true }
            rfl rfl
          have hgo := @parseLines_flush
            { parser with entrySection := parser.currentSection, entryFields, hasEntry := true }
            entries hkind
          rw [hmake] at hgo
          cases hx : make entryFields with
          | error e =>
              refine ⟨parser.entrySection, ?_⟩
              rw [hx] at hgo
              exact hgo
          | ok x =>
              rw [hx] at hgo
              obtain ⟨entrySection, hall⟩ := @ih hrest { parser with
                entrySection := parser.currentSection, hasEntry := false, entryFields := ∅,
                configuration := add parser.configuration x } ⟨rfl, rfl⟩ rfl
              refine ⟨entrySection, (hgo.trans hall).trans ?_⟩
              -- The parser is idle again, so the fields it keeps are the ones it had.
              rw [← hidle.hasEntry, ← hidle.entryFields]
              cases entries.mapM (readEntry error make) <;> rfl

end

end TopologyYamlParser

end WireLab
