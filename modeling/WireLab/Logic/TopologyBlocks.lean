import WireLab.Base.Blocks
import WireLab.Logic.TopologyLines

/-!
# What a topology file says

The lines of a file that say something are in blocks: the sections, and in the sections
of nodes and links the entries, whose fields are in braces or on lines of their own. The
parser goes from line to line and keeps what it needs; here is what its state has to do
with the blocks of the lines so far (`Collects`).
-/

namespace WireLab

open Base

/-! ## Lines and blocks -/

/-- A line that says something: how far it is indented, if it is by blanks only, and
what it says. -/
structure ContentLine where
  indent : Option Nat
  content : Bytes
  deriving DecidableEq

/-- A line without its comment; nothing, if only blanks are left. -/
def contentLine (rawLine : Bytes) : Option ContentLine :=
  let line := withoutComment rawLine
  if (trim line).isEmpty then none
  else
    let margin := line.takeWhile fun c => c = 0x20 || c = 0x09
    some {
      indent := if 0x09 ∈ margin then none else some margin.length
      content := line.drop margin.length }

def contentLines (yaml : Bytes) : List ContentLine := (splitPieces 0x0A yaml).filterMap contentLine

/-- The lines that begin sections are not indented. -/
def ContentLine.isHeader (line : ContentLine) : Bool := line.indent = some 0

/-- The lines that begin entries. -/
def ContentLine.isItem (line : ContentLine) : Bool :=
  line.indent = some 2 && line.content.head? = some 0x2D

/-- What the headers of a file's sections say. -/
def sectionHeaders (lines : List ContentLine) : List Bytes :=
  (blocks ContentLine.isHeader lines).2.map fun block => block.1.content

/-- The lines of the sections with a header. -/
def sectionLines (header : Bytes) (lines : List ContentLine) : List ContentLine :=
  ((blocks ContentLine.isHeader lines).2.filter fun block => block.1.content = header).flatMap
    Prod.snd

/-! ## Fields -/

abbrev Field := Bytes × Bytes

/-- A field on a line of its own. -/
def ContentLine.field (line : ContentLine) : Option Field :=
  if line.indent = some 4 then splitField line.content else none

/-- The fields in braces. -/
def flowFields (text : Bytes) : Option (List Field) := do
  if text.length < 2 ∨ text.head? ≠ some 0x7B ∨ text.getLast? ≠ some 0x7D then none
  else
    let fields ← (splitPieces 0x2C ((text.drop 1).dropLast)).mapM splitField
    if fields.isEmpty then none else return fields

/-- The fields behind the hyphen of an entry, if there are any. -/
def ContentLine.itemFields (line : ContentLine) : Option (List Field) :=
  let text := trim (line.content.drop 1)
  if text.isEmpty then some [] else flowFields text

/-- The fields of an entry: those behind its hyphen, then those on lines of their own. -/
def blockFields (entry : ContentLine × List ContentLine) : Option (List Field) := do
  let flow ← entry.1.itemFields
  let later ← entry.2.mapM ContentLine.field
  return flow ++ later

/-- Fields as the parser keeps them, each key once. -/
def Fields.Lists (fields : Fields) (listed : List Field) : Prop :=
  listed.Perm (fields.entries.map fun entry => (entry.1, entry.2))

namespace Fields.Lists

variable {fields : Fields} {listed : List Field}

theorem empty : Fields.Lists ∅ [] := List.Perm.refl []

theorem length_eq (h : Fields.Lists fields listed) : listed.length = fields.entries.length := by
  rw [List.Perm.length_eq h, List.length_map]

theorem mem_iff (h : Fields.Lists fields listed) {key value : Bytes} :
    (key, value) ∈ listed ↔ fields.lookup key = some value := by
  rw [List.Perm.mem_iff h, ← Dict.mem_entries_iff, List.mem_map]
  constructor
  · rintro ⟨⟨key', value'⟩, hmem, heq⟩
    obtain ⟨rfl, rfl⟩ := Prod.mk.inj heq
    exact hmem
  · intro hmem
    exact ⟨_, hmem, rfl⟩

theorem nodup (h : Fields.Lists fields listed) : listed.Nodup := by
  rw [List.Perm.nodup_iff h]
  have hkeys : (fields.entries.map Sigma.fst).Nodup := fields.nodupKeys
  refine List.Nodup.of_map Prod.fst ?_
  rwa [List.map_map]

theorem insert (h : Fields.Lists fields listed) {key value : Bytes} (hnew : fields.lookup key = none) :
    Fields.Lists (fields.insert key value) (listed ++ [(key, value)]) := by
  unfold Fields.Lists
  rw [Dict.entries_insert_fresh fields hnew, List.map_cons]
  exact (List.perm_append_singleton _ _).trans (List.Perm.cons _ h)

end Fields.Lists

/-- The fields in braces are added to those the parser has. -/
private theorem addFlowFields_lists {pieces : List Bytes} {fields fields' : Fields}
    (h : addFlowFields pieces fields = some fields') :
    ∃ flow, pieces.mapM splitField = some flow ∧
      ∀ listed, fields.Lists listed → fields'.Lists (listed ++ flow) := by
  induction pieces generalizing fields with
  | nil =>
      obtain rfl := Option.some.inj h
      exact ⟨[], rfl, fun listed hlisted => by rwa [List.append_nil]⟩
  | cons piece pieces ih =>
      unfold addFlowFields at h
      cases hsplit : splitField piece with
      | none => exact absurd h (by simp [hsplit])
      | some field =>
          obtain ⟨key, value⟩ := field
          rw [hsplit] at h
          dsimp only at h
          split at h
          · exact absurd h (by simp)
          · next hnew =>
              rw [Option.not_isSome_iff_eq_none] at hnew
              obtain ⟨flow, hflow, hlists⟩ := ih h
              refine ⟨(key, value) :: flow, ?_, fun listed hlisted => ?_⟩
              · rw [List.mapM_cons, hsplit, Option.bind_eq_bind, Option.bind_some, hflow]
                rfl
              · rw [List.append_cons]
                exact hlists _ (hlisted.insert hnew)

private theorem parseFlowMapping_lists {text : Bytes} {fields : Fields}
    (h : parseFlowMapping text ∅ = some fields) :
    ∃ flow, flowFields text = some flow ∧ fields.Lists flow := by
  unfold parseFlowMapping at h
  split at h
  · exact absurd h (by simp)
  · next hbraces =>
      split at h
      · exact absurd h (by simp)
      · next added hadded =>
          split at h
          · exact absurd h (by simp)
          · next hsome =>
              obtain rfl := Option.some.inj h
              obtain ⟨flow, hflow, hlists⟩ := addFlowFields_lists hadded
              have hlisted := hlists [] Fields.Lists.empty
              have hne : flow.isEmpty = false := by
                have hlength := hlisted.length_eq
                rw [List.nil_append] at hlength
                cases flow with
                | nil => exact absurd (List.length_eq_zero_iff.mp hlength.symm) (by simpa using hsome)
                | cons => rfl
              refine ⟨flow, ?_, hlisted⟩
              rw [flowFields, if_neg hbraces, hflow, Option.bind_eq_bind, Option.bind_some, hne]
              rfl

/-! ## Entries -/

private theorem blockFields_append {head line : ContentLine} {body : List ContentLine}
    {listed : List Field} {field : Field} (hbody : blockFields (head, body) = some listed)
    (hline : line.field = some field) :
    blockFields (head, body ++ [line]) = some (listed ++ [field]) := by
  unfold blockFields at hbody ⊢
  simp only [Option.bind_eq_bind, Option.bind_eq_some_iff] at hbody ⊢
  obtain ⟨flow, hflow, later, hlater, hlisted⟩ := hbody
  obtain rfl := Option.some.inj hlisted
  refine ⟨flow, hflow, later ++ [field], ?_, by rw [List.append_assoc]; rfl⟩
  rw [List.mapM_append, hlater]
  simp [hline]

section
variable {α : Type} (make : Fields → Except TopologyYamlError α)

/-- The fields of an entry have made an item. -/
def Made (entry : ContentLine × List ContentLine) (item : α) : Prop :=
  ∃ fields listed, blockFields entry = some listed ∧ Fields.Lists fields listed ∧
    make fields = .ok item

/-- The entry that is being collected, if there is one. -/
def Pending (entries : List (ContentLine × List ContentLine)) : Option Fields → Prop
  | none => entries = []
  | some fields => ∃ entry listed, entries = [entry] ∧ blockFields entry = some listed ∧
      Fields.Lists fields listed

/-- The lines of a section are entries, of which all have made items but for one that may
be being collected. -/
structure Entries (lines : List ContentLine) (items : List α) (pending : Option Fields) : Prop where
  leading : (blocks ContentLine.isItem lines).1 = []
  made : ∃ closed last, (blocks ContentLine.isItem lines).2 = closed ++ last ∧
    List.Forall₂ (Made make) closed items ∧ Pending last pending

variable {make} {lines : List ContentLine} {items : List α}

theorem Entries.nil : Entries make [] [] none where
  leading := rfl
  made := ⟨[], [], rfl, .nil, rfl⟩

theorem Entries.close {fields : Fields} {item : α} (h : Entries make lines items (some fields))
    (hmake : make fields = .ok item) : Entries make lines (items ++ [item]) none where
  leading := h.leading
  made := by
    obtain ⟨closed, last, hblocks, hclosed, entry, listed, rfl, hentry, hlists⟩ := h.made
    refine ⟨closed ++ [entry], [], by rw [hblocks, List.append_nil], ?_, rfl⟩
    exact List.rel_append hclosed (.cons ⟨fields, listed, hentry, hlists, hmake⟩ .nil)

theorem Entries.begin {line : ContentLine} {fields : Fields} {flow : List Field}
    (h : Entries make lines items none) (hitem : line.isItem = true)
    (hline : line.itemFields = some flow) (hlists : fields.Lists flow) :
    Entries make (lines ++ [line]) items (some fields) where
  leading := by
    rw [blocks_append_head hitem]
    exact h.leading
  made := by
    obtain ⟨closed, last, hblocks, hclosed, rfl⟩ := h.made
    have hfields : blockFields (line, []) = some flow := by
      rw [blockFields, hline, Option.bind_eq_bind, Option.bind_some]
      exact congrArg some (List.append_nil flow)
    refine ⟨closed, [(line, [])], ?_, hclosed, (line, []), flow, rfl, hfields, hlists⟩
    rw [blocks_append_head hitem, hblocks, List.append_nil]

theorem Entries.field {line : ContentLine} {fields : Fields} {key value : Bytes}
    (h : Entries make lines items (some fields)) (hline : line.field = some (key, value))
    (hnew : fields.lookup key = none) :
    Entries make (lines ++ [line]) items (some (fields.insert key value)) := by
  have hitem : line.isItem = false := by
    unfold ContentLine.field at hline
    split at hline
    · next hindent => simp [ContentLine.isItem, hindent]
    · exact absurd hline (by simp)
  obtain ⟨closed, last, hblocks, hclosed, ⟨head, body⟩, listed, rfl, hentry, hlists⟩ := h.made
  have hlast := blocks_append_item hitem hblocks
  refine ⟨?_, closed, [(head, body ++ [line])], ?_, hclosed, (head, body ++ [line]),
    listed ++ [(key, value)], rfl, blockFields_append hentry hline, hlists.insert hnew⟩
  · rw [hlast]
    exact h.leading
  · rw [hlast]

end

/-! ## One line of the parser -/

/-- What a section's header says. -/
def YamlSection.header : YamlSection → Bytes
  | .none => []
  | .network => bytes "network:"
  | .nodes => bytes "nodes:"
  | .links => bytes "links:"

namespace TopologyYamlParser

/-- A line that says something. -/
def parseContent (parser : TopologyYamlParser) (line : ContentLine) :
    Except TopologyYamlError TopologyYamlParser :=
  match line.indent with
  | none => .error .malformedDocument
  | some indent =>
      if indent = 0 then do
        let parser ← parser.flushEntry
        parser.openSection line.content
      else if parser.currentSection = .network then parser.networkField indent line.content
      else if parser.currentSection = .none then .error .malformedDocument
      else if indent = 2 ∧ line.content.head? = some 0x2D then parser.beginEntry line.content
      else parser.entryField indent line.content

private theorem parseLine_eq (parser : TopologyYamlParser) (rawLine : Bytes) :
    parser.parseLine rawLine =
      match contentLine rawLine with
      | none => .ok parser
      | some line => parser.parseContent line := by
  unfold parseLine contentLine
  dsimp only
  by_cases hblank : (trim (withoutComment rawLine)).isEmpty = true
  · rw [if_pos hblank, if_pos hblank]
  · rw [if_neg hblank, if_neg hblank]
    dsimp only [parseContent]
    by_cases htab : 0x09 ∈ (withoutComment rawLine).takeWhile fun c => c = 0x20 || c = 0x09
    · rw [if_pos htab, if_pos htab]
    · rw [if_neg htab, if_neg htab]

/-- Lines that say nothing do nothing. -/
theorem parseLines_eq (parser : TopologyYamlParser) (rawLines : List Bytes) :
    parseLines parser rawLines = (rawLines.filterMap contentLine).foldlM parseContent parser := by
  induction rawLines generalizing parser with
  | nil => rfl
  | cons rawLine rawLines ih =>
      rw [parseLines, parseLine_eq]
      cases hline : contentLine rawLine with
      | none =>
          rw [List.filterMap_cons_none hline]
          exact ih parser
      | some line =>
          rw [List.filterMap_cons_some hline, List.foldlM_cons]
          cases hparse : parser.parseContent line with
          | error e => simp [hparse, bind, Except.bind]
          | ok next => simp [hparse, bind, Except.bind, ih next]

/-- Whether a section has been opened. -/
def opened (parser : TopologyYamlParser) : YamlSection → Bool
  | .none => false
  | .network => parser.hasNetwork
  | .nodes => parser.hasNodes
  | .links => parser.hasLinks

/-- The parser after the header of a section. -/
def opening (parser : TopologyYamlParser) : YamlSection → TopologyYamlParser
  | .none => parser
  | .network => { parser with currentSection := .network, hasNetwork := true }
  | .nodes => { parser with currentSection := .nodes, hasNodes := true }
  | .links => { parser with currentSection := .links, hasLinks := true }

/-- The entry that is being collected for a section, if there is one. -/
def pending (parser : TopologyYamlParser) (kind : YamlSection) : Option Fields :=
  if parser.hasEntry = true ∧ parser.entrySection = kind then some parser.entryFields else none

theorem openSection_eq {parser out : TopologyYamlParser} {content : Bytes}
    (h : parser.openSection content = .ok out) :
    ∃ kind, kind ≠ .none ∧ content = kind.header ∧ parser.opened kind = false ∧
      out = parser.opening kind := by
  unfold openSection at h
  split at h
  · next hcontent =>
      split at h
      · cases h
      · next hnew => exact ⟨.network, by decide, hcontent, eq_false_of_ne_true hnew, (Except.ok.inj h).symm⟩
  split at h
  · next hcontent =>
      split at h
      · cases h
      · next hnew => exact ⟨.nodes, by decide, hcontent, eq_false_of_ne_true hnew, (Except.ok.inj h).symm⟩
  split at h
  · next hcontent =>
      split at h
      · cases h
      · next hnew => exact ⟨.links, by decide, hcontent, eq_false_of_ne_true hnew, (Except.ok.inj h).symm⟩
  · cases h

/-! ## Sections -/

theorem sectionLines_header {line : ContentLine} (h : line.isHeader = true) (header : Bytes)
    (lines : List ContentLine) : sectionLines header (lines ++ [line]) = sectionLines header lines := by
  unfold sectionLines
  rw [blocks_append_head h, List.filter_append, List.flatMap_append]
  by_cases hline : line.content = header <;> simp [hline]

theorem sectionLines_behind {line head : ContentLine} (h : line.isHeader = false)
    {lines body : List ContentLine} {before : List (ContentLine × List ContentLine)}
    (hlast : (blocks ContentLine.isHeader lines).2 = before ++ [(head, body)]) (header : Bytes) :
    sectionLines header (lines ++ [line]) =
      if head.content = header then sectionLines header lines ++ [line]
      else sectionLines header lines := by
  unfold sectionLines
  rw [blocks_append_item h hlast, hlast, List.filter_append, List.filter_append,
    List.flatMap_append, List.flatMap_append]
  by_cases hhead : head.content = header <;> simp [hhead]

theorem header_inj {kind other : YamlSection} (hkind : kind ≠ .none) (hother : other ≠ .none) :
    kind.header = other.header ↔ kind = other := by
  cases kind <;> cases other <;> first | exact absurd rfl hkind | exact absurd rfl hother | decide

/-! ## The parser's state -/

/-- A line with the name of the network. -/
def NameLine (line : ContentLine) (name : Bytes) : Prop :=
  line.indent = some 2 ∧ splitField line.content = some (bytes "name", name)

/-- What the parser knows of the lines it has read. -/
structure Collects (lines : List ContentLine) (parser : TopologyYamlParser) : Prop where
  leading : (blocks ContentLine.isHeader lines).1 = []
  nodup : (sectionHeaders lines).Nodup
  headers : ∀ header, header ∈ sectionHeaders lines ↔
    ∃ kind, kind ≠ .none ∧ header = kind.header ∧ parser.opened kind = true
  current : (parser.currentSection = .none ∧ (blocks ContentLine.isHeader lines).2 = []) ∨
    (parser.currentSection ≠ .none ∧ ∃ before head body,
      (blocks ContentLine.isHeader lines).2 = before ++ [(head, body)] ∧
        head.content = parser.currentSection.header)
  name : (parser.hasName = false ∧ sectionLines YamlSection.network.header lines = []) ∨
    (parser.hasName = true ∧ ∃ line, sectionLines YamlSection.network.header lines = [line] ∧
      NameLine line parser.configuration.name)
  nodes : Entries entryNode (sectionLines YamlSection.nodes.header lines)
    parser.configuration.nodes (parser.pending .nodes)
  links : Entries entryLink (sectionLines YamlSection.links.header lines)
    parser.configuration.links (parser.pending .links)
  idle : parser.hasEntry = false → parser.entryFields = ∅
  entry : parser.hasEntry = true → parser.entrySection = parser.currentSection ∧
    (parser.entrySection = .nodes ∨ parser.entrySection = .links)

theorem collects_nil : Collects [] {} where
  leading := rfl
  nodup := .nil
  headers header := by
    constructor
    · intro hmem
      exact absurd hmem List.not_mem_nil
    · rintro ⟨kind, -, -, hopened⟩
      cases kind <;> cases hopened
  current := .inl ⟨rfl, rfl⟩
  name := .inl ⟨rfl, rfl⟩
  nodes := .nil
  links := .nil
  idle _ := rfl
  entry hentry := by cases hentry

section
variable {lines : List ContentLine} {parser out : TopologyYamlParser} (h : Collects lines parser)
include h

/-- Finishing an entry makes its item, and leaves nothing to be collected. -/
theorem Collects.flush (hflush : parser.flushEntry = .ok out) :
    Collects lines out ∧ out.hasEntry = false ∧ out.currentSection = parser.currentSection := by
  cases flushEntry_flushes hflush with
  | idle hidle => exact ⟨h, hidle, rfl⟩
  | node hentry hsection hnode =>
      have hpending : parser.pending .nodes = some parser.entryFields := if_pos ⟨hentry, hsection⟩
      have hlinks : parser.pending .links = none := if_neg (by rw [hsection]; simp)
      have hnodes := h.nodes
      have hothers := h.links
      rw [hpending] at hnodes
      rw [hlinks] at hothers
      refine ⟨{ h with nodes := ?_, links := hothers, idle := fun _ => rfl, entry := ?_ }, rfl, rfl⟩
      · exact hnodes.close hnode
      · intro hfalse
        cases hfalse
  | link hentry hsection hlink =>
      have hkind : parser.entrySection = .links := (h.entry hentry).2.resolve_left hsection
      have hpending : parser.pending .links = some parser.entryFields := if_pos ⟨hentry, hkind⟩
      have hnodes : parser.pending .nodes = none := if_neg (by rw [hkind]; simp)
      have hlinks := h.links
      have hothers := h.nodes
      rw [hpending] at hlinks
      rw [hnodes] at hothers
      refine ⟨{ h with nodes := hothers, links := ?_, idle := fun _ => rfl, entry := ?_ }, rfl, rfl⟩
      · exact hlinks.close hlink
      · intro hfalse
        cases hfalse

/-- A header opens its section. -/
theorem Collects.open {line : ContentLine} (hline : line.isHeader = true)
    (hidle : parser.hasEntry = false) (hopen : parser.openSection line.content = .ok out) :
    Collects (lines ++ [line]) out := by
  obtain ⟨kind, hkind, hcontent, hnew, rfl⟩ := openSection_eq hopen
  have hheaders : sectionHeaders (lines ++ [line]) = sectionHeaders lines ++ [kind.header] := by
    rw [sectionHeaders, blocks_append_head hline, List.map_append, ← hcontent]
    rfl
  have hfresh : kind.header ∉ sectionHeaders lines := by
    rw [h.headers]
    rintro ⟨other, hother, hheader, hopened⟩
    rw [header_inj hkind hother] at hheader
    rw [← hheader, hnew] at hopened
    cases hopened
  have hopened (other : YamlSection) : (parser.opening kind).opened other = true ↔
      other = kind ∧ kind ≠ .none ∨ parser.opened other = true := by
    cases kind <;> cases other <;> simp [opening, opened]
  -- opening a section changes nothing of the entry and of what was collected
  have hkept : (parser.opening kind).currentSection = kind ∧
      (parser.opening kind).configuration = parser.configuration ∧
      (parser.opening kind).hasName = parser.hasName ∧
      (parser.opening kind).hasEntry = parser.hasEntry ∧
      (parser.opening kind).entryFields = parser.entryFields ∧
      (parser.opening kind).entrySection = parser.entrySection := by
    cases kind with
    | none => exact absurd rfl hkind
    | network | nodes | links => exact ⟨rfl, rfl, rfl, rfl, rfl, rfl⟩
  obtain ⟨hcurrent, hconfiguration, hname, hentry, hfields, hsection⟩ := hkept
  have hpending (other : YamlSection) : (parser.opening kind).pending other = parser.pending other := by
    rw [pending, pending, hentry, hsection, hfields]
  exact {
    leading := by
      rw [blocks_append_head hline]
      exact h.leading
    nodup := by
      rw [hheaders]
      exact List.nodup_append.mpr ⟨h.nodup, List.nodup_singleton _, fun header hmem other hother => by
        rw [List.mem_singleton.mp hother]
        rintro rfl
        exact hfresh hmem⟩
    headers := fun header => by
      rw [hheaders, List.mem_append, List.mem_singleton, h.headers]
      constructor
      · rintro (⟨other, hother, hheader, hold⟩ | rfl)
        · exact ⟨other, hother, hheader, (hopened other).mpr (.inr hold)⟩
        · exact ⟨kind, hkind, rfl, (hopened kind).mpr (.inl ⟨rfl, hkind⟩)⟩
      · rintro ⟨other, hother, hheader, hnow⟩
        obtain ⟨rfl, -⟩ | hold := (hopened other).mp hnow
        · exact .inr hheader
        · exact .inl ⟨other, hother, hheader, hold⟩
    current := by
      rw [hcurrent]
      refine .inr ⟨hkind, (blocks ContentLine.isHeader lines).2, line, [], ?_, hcontent⟩
      rw [blocks_append_head hline]
    name := by
      rw [hname, hconfiguration, sectionLines_header hline]
      exact h.name
    nodes := by
      rw [hpending, hconfiguration, sectionLines_header hline]
      exact h.nodes
    links := by
      rw [hpending, hconfiguration, sectionLines_header hline]
      exact h.links
    idle := fun _ => hfields.trans (h.idle hidle)
    entry := fun htrue => by
      rw [hentry, hidle] at htrue
      cases htrue }

/-- A line behind a header is of the section that is open, and of no other. -/
private theorem Collects.behind {line : ContentLine} (hline : line.isHeader = false)
    (hopen : parser.currentSection ≠ .none) {kind : YamlSection} (hkind : kind ≠ .none) :
    sectionLines kind.header (lines ++ [line]) =
      if parser.currentSection = kind then sectionLines kind.header lines ++ [line]
      else sectionLines kind.header lines := by
  obtain ⟨hclosed, -⟩ | ⟨-, before, head, body, hlast, hhead⟩ := h.current
  · exact absurd hclosed hopen
  · rw [sectionLines_behind hline hlast, hhead]
    exact if_congr (header_inj hopen hkind) rfl rfl

/-- Such a line leaves the sections as they are. -/
private theorem Collects.extend {line : ContentLine} (hline : line.isHeader = false)
    (hopen : parser.currentSection ≠ .none) (hcurrent : out.currentSection = parser.currentSection)
    (hopened : ∀ kind, out.opened kind = parser.opened kind)
    (hname : (out.hasName = false ∧
        sectionLines YamlSection.network.header (lines ++ [line]) = []) ∨
      (out.hasName = true ∧ ∃ other,
        sectionLines YamlSection.network.header (lines ++ [line]) = [other] ∧
          NameLine other out.configuration.name))
    (hnodes : Entries entryNode (sectionLines YamlSection.nodes.header (lines ++ [line]))
      out.configuration.nodes (out.pending .nodes))
    (hlinks : Entries entryLink (sectionLines YamlSection.links.header (lines ++ [line]))
      out.configuration.links (out.pending .links))
    (hidle : out.hasEntry = false → out.entryFields = ∅)
    (hentry : out.hasEntry = true → out.entrySection = out.currentSection ∧
      (out.entrySection = .nodes ∨ out.entrySection = .links)) :
    Collects (lines ++ [line]) out := by
  obtain ⟨hclosed, -⟩ | ⟨-, before, head, body, hlast, hhead⟩ := h.current
  · exact absurd hclosed hopen
  have hblocks := blocks_append_item hline hlast
  have hheaders : sectionHeaders (lines ++ [line]) = sectionHeaders lines := by
    rw [sectionHeaders, sectionHeaders, hblocks, hlast, List.map_append, List.map_append]
    rfl
  exact {
    leading := by
      rw [hblocks]
      exact h.leading
    nodup := hheaders ▸ h.nodup
    headers := fun header => by
      rw [hheaders, h.headers]
      simp only [hopened]
    current := by
      rw [hcurrent]
      refine .inr ⟨hopen, before, head, body ++ [line], ?_, hhead⟩
      rw [hblocks]
    name := hname
    nodes := hnodes
    links := hlinks
    idle := hidle
    entry := hentry }

/-- The name of the network. -/
theorem Collects.network {line : ContentLine} {indent : Nat} (hindent : line.indent = some indent)
    (hpositive : indent ≠ 0) (hsection : parser.currentSection = .network)
    (hfield : parser.networkField indent line.content = .ok out) : Collects (lines ++ [line]) out := by
  have hline : line.isHeader = false := by simp [ContentLine.isHeader, hindent, hpositive]
  have hopen : parser.currentSection ≠ .none := by rw [hsection]; decide
  unfold networkField at hfield
  split at hfield
  · next key value hsplit =>
      split at hfield
      · cases hfield
      · next hok =>
          obtain rfl := Except.ok.inj hfield
          simp only [not_or, not_not, Bool.not_eq_true] at hok
          obtain ⟨htwo, rfl, hnew⟩ := hok
          have hempty : sectionLines YamlSection.network.header lines = [] := by
            obtain ⟨-, hempty⟩ | ⟨hnamed, -⟩ := h.name
            · exact hempty
            · rw [hnew] at hnamed
              cases hnamed
          refine h.extend hline hopen rfl (fun _ => rfl) (.inr ⟨rfl, line, ?_, ?_, hsplit⟩) ?_ ?_
            h.idle h.entry
          · rw [h.behind hline hopen (by decide), if_pos hsection, hempty]
            rfl
          · rw [hindent, htwo]
          · rw [h.behind hline hopen (by decide), if_neg (by rw [hsection]; decide)]
            exact h.nodes
          · rw [h.behind hline hopen (by decide), if_neg (by rw [hsection]; decide)]
            exact h.links
  · cases hfield

omit h in
/-- The first line of an entry. -/
private theorem beginEntry_eq {flushed : TopologyYamlParser} {line : ContentLine}
    (hflush : parser.flushEntry = .ok flushed) (hfields : flushed.entryFields = ∅)
    (hbegin : parser.beginEntry line.content = .ok out) :
    ∃ fields flow, line.itemFields = some flow ∧ Fields.Lists fields flow ∧
      out = { flushed with
        entrySection := flushed.currentSection, entryFields := fields, hasEntry := true } := by
  unfold beginEntry at hbegin
  simp only [hflush, bind, Except.bind] at hbegin
  unfold ContentLine.itemFields
  split at hbegin
  · next hempty =>
      obtain rfl := Except.ok.inj hbegin
      refine ⟨∅, [], if_pos hempty, Fields.Lists.empty, ?_⟩
      rw [← hfields]
  · next hsome =>
      split at hbegin
      · cases hbegin
      · next fields hparse =>
          obtain rfl := Except.ok.inj hbegin
          rw [hfields] at hparse
          obtain ⟨flow, hflow, hlists⟩ := parseFlowMapping_lists hparse
          exact ⟨fields, flow, (if_neg hsome).trans hflow, hlists, rfl⟩

/-- The first line of an entry in a section of nodes or links. -/
theorem Collects.begin {line : ContentLine} (hindent : line.indent = some 2)
    (hhyphen : line.content.head? = some 0x2D)
    (hsection : parser.currentSection = .nodes ∨ parser.currentSection = .links)
    (hbegin : parser.beginEntry line.content = .ok out) : Collects (lines ++ [line]) out := by
  have hline : line.isHeader = false := by simp [ContentLine.isHeader, hindent]
  have hitem : line.isItem = true := by simp [ContentLine.isItem, hindent, hhyphen]
  cases hflush : parser.flushEntry with
  | error e =>
      rw [beginEntry, hflush] at hbegin
      cases hbegin
  | ok flushed =>
      obtain ⟨hcollects, hidle, hcurrent⟩ := h.flush hflush
      obtain ⟨fields, flow, hflow, hlists, rfl⟩ :=
        beginEntry_eq hflush (hcollects.idle hidle) hbegin
      rw [← hcurrent] at hsection
      have hopen : flushed.currentSection ≠ .none := by rcases hsection with h | h <;> simp [h]
      have hnone (kind : YamlSection) : flushed.pending kind = none := if_neg (by simp [hidle])
      have hnodes := hcollects.nodes
      have hlinks := hcollects.links
      rw [hnone] at hnodes hlinks
      refine hcollects.extend hline hopen rfl (fun kind => by cases kind <;> rfl) ?_ ?_ ?_
        (fun hfalse => by cases hfalse) (fun _ => ⟨rfl, hsection⟩)
      · rw [hcollects.behind hline hopen (by decide),
          if_neg (by rcases hsection with h | h <;> simp [h])]
        exact hcollects.name
      · rw [hcollects.behind hline hopen (by decide)]
        rcases hsection with hkind | hkind
        · simp only [pending, hkind, and_self, if_true]
          exact hnodes.begin hitem hflow hlists
        · simpa [pending, hkind] using hnodes
      · rw [hcollects.behind hline hopen (by decide)]
        rcases hsection with hkind | hkind
        · simpa [pending, hkind] using hlinks
        · simp only [pending, hkind, and_self, if_true]
          exact hlinks.begin hitem hflow hlists

/-- A field on a line of its own. -/
theorem Collects.field {line : ContentLine} {indent : Nat} (hindent : line.indent = some indent)
    (hsection : parser.currentSection = .nodes ∨ parser.currentSection = .links)
    (hfield : parser.entryField indent line.content = .ok out) : Collects (lines ++ [line]) out := by
  unfold entryField at hfield
  split at hfield
  · next key value hsplit =>
      split at hfield
      · cases hfield
      · next hok =>
          obtain rfl := Except.ok.inj hfield
          simp only [not_or, not_not, Bool.not_eq_eq_eq_not, Bool.not_true, Bool.not_eq_false,
            Option.not_isSome_iff_eq_none] at hok
          obtain ⟨rfl, hentry, hnew⟩ := hok
          have hline : line.isHeader = false := by simp [ContentLine.isHeader, hindent]
          have hread : line.field = some (key, value) := by
            rw [ContentLine.field, if_pos hindent, hsplit]
          have hopen : parser.currentSection ≠ .none := by rcases hsection with h | h <;> simp [h]
          have hkind := (h.entry hentry).1
          refine h.extend hline hopen rfl (fun kind => by cases kind <;> rfl) ?_ ?_ ?_
            (fun hfalse => by simp [hentry] at hfalse) h.entry
          · rw [h.behind hline hopen (by decide),
              if_neg (by rcases hsection with h | h <;> simp [h])]
            exact h.name
          · rw [h.behind hline hopen (by decide)]
            have hnodes := h.nodes
            rcases hsection with hcurrent | hcurrent
            · simp only [pending, hentry, hkind, hcurrent, and_self, if_true] at hnodes ⊢
              exact hnodes.field hread hnew
            · simpa [pending, hkind, hcurrent] using hnodes
          · rw [h.behind hline hopen (by decide)]
            have hlinks := h.links
            rcases hsection with hcurrent | hcurrent
            · simpa [pending, hkind, hcurrent] using hlinks
            · simp only [pending, hentry, hkind, hcurrent, and_self, if_true] at hlinks ⊢
              exact hlinks.field hread hnew
  · cases hfield

/-- **One line.** -/
theorem Collects.step {line : ContentLine} (hparse : parser.parseContent line = .ok out) :
    Collects (lines ++ [line]) out := by
  unfold parseContent at hparse
  split at hparse
  · cases hparse
  · next indent hindent =>
      split at hparse
      · next hzero =>
          have hline : line.isHeader = true := by simp [ContentLine.isHeader, hindent, hzero]
          cases hflush : parser.flushEntry with
          | error e =>
              rw [hflush] at hparse
              cases hparse
          | ok flushed =>
              rw [hflush] at hparse
              obtain ⟨hcollects, hidle, -⟩ := h.flush hflush
              exact hcollects.open hline hidle hparse
      next hpositive =>
      split at hparse
      · next hnetwork => exact h.network hindent hpositive hnetwork hparse
      next hnetwork =>
      split at hparse
      · cases hparse
      next hnone =>
      have hsection : parser.currentSection = .nodes ∨ parser.currentSection = .links := by
        cases hkind : parser.currentSection with
        | none => exact absurd hkind hnone
        | network => exact absurd hkind hnetwork
        | nodes => exact .inl rfl
        | links => exact .inr rfl
      split at hparse
      · next hitem =>
          obtain ⟨rfl, hhyphen⟩ := hitem
          exact h.begin hindent hhyphen hsection hparse
      · exact h.field hindent hsection hparse

end

/-- **All lines.** -/
theorem collects_run {lines : List ContentLine} {parser : TopologyYamlParser}
    (h : lines.foldlM parseContent {} = .ok parser) : Collects lines parser := by
  induction lines using List.reverseRecOn generalizing parser with
  | nil =>
      obtain rfl := Except.ok.inj h
      exact collects_nil
  | append_singleton lines line ih =>
      rw [List.foldlM_append] at h
      cases hbefore : lines.foldlM parseContent {} with
      | error e =>
          rw [hbefore] at h
          cases h
      | ok before =>
          rw [hbefore] at h
          cases hlast : before.parseContent line with
          | error e =>
              simp only [List.foldlM_cons, hlast, bind, Except.bind] at h
              cases h
          | ok last =>
              simp only [List.foldlM_cons, List.foldlM_nil, hlast, bind, Except.bind] at h
              obtain rfl := Except.ok.inj h
              exact (ih hbefore).step hlast

end TopologyYamlParser

end WireLab
