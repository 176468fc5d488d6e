import WireLab.Logic.TopologyBlocks

/-!
# What an accepted topology file says

A file that the parser accepts has its three sections once each, and the configuration
lists what its entries say. It is not so with every link: the parser counts the fields of
a link, but does not look at what the third is called, and it keeps a latency in a signed
number.
-/

namespace WireLab

open Base TopologyYamlParser

/-! ## What a file should say -/

/-- The fields of a node, in any order. -/
def SpellsNode (listed : List Field) (node : TopologyNode) : Prop :=
  listed.Perm [(bytes "id", node.id), (bytes "type", node.type.toString)]

/-- The fields of a link, in any order; the latency is a numeral, or zero if it is left
out. -/
def SpellsLink (listed : List Field) (link : TopologyLink) : Prop :=
  (listed.Perm [(bytes "from", link.from), (bytes "to", link.to)] ∧ link.latency = 0) ∨
    ∃ numeral, listed.Perm
        [(bytes "from", link.from), (bytes "to", link.to), (bytes "latency_ms", numeral)] ∧
      numeral ≠ [] ∧ (∀ c ∈ numeral, isDigit c = true) ∧ link.latency = (digitsFrom 0 numeral : Nat)

/-- The lines of a section are entries, and each spells its item. -/
def SpellsItems {α : Type} (spells : List Field → α → Prop) (lines : List ContentLine)
    (items : List α) : Prop :=
  (blocks ContentLine.isItem lines).1 = [] ∧
    List.Forall₂ (fun entry item => ∃ listed, blockFields entry = some listed ∧ spells listed item)
      (blocks ContentLine.isItem lines).2 items

/-- A file has its sections once each, in any order, with one name, and says of nodes and
links what the configuration lists, in its order. -/
structure FileSays (yaml : Bytes) (configuration : TopologyConfiguration) : Prop where
  leading : (blocks ContentLine.isHeader (contentLines yaml)).1 = []
  headers : (sectionHeaders (contentLines yaml)).Perm
    [bytes "network:", bytes "nodes:", bytes "links:"]
  network : ∃ line, sectionLines (bytes "network:") (contentLines yaml) = [line] ∧
    NameLine line configuration.name
  nodes : SpellsItems SpellsNode (sectionLines (bytes "nodes:") (contentLines yaml))
    configuration.nodes
  links : SpellsItems SpellsLink (sectionLines (bytes "links:") (contentLines yaml))
    configuration.links

/-- The entries of the links. -/
def linkBlocks (yaml : Bytes) : List (ContentLine × List ContentLine) :=
  (blocks ContentLine.isItem (sectionLines (bytes "links:") (contentLines yaml))).2

/-- If there is a third field, it is a latency, which has room in a signed number. -/
def KnownThird (listed : List Field) : Prop :=
  listed.length = 3 →
    ∃ numeral, (bytes "latency_ms", numeral) ∈ listed ∧ digitsFrom 0 numeral < 2 ^ 63

/-! ## What the parser makes of fields -/

/-- Fields that are there are all, if there are no more. -/
private theorem perm_of_members {listed expected : List Field}
    (hkeys : (expected.map Prod.fst).Nodup) (hmem : ∀ field ∈ expected, field ∈ listed)
    (hlength : listed.length ≤ expected.length) : listed.Perm expected :=
  ((List.subperm_of_subset (List.Nodup.of_map Prod.fst hkeys) hmem).perm_of_length_le hlength).symm

theorem entryNode_spells {fields : Fields} {listed : List Field} {node : TopologyNode}
    (hlists : Fields.Lists fields listed) (h : entryNode fields = .ok node) :
    SpellsNode listed node := by
  have hlength := hlists.length_eq
  unfold entryNode at h
  split at h
  · next id type htwo hid htype =>
      rw [htwo] at hlength
      have hspelled : node.id = id ∧ node.type.toString = type := by
        split at h
        · next hhost =>
            obtain rfl := Except.ok.inj h
            exact ⟨rfl, hhost.symm⟩
        · split at h
          · next hswitch =>
              obtain rfl := Except.ok.inj h
              exact ⟨rfl, hswitch.symm⟩
          · cases h
      obtain ⟨rfl, rfl⟩ := hspelled
      have hkeys : [bytes "id", bytes "type"].Nodup := by decide +kernel
      refine perm_of_members hkeys (fun field hfield => ?_) hlength.le
      rcases List.mem_pair.mp hfield with rfl | rfl
      · exact hlists.mem_iff.mpr hid
      · exact hlists.mem_iff.mpr htype
  · cases h

/-- Digits that were read are the number they spell. -/
private theorem digitsValue_some {digits : Bytes} {value result : Nat} (hvalue : value < 2 ^ 64)
    (h : digitsValue digits value = some result) :
    (∀ c ∈ digits, isDigit c = true) ∧ result = digitsFrom value digits ∧ result < 2 ^ 64 := by
  induction digits generalizing value with
  | nil =>
      obtain rfl := Option.some.inj h
      exact ⟨by simp, rfl, hvalue⟩
  | cons c digits ih =>
      unfold digitsValue at h
      dsimp only at h
      split at h
      · next hdigit =>
          split at h
          · next hfits =>
              obtain ⟨hdigits, hresult, hbound⟩ := ih hfits h
              exact ⟨List.forall_mem_cons.mpr ⟨hdigit, hdigits⟩, hresult, hbound⟩
          · cases h
      · cases h

/-- A latency is the number that is written if that has room in a signed number. -/
private theorem parseLatency_some {text : Bytes} {latency : Int} (h : parseLatency text = some latency) :
    text ≠ [] ∧ (∀ c ∈ text, isDigit c = true) ∧
      (latency = (digitsFrom 0 text : Nat) ↔ digitsFrom 0 text < 2 ^ 63) := by
  unfold parseLatency at h
  split at h
  · cases h
  · next hne =>
      cases hvalue : digitsValue text 0 with
      | none =>
          rw [hvalue] at h
          cases h
      | some value =>
          rw [hvalue] at h
          obtain rfl := Option.some.inj h
          obtain ⟨hdigits, rfl, hbound⟩ := digitsValue_some (by decide) hvalue
          refine ⟨by simpa using hne, hdigits, ?_⟩
          show Int.bmod _ _ = _ ↔ _
          rw [Int.bmod_def]
          omega

/-- What a link was made from. -/
private theorem entryLink_ok {fields : Fields} {link : TopologyLink} (h : entryLink fields = .ok link) :
    fields.lookup (bytes "from") = some link.from ∧ fields.lookup (bytes "to") = some link.to ∧
      fields.entries.length ≤ 3 ∧
      ((fields.lookup (bytes "latency_ms") = none ∧ link.latency = 0) ∨
        ∃ text, fields.lookup (bytes "latency_ms") = some text ∧
          parseLatency text = some link.latency) := by
  unfold entryLink at h
  split at h
  · next hfrom hto =>
      split at h
      · cases h
      · next hlength =>
          split at h
          · next hlatency =>
              obtain rfl := Except.ok.inj h
              exact ⟨hfrom, hto, Nat.not_lt.mp hlength, .inl ⟨hlatency, rfl⟩⟩
          · next text hlatency =>
              split at h
              · cases h
              · next latency hparse =>
                  obtain rfl := Except.ok.inj h
                  exact ⟨hfrom, hto, Nat.not_lt.mp hlength, .inr ⟨text, hlatency, hparse⟩⟩
  · cases h

/-- **A link is what its fields say** exactly if a third field is a latency. -/
theorem entryLink_spells_iff {fields : Fields} {listed : List Field} {link : TopologyLink}
    (hlists : Fields.Lists fields listed) (h : entryLink fields = .ok link) :
    SpellsLink listed link ↔ KnownThird listed := by
  obtain ⟨hfrom, hto, hlength, hlatency⟩ := entryLink_ok h
  rw [← hlists.length_eq] at hlength
  rw [← hlists.mem_iff] at hfrom hto
  constructor
  · intro hspells hthree
    rcases hspells with ⟨htwo, -⟩ | ⟨numeral, hperm, -, -, hexact⟩
    · have := htwo.length_eq
      rw [hthree] at this
      cases this
    · have hmem : (bytes "latency_ms", numeral) ∈ listed := hperm.mem_iff.mpr (by simp)
      refine ⟨numeral, hmem, ?_⟩
      rw [hlists.mem_iff] at hmem
      rcases hlatency with ⟨hnone, -⟩ | ⟨text, htext, hparse⟩
      · rw [hnone] at hmem
        cases hmem
      · obtain rfl := Option.some.inj (htext.symm.trans hmem)
        exact (parseLatency_some hparse).2.2.mp hexact
  · intro hknown
    rcases hlatency with ⟨hnone, hzero⟩ | ⟨text, htext, hparse⟩
    · have hkeys : [bytes "from", bytes "to"].Nodup := by decide +kernel
      refine .inl ⟨perm_of_members hkeys (fun field hfield => ?_) ?_, hzero⟩
      · rcases List.mem_pair.mp hfield with rfl | rfl
        · exact hfrom
        · exact hto
      · -- A third field would be a latency.
        by_contra hlong
        have hthree : listed.length = 3 := by
          simp only [List.length_cons, List.length_nil] at hlong
          omega
        obtain ⟨numeral, hmem, -⟩ := hknown hthree
        rw [hlists.mem_iff, hnone] at hmem
        cases hmem
    · have hmem := hlists.mem_iff.mpr htext
      have hperm : listed.Perm
          [(bytes "from", link.from), (bytes "to", link.to), (bytes "latency_ms", text)] := by
        have hkeys : [bytes "from", bytes "to", bytes "latency_ms"].Nodup := by decide +kernel
        refine perm_of_members hkeys (fun field hfield => ?_) hlength
        rcases List.mem_cons.mp hfield with rfl | hfield
        · exact hfrom
        rcases List.mem_pair.mp hfield with rfl | rfl
        · exact hto
        · exact hmem
      obtain ⟨hne, hdigits, hexact⟩ := parseLatency_some hparse
      obtain ⟨numeral, hnumeral, hfits⟩ := hknown hperm.length_eq
      rw [hlists.mem_iff, htext] at hnumeral
      obtain rfl := Option.some.inj hnumeral
      exact .inr ⟨text, hperm, hne, hdigits, hexact.mpr hfits⟩

/-! ## The whole file -/

/-- Entries that have all made items. -/
private theorem made_of_entries {α : Type} {make : Fields → Except TopologyYamlError α}
    {lines : List ContentLine} {items : List α} (h : Entries make lines items none) :
    List.Forall₂ (Made make) (blocks ContentLine.isItem lines).2 items := by
  obtain ⟨closed, last, hblocks, hclosed, rfl⟩ := h.made
  rwa [hblocks, List.append_nil]

/-- The state in which a file is accepted. -/
private theorem accepted_collects {yaml : Bytes} {configuration : TopologyConfiguration}
    (h : topologyConfigurationFromYaml yaml = .ok configuration) :
    ∃ parser, Collects (contentLines yaml) parser ∧ parser.hasEntry = false ∧
      parser.hasNetwork = true ∧ parser.hasName = true ∧ parser.hasNodes = true ∧
      parser.hasLinks = true ∧ parser.configuration = configuration := by
  unfold topologyConfigurationFromYaml at h
  rw [parseLines_eq] at h
  cases hrun : (contentLines yaml).foldlM parseContent {} with
  | error e =>
      rw [contentLines] at hrun
      rw [hrun] at h
      cases h
  | ok parser =>
      have hcollects := collects_run hrun
      rw [contentLines] at hrun
      rw [hrun] at h
      simp only [bind, Except.bind] at h
      unfold TopologyYamlParser.finish at h
      cases hflush : parser.flushEntry with
      | error e =>
          rw [hflush] at h
          cases h
      | ok flushed =>
          obtain ⟨hflushed, hidle, -⟩ := hcollects.flush hflush
          simp only [hflush, bind, Except.bind] at h
          split_ifs at h with hnetwork hname hnodes hlinks
          obtain rfl := Except.ok.inj h
          simp only [Bool.not_eq_eq_eq_not, Bool.not_true, Bool.not_eq_false] at *
          exact ⟨flushed, hflushed, hidle, hnetwork, hname, hnodes, hlinks, rfl⟩

/-- The headers of a file that is accepted. -/
private theorem headers_perm {lines : List ContentLine} {parser : TopologyYamlParser}
    (h : Collects lines parser) (hnetwork : parser.hasNetwork = true)
    (hnodes : parser.hasNodes = true) (hlinks : parser.hasLinks = true) :
    (sectionHeaders lines).Perm [bytes "network:", bytes "nodes:", bytes "links:"] := by
  rw [List.perm_ext_iff_of_nodup h.nodup (by decide +kernel)]
  intro header
  rw [h.headers, List.mem_cons, List.mem_pair]
  constructor
  · rintro ⟨kind, hkind, rfl, -⟩
    cases kind with
    | none => exact absurd rfl hkind
    | network => exact .inl rfl
    | nodes => exact .inr (.inl rfl)
    | links => exact .inr (.inr rfl)
  · rintro (rfl | rfl | rfl)
    · exact ⟨.network, by decide, rfl, hnetwork⟩
    · exact ⟨.nodes, by decide, rfl, hnodes⟩
    · exact ⟨.links, by decide, rfl, hlinks⟩

/-- **When an accepted file says what the configuration lists**: if every link that has a
third field has a latency, and one that a signed number of 64 bits holds. -/
theorem topology_file_says_iff {yaml : Bytes} {configuration : TopologyConfiguration}
    (h : topologyConfigurationFromYaml yaml = .ok configuration) :
    FileSays yaml configuration ↔
      ∀ entry ∈ linkBlocks yaml, ∀ listed, blockFields entry = some listed → KnownThird listed := by
  obtain ⟨parser, hcollects, hidle, hnetwork, hname, hnodes, hlinks, rfl⟩ := accepted_collects h
  have hpending (kind : YamlSection) : parser.pending kind = none := if_neg (by simp [hidle])
  have hnodeEntries := hcollects.nodes
  have hlinkEntries := hcollects.links
  rw [hpending] at hnodeEntries hlinkEntries
  have hmade : List.Forall₂ (Made entryLink) (linkBlocks yaml) parser.configuration.links :=
    made_of_entries hlinkEntries
  constructor
  · intro hsays entry hentry listed hlisted
    obtain ⟨index, hindex, rfl⟩ := List.mem_iff_getElem.mp hentry
    have hitem : index < parser.configuration.links.length := by
      rw [← hmade.length_eq]
      exact hindex
    obtain ⟨fields, listed', hlisted', hlists, hmake⟩ := hmade.get hindex hitem
    obtain ⟨listed'', hlisted'', hspells⟩ := hsays.links.2.get hindex hitem
    obtain rfl := Option.some.inj (hlisted'.symm.trans hlisted)
    obtain rfl := Option.some.inj (hlisted''.symm.trans hlisted)
    exact (entryLink_spells_iff hlists hmake).mp hspells
  · intro hknown
    exact {
      leading := hcollects.leading
      headers := headers_perm hcollects hnetwork hnodes hlinks
      network := by
        obtain ⟨hfalse, -⟩ | ⟨-, hline⟩ := hcollects.name
        · rw [hname] at hfalse
          cases hfalse
        · exact hline
      nodes := by
        refine ⟨hnodeEntries.leading, (made_of_entries hnodeEntries).imp ?_⟩
        rintro entry node ⟨fields, listed, hlisted, hlists, hmake⟩
        exact ⟨listed, hlisted, entryNode_spells hlists hmake⟩
      links := by
        refine ⟨hlinkEntries.leading, List.forall₂_iff_get.mpr ⟨hmade.length_eq, ?_⟩⟩
        intro index hindex hitem
        obtain ⟨fields, listed, hlisted, hlists, hmake⟩ := hmade.get hindex hitem
        refine ⟨listed, hlisted, (entryLink_spells_iff hlists hmake).mpr ?_⟩
        exact hknown _ (List.get_mem _ _) listed hlisted }

/-- A file with two hosts and a link with some fields. -/
private def linkFile (link : String) : Bytes :=
  bytes "network:\n  name: lab\nnodes:\n  - \x7bid: a, type: host\x7d\n" ++
    bytes "  - \x7bid: b, type: host\x7d\nlinks:\n  - \x7b" ++ bytes link ++ bytes "\x7d\n"

private def linkFileLab (latency : Int) : TopologyConfiguration where
  name := bytes "lab"
  nodes := [{ id := bytes "a" }, { id := bytes "b" }]
  links := [{ «from» := bytes "a", «to» := bytes "b", latency }]

/-- With the latency under its name, the file says what is read. -/
theorem topology_file_says_latency :
    FileSays (linkFile "from: a, to: b, latency_ms: 5") (linkFileLab 5) := by
  refine (topology_file_says_iff (by decide +kernel)).mpr fun entry hentry listed hlisted _ => ?_
  have hentries : linkBlocks (linkFile "from: a, to: b, latency_ms: 5") =
      [({ indent := some 2, content := bytes "- \x7bfrom: a, to: b, latency_ms: 5\x7d" }, [])] := by
    decide +kernel
  rw [hentries, List.mem_singleton] at hentry
  subst hentry
  have hfields : blockFields
      ({ indent := some 2, content := bytes "- \x7bfrom: a, to: b, latency_ms: 5\x7d" }, []) =
      some [(bytes "from", bytes "a"), (bytes "to", bytes "b"), (bytes "latency_ms", bytes "5")] := by
    decide +kernel
  obtain rfl := Option.some.inj (hfields.symm.trans hlisted)
  exact ⟨bytes "5", by simp, by decide +kernel⟩

/-- Under another name, it is lost without a word. -/
theorem misspelt_latency_ignored :
    topologyConfigurationFromYaml (linkFile "from: a, to: b, latency: 5") = .ok (linkFileLab 0) ∧
      ¬ FileSays (linkFile "from: a, to: b, latency: 5") (linkFileLab 0) := by
  refine ⟨by decide +kernel, fun hsays => ?_⟩
  have hentries : (blocks ContentLine.isItem (sectionLines (bytes "links:")
      (contentLines (linkFile "from: a, to: b, latency: 5")))).2 =
      [({ indent := some 2, content := bytes "- \x7bfrom: a, to: b, latency: 5\x7d" }, [])] := by
    decide +kernel
  have hfields : blockFields
      ({ indent := some 2, content := bytes "- \x7bfrom: a, to: b, latency: 5\x7d" }, []) =
      some [(bytes "from", bytes "a"), (bytes "to", bytes "b"), (bytes "latency", bytes "5")] := by
    decide +kernel
  have hlinks := hsays.links.2
  rw [hentries] at hlinks
  obtain ⟨⟨listed, hlisted, hspells⟩, -⟩ := List.forall₂_cons.mp hlinks
  obtain rfl := Option.some.inj (hfields.symm.trans hlisted)
  rcases hspells with ⟨htwo, -⟩ | ⟨numeral, hthree, -⟩
  · exact absurd htwo.length_eq (by decide)
  · have hkey : (bytes "latency", bytes "5") ∈ [(bytes "from", (linkFileLab 0).links[0].from),
        (bytes "to", (linkFileLab 0).links[0].to), (bytes "latency_ms", numeral)] :=
      hthree.mem_iff.mp (by simp)
    have hnone : bytes "latency" ∉ [bytes "from", bytes "to", bytes "latency_ms"] := by
      decide +kernel
    exact hnone (List.mem_map_of_mem (f := Prod.fst) hkey)

end WireLab
