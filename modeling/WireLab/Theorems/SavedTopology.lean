import WireLab.Logic.TopologyLines

/-!
# A saved topology, read back

The text that `save_topology` writes is one line for each node and link
(`topologyYaml_eq`). The reader takes the name as it is escaped, and each node
and link from its own line (`topologyConfigurationFromYaml_topologyYaml`); it
never undoes an escape, and it splits an entry at every comma. So a topology
reads back unchanged exactly when its name and ids have nothing to escape or to
split at (`saved_topology_reads_back`).
-/

namespace WireLab

open Base SessionDetail TopologyYamlParser

/-! ## The lines that are written -/

/-- The flow mapping of a node. -/
def nodeEntry (node : TopologyNode) : Bytes :=
  bytes "\x7b id: " ++ (yamlQuote node.id ++ (bytes ", type: " ++
    ((if node.type = .switch then bytes "switch" else bytes "host") ++ bytes " \x7d")))

/-- The flow mapping of a link. -/
def linkEntry (link : TopologyLink) : Bytes :=
  bytes "\x7b from: " ++ (yamlQuote link.from ++ (bytes ", to: " ++ (yamlQuote link.to ++
    (bytes ", latency_ms: " ++ (jsonInt link.latency ++ bytes " \x7d")))))

/-- The lines of a saved topology. -/
def topologyLines (configuration : TopologyConfiguration) : List Bytes :=
  [bytes "network:", bytes "  name: " ++ yamlQuote configuration.name, [], bytes "nodes:"] ++
    ((configuration.nodes.map nodeEntry).map itemLine ++
      ([] :: bytes "links:" :: (configuration.links.map linkEntry).map itemLine))

theorem topologyYaml_eq (configuration : TopologyConfiguration) :
    topologyYaml configuration = (topologyLines configuration).flatMap (· ++ [0x0A]) := by
  have hnode : nodeYaml = fun node => itemLine (nodeEntry node) ++ [0x0A] := by
    funext node
    have hopen : bytes "  - \x7b id: " = bytes "  - " ++ bytes "\x7b id: " := by decide
    have hclose : bytes " \x7d\n" = bytes " \x7d" ++ [0x0A] := by decide
    simp only [nodeYaml, itemLine, nodeEntry, hopen, hclose, List.append_assoc]
  have hlink : linkYaml = fun link => itemLine (linkEntry link) ++ [0x0A] := by
    funext link
    have hopen : bytes "  - \x7b from: " = bytes "  - " ++ bytes "\x7b from: " := by decide
    have hclose : bytes " \x7d\n" = bytes " \x7d" ++ [0x0A] := by decide
    simp only [linkYaml, itemLine, linkEntry, hopen, hclose, List.append_assoc]
  have hhead : bytes "network:\n  name: " = bytes "network:" ++ 0x0A :: bytes "  name: " := by
    decide
  have hnodes : bytes "\n\nnodes:\n" = 0x0A :: 0x0A :: (bytes "nodes:" ++ [0x0A]) := by decide
  have hlinks : bytes "\nlinks:\n" = 0x0A :: (bytes "links:" ++ [0x0A]) := by decide
  simp only [topologyYaml, topologyLines, hhead, hnodes, hlinks, List.flatMap_append,
    List.flatMap_cons, List.flatMap_map, hnode, hlink, List.append_assoc, List.cons_append,
    List.nil_append]

/-! ## How they are read -/

/-- What the reader makes of a node's line. -/
def readNode (node : TopologyNode) : Except TopologyYamlError TopologyNode :=
  readEntry .invalidNodeField entryNode (nodeEntry node)

/-- What it makes of a link's line. -/
def readLink (link : TopologyLink) : Except TopologyYamlError TopologyLink :=
  readEntry .invalidLinkField entryLink (linkEntry link)

/-- The line with the name, whose escapes stay in it. -/
theorem parseLine_name (parser : TopologyYamlParser) {name : Bytes} (hname : name ≠ [])
    (hsection : parser.currentSection = .network) (hfresh : parser.hasName = false) :
    parser.parseLine (bytes "  name: " ++ yamlQuote name) = .ok { parser with
      configuration := { parser.configuration with name := name.flatMap yamlEscape },
      hasName := true } := by
  have hline : withoutComment (bytes "  name: " ++ yamlQuote name) =
      0x20 :: 0x20 :: (bytes "name" ++ colon :: 0x20 :: yamlQuote name) := by
    have hblank : some (0x20 : UInt8) ≠ some 0x5C := by simp
    have hquoted := withoutCommentFrom_yamlQuote name [] (by simp) hblank
    rw [List.append_nil] at hquoted
    have hplain := withoutCommentFrom_plain (bytes "  name: ") (by decide +kernel)
      (yamlQuote name) none none
    exact hplain.trans (congrArg (bytes "  name: " ++ ·) hquoted)
  have htrim : trim (withoutComment (bytes "  name: " ++ yamlQuote name)) ≠ [] :=
    trim_ne_nil (c := colon) (by simp [hline]) (by decide)
  have hmargin : (withoutComment (bytes "  name: " ++ yamlQuote name)).takeWhile
      (fun c => c = 0x20 || c = 0x09) = [0x20, 0x20] := by
    rw [hline]
    rfl
  have hfield : splitField (bytes "name" ++ colon :: 0x20 :: yamlQuote name) =
      some (bytes "name", name.flatMap yamlEscape) :=
    splitField_quoted _ _ (by decide +kernel) (by decide +kernel) (by decide)
      (trim_yamlQuote name) hname
  unfold parseLine
  dsimp only
  rw [hmargin, if_neg (by simpa using htrim), if_neg (by decide), if_neg (by simp), hsection,
    if_pos rfl, hline]
  show parser.networkField 2 (bytes "name" ++ colon :: 0x20 :: yamlQuote name) = _
  unfold networkField
  rw [hfield]
  simp [hfresh, hsection]

/-- The lines down to the nodes. -/
theorem parseLines_head {name : Bytes} (hname : name ≠ []) :
    parseLines {} [bytes "network:", bytes "  name: " ++ yamlQuote name, [], bytes "nodes:"] =
      .ok { configuration := { name := name.flatMap yamlEscape }, currentSection := .nodes,
            hasNetwork := true, hasName := true, hasNodes := true } := by
  have hnetwork : parseLine {} (bytes "network:") =
      .ok { currentSection := .network, hasNetwork := true } := rfl
  have hline := parseLine_name { currentSection := .network, hasNetwork := true }
    hname rfl rfl
  simp only [parseLines, hnetwork, bind, Except.bind]
  rw [hline]
  rfl

private theorem parseLines_append (parser : TopologyYamlParser) (lines more : List Bytes) :
    parseLines parser (lines ++ more) =
      parseLines parser lines >>= fun next => parseLines next more := by
  induction lines generalizing parser with
  | nil => rfl
  | cons line lines ih =>
      simp only [List.cons_append, parseLines]
      cases parser.parseLine line with
      | error e => rfl
      | ok next => exact ih next

/-- The lines between the nodes and the links. -/
private theorem parseLines_gap (parser : TopologyYamlParser) (lines : List Bytes) :
    parseLines parser ([] :: bytes "links:" :: lines) =
      parser.flushEntry >>= fun flushed =>
        flushed.openSection (bytes "links:") >>= fun next => parseLines next lines := by
  have hempty : parser.parseLine [] = .ok parser := rfl
  have hlinks : parser.parseLine (bytes "links:") =
      parser.flushEntry >>= fun flushed => flushed.openSection (bytes "links:") := rfl
  simp only [parseLines, hempty, hlinks, bind, Except.bind]
  cases parser.flushEntry <;> rfl

private theorem foldl_nodes (configuration : TopologyConfiguration) (nodes : List TopologyNode) :
    nodes.foldl (fun configuration node =>
      { configuration with nodes := configuration.nodes ++ [node] }) configuration =
        { configuration with nodes := configuration.nodes ++ nodes } := by
  induction nodes generalizing configuration with
  | nil => simp
  | cons node nodes ih => simp [ih]

private theorem foldl_links (configuration : TopologyConfiguration) (links : List TopologyLink) :
    links.foldl (fun configuration link =>
      { configuration with links := configuration.links ++ [link] }) configuration =
        { configuration with links := configuration.links ++ links } := by
  induction links generalizing configuration with
  | nil => simp
  | cons link links ih => simp [ih]

/-- The nodes of a file are what its node lines are read as. -/
theorem parseLines_nodes (nodes : List TopologyNode) (parser : TopologyYamlParser)
    (hidle : parser.Idle) (hsection : parser.currentSection = .nodes) :
    ∃ entrySection,
      (parseLines parser ((nodes.map nodeEntry).map itemLine) >>= flushEntry) =
        (nodes.mapM readNode).map fun read => { parser with
          configuration := { parser.configuration with
            nodes := parser.configuration.nodes ++ read },
          entrySection } := by
  obtain ⟨entrySection, h⟩ := parseItems .nodes .invalidNodeField entryNode
    (fun configuration node =>
      { configuration with nodes := configuration.nodes ++ [node] })
    (.inl rfl) (fun parser hsection => by simp [fieldError, hsection])
    (fun parser hentry hkind => by
      simp only [flushEntry, hentry, hkind]
      cases entryNode parser.entryFields <;> rfl)
    (nodes.map nodeEntry)
    (fun entry hmem => by
      obtain ⟨node, -, rfl⟩ := List.mem_map.mp hmem
      rfl)
    hidle hsection
  refine ⟨entrySection, h.trans ?_⟩
  rw [List.mapM_map]
  simp only [foldl_nodes]
  rfl

/-- The links of a file are what its link lines are read as. -/
theorem parseLines_links (links : List TopologyLink) (parser : TopologyYamlParser)
    (hidle : parser.Idle) (hsection : parser.currentSection = .links) :
    ∃ entrySection,
      (parseLines parser ((links.map linkEntry).map itemLine) >>= flushEntry) =
        (links.mapM readLink).map fun read => { parser with
          configuration := { parser.configuration with
            links := parser.configuration.links ++ read },
          entrySection } := by
  obtain ⟨entrySection, h⟩ := parseItems .links .invalidLinkField entryLink
    (fun configuration link =>
      { configuration with links := configuration.links ++ [link] })
    (.inr rfl) (fun parser hsection => by simp [fieldError, hsection])
    (fun parser hentry hkind => by
      simp only [flushEntry, hentry, hkind]
      cases entryLink parser.entryFields <;> rfl)
    (links.map linkEntry)
    (fun entry hmem => by
      obtain ⟨link, -, rfl⟩ := List.mem_map.mp hmem
      rfl)
    hidle hsection
  refine ⟨entrySection, h.trans ?_⟩
  rw [List.mapM_map]
  simp only [foldl_links]
  rfl

/-- The name and the ids of a configuration are without a byte. -/
structure Lacks (c : UInt8) (configuration : TopologyConfiguration) : Prop where
  name : c ∉ configuration.name
  node : ∀ node ∈ configuration.nodes, c ∉ node.id
  link : ∀ link ∈ configuration.links, c ∉ link.from ∧ c ∉ link.to

/-- Without a line feed in the name and the ids, the lines are what the reader
finds. -/
theorem splitPieces_topologyYaml {configuration : TopologyConfiguration}
    (hlacks : Lacks 0x0A configuration) :
    splitPieces 0x0A (topologyYaml configuration) = topologyLines configuration := by
  have hquote : ∀ {text : Bytes}, 0x0A ∉ text → 0x0A ∉ yamlQuote text := fun h =>
    notMem_yamlQuote (by decide) (by decide) h
  rw [topologyYaml_eq]
  refine splitPieces_lines fun line hline => ?_
  rcases List.mem_append.mp hline with hhead | hrest
  · simp only [List.mem_cons, List.not_mem_nil, or_false] at hhead
    rcases hhead with rfl | rfl | rfl | rfl
    · decide +kernel
    · rw [List.mem_append, not_or]
      exact ⟨by decide +kernel, hquote hlacks.name⟩
    · decide +kernel
    · decide +kernel
  · rcases List.mem_append.mp hrest with hnode | hrest
    · obtain ⟨entry, hentry, rfl⟩ := List.mem_map.mp hnode
      obtain ⟨node, hmem, rfl⟩ := List.mem_map.mp hentry
      simp only [itemLine, nodeEntry, List.mem_append, not_or]
      refine ⟨by decide +kernel, by decide +kernel, hquote (hlacks.node node hmem),
        by decide +kernel, ?_, by decide +kernel⟩
      split <;> decide +kernel
    · rcases List.mem_cons.mp hrest with rfl | hrest
      · decide +kernel
      · rcases List.mem_cons.mp hrest with rfl | hlink
        · decide +kernel
        · obtain ⟨entry, hentry, rfl⟩ := List.mem_map.mp hlink
          obtain ⟨link, hmem, rfl⟩ := List.mem_map.mp hentry
          obtain ⟨hfrom, hto⟩ := hlacks.link link hmem
          simp only [itemLine, linkEntry, List.mem_append, not_or]
          exact ⟨by decide +kernel, by decide +kernel, hquote hfrom, by decide +kernel, hquote hto,
            by decide +kernel, notMem_jsonInt (by decide) (by decide) _, by decide +kernel⟩

/-- **What the reader makes of a saved topology**: the name as it is escaped,
and the nodes and links of their lines. -/
theorem topologyConfigurationFromYaml_topologyYaml {configuration : TopologyConfiguration}
    (hname : configuration.name ≠ []) (hlacks : Lacks 0x0A configuration) :
    topologyConfigurationFromYaml (topologyYaml configuration) = (do
      let nodes ← configuration.nodes.mapM readNode
      let links ← configuration.links.mapM readLink
      .ok { name := configuration.name.flatMap yamlEscape, nodes, links }) := by
  unfold topologyConfigurationFromYaml
  rw [splitPieces_topologyYaml hlacks, topologyLines, parseLines_append, parseLines_head hname]
  obtain ⟨nodeSection, hnodes⟩ := parseLines_nodes configuration.nodes
    { configuration := { name := configuration.name.flatMap yamlEscape },
                 currentSection := .nodes, hasNetwork := true, hasName := true, hasNodes := true }
    ⟨rfl, rfl⟩ rfl
  have hjoin : ∀ (parser : TopologyYamlParser) (lines more : List Bytes),
      parseLines parser (lines ++ ([] :: bytes "links:" :: more)) =
        (parseLines parser lines >>= flushEntry) >>= fun flushed =>
          flushed.openSection (bytes "links:") >>= fun next => parseLines next more := by
    intro parser lines more
    rw [parseLines_append]
    simp only [parseLines_gap]
    cases parseLines parser lines <;> rfl
  show (parseLines _ _ >>= finish) = _
  rw [hjoin, hnodes]
  cases hread : configuration.nodes.mapM readNode with
  | error e => rfl
  | ok nodes =>
      obtain ⟨linkSection, hlinks⟩ := parseLines_links configuration.links
        { configuration := { name := configuration.name.flatMap yamlEscape, nodes },
                     currentSection := .links, entrySection := nodeSection, hasNetwork := true,
                     hasName := true, hasNodes := true, hasLinks := true }
        ⟨rfl, rfl⟩ rfl
      have hfinish : ∀ (parser : TopologyYamlParser) (lines : List Bytes),
          (parseLines parser lines >>= finish) =
            (parseLines parser lines >>= flushEntry) >>= fun flushed =>
              if !flushed.hasNetwork then .error .missingNetwork
              else if !flushed.hasName then .error .missingNetworkName
              else if !flushed.hasNodes then .error .missingNodes
              else if !flushed.hasLinks then .error .missingLinks
              else .ok flushed.configuration := by
        intro parser lines
        cases parseLines parser lines <;> rfl
      show (parseLines _ ((configuration.links.map linkEntry).map itemLine) >>= finish) = _
      rw [hfinish]
      refine (congrArg (· >>= _) hlinks).trans ?_
      cases configuration.links.mapM readLink <;> rfl

/-! ## What a line says -/

/-- An entry between braces that no comment cuts off gives the fields of its
pieces. -/
theorem readEntry_braces {α : Type} {error : TopologyYamlError}
    {make : Fields → Except TopologyYamlError α} {inner : Bytes}
    (hcomment : withoutCommentFrom (0x7B :: (inner ++ [0x7D])) none (some 0x20) =
      0x7B :: (inner ++ [0x7D])) {fields : Fields}
    (hfields : addFlowFields (splitPieces 0x2C inner) ∅ = some fields)
    (hne : fields.entries ≠ []) :
    readEntry error make (0x7B :: (inner ++ [0x7D])) = make fields := by
  have hlast : (0x7B :: (inner ++ [0x7D])).getLast? = some 0x7D :=
    List.getLast?_concat (l := 0x7B :: inner)
  have htrim := trim_padded [0x20] (0x7B :: (inner ++ [0x7D])) [] (by simp [isBlank]) (by simp) rfl
    hlast rfl rfl
  rw [List.append_nil, List.singleton_append] at htrim
  unfold readEntry
  rw [hcomment, htrim]
  unfold parseFlowMapping
  rw [hlast]
  simp [hfields, hne]

/-- What a node's type is called in a file. -/
def typeText (node : TopologyNode) : Bytes :=
  if node.type = .switch then bytes "switch" else bytes "host"

private theorem nodeEntry_pieces (node : TopologyNode) :
    nodeEntry node = 0x7B :: ((bytes " id: " ++ yamlQuote node.id) ++
      0x2C :: (bytes " type: " ++ typeText node ++ [0x20]) ++ [0x7D]) := by
  have hopen : bytes "\x7b id: " = 0x7B :: bytes " id: " := by decide
  have hclose : bytes " \x7d" = [0x20, 0x7D] := by decide
  have hmiddle : bytes ", type: " = 0x2C :: bytes " type: " := by decide
  simp [nodeEntry, typeText, hopen, hclose, hmiddle]

/-- Nothing in a node's line is taken for a comment. -/
private theorem withoutCommentFrom_nodeEntry (node : TopologyNode) :
    withoutCommentFrom (nodeEntry node) none (some 0x20) = nodeEntry node := by
  have hhash : 0x23 ∉ bytes ", type: " ++ (typeText node ++ bytes " \x7d") := by
    unfold typeText
    split <;> decide +kernel
  have hplain := withoutCommentFrom_plain (bytes "\x7b id: ") (by decide +kernel)
    (yamlQuote node.id ++ (bytes ", type: " ++ (typeText node ++ bytes " \x7d"))) none (some 0x20)
  rw [withoutCommentFrom_yamlQuote node.id _ hhash (by decide)] at hplain
  exact hplain

/-- A node's line gives its type, and its id as it is escaped, when there is no
comma in the id. -/
theorem readNode_eq {node : TopologyNode} (hid : node.id ≠ []) (hcomma : 0x2C ∉ node.id) :
    readNode node = .ok { node with id := node.id.flatMap yamlEscape } := by
  have hidField : splitField (bytes " id: " ++ yamlQuote node.id) =
      some (bytes "id", node.id.flatMap yamlEscape) :=
    splitField_quoted (bytes " id") _ (by decide +kernel) (by decide +kernel) (by decide)
      (trim_yamlQuote node.id) hid
  have htypeField : splitField (bytes " type: " ++ typeText node ++ [0x20]) =
      some (bytes "type", typeText node) := by
    unfold typeText
    split <;> decide +kernel
  have hpieces : splitPieces 0x2C ((bytes " id: " ++ yamlQuote node.id) ++
      0x2C :: (bytes " type: " ++ typeText node ++ [0x20])) =
        [bytes " id: " ++ yamlQuote node.id, bytes " type: " ++ typeText node ++ [0x20]] := by
    have hfirst : 0x2C ∉ bytes " id: " ++ yamlQuote node.id := by
      rw [List.mem_append, not_or]
      exact ⟨by decide +kernel, notMem_yamlQuote (by decide) (by decide) hcomma⟩
    have hsecond : 0x2C ∉ bytes " type: " ++ typeText node ++ [0x20] := by
      unfold typeText
      split <;> decide +kernel
    rw [splitPieces_append hfirst, splitPieces_last hsecond (by simp)]
  have hfresh : bytes "type" ≠ bytes "id" := by decide
  have hfields : addFlowFields [bytes " id: " ++ yamlQuote node.id,
      bytes " type: " ++ typeText node ++ [0x20]] ∅ =
        some (AList.insert (bytes "type") (typeText node)
          (AList.insert (bytes "id") (node.id.flatMap yamlEscape) ∅)) := by
    simp only [addFlowFields, hidField, htypeField, Dict.lookup_empty, Dict.lookup_insert,
      if_neg hfresh, Option.isSome_none, Bool.false_eq_true, if_false]
  have hentries : (AList.insert (bytes "type") (typeText node)
      (AList.insert (bytes "id") (node.id.flatMap yamlEscape) (∅ : Fields))).entries =
        [⟨bytes "type", typeText node⟩, ⟨bytes "id", node.id.flatMap yamlEscape⟩] := by
    rw [Dict.entries_insert_fresh _ (by rw [Dict.lookup_insert, if_neg hfresh, Dict.lookup_empty]),
      Dict.entries_insert_fresh _ (Dict.lookup_empty _)]
    rfl
  unfold readNode
  have hcomment := withoutCommentFrom_nodeEntry node
  rw [nodeEntry_pieces] at hcomment ⊢
  rw [readEntry_braces hcomment (hpieces ▸ hfields) (by simp)]
  unfold entryNode
  rw [hentries, Dict.lookup_insert, if_neg hfresh.symm, Dict.lookup_insert, if_pos rfl,
    Dict.lookup_insert, if_pos rfl]
  show (if typeText node = bytes "host" then _ else _) = _
  unfold typeText
  cases node.type <;> rfl

/-- Whatever stands in a node's line, the id that is read has no comma. -/
theorem comma_notMem_readNode {node read : TopologyNode} (h : readNode node = .ok read) :
    0x2C ∉ read.id := by
  unfold readNode readEntry at h
  split at h
  · cases h
  · next fields hfields =>
      have hvalues : FieldsOf (· ≠ 0x2C) fields :=
        parseFlowMapping_fieldsOf (fun c _ hc => hc) fieldsOf_empty hfields
      exact fun hmem => hvalues _ _ (entryNode_id h) _ hmem rfl

private theorem linkEntry_pieces (link : TopologyLink) :
    linkEntry link = 0x7B :: ((bytes " from: " ++ yamlQuote link.from) ++
      0x2C :: ((bytes " to: " ++ yamlQuote link.to) ++
        0x2C :: (bytes " latency_ms: " ++ jsonInt link.latency ++ [0x20])) ++ [0x7D]) := by
  have hopen : bytes "\x7b from: " = 0x7B :: bytes " from: " := by decide
  have hclose : bytes " \x7d" = [0x20, 0x7D] := by decide
  have hfirst : bytes ", to: " = 0x2C :: bytes " to: " := by decide
  have hsecond : bytes ", latency_ms: " = 0x2C :: bytes " latency_ms: " := by decide
  simp [linkEntry, hopen, hclose, hfirst, hsecond]

/-- Nothing in a link's line is taken for a comment, when its ends have neither
quotes nor backslashes. -/
private theorem withoutCommentFrom_linkEntry {link : TopologyLink}
    (hfrom : ∀ c ∈ link.from, c ≠ 0x5C ∧ c ≠ 0x22) (hto : ∀ c ∈ link.to, c ≠ 0x5C ∧ c ≠ 0x22) :
    withoutCommentFrom (linkEntry link) none (some 0x20) = linkEntry link := by
  -- Both texts close the quotes they open, so no `#` in them begins a comment.
  have hquoted : ∀ {text : Bytes}, (∀ c ∈ text, c ≠ 0x5C ∧ c ≠ 0x22) → ∀ rest,
      withoutCommentFrom (yamlQuote text ++ rest) none (some 0x20) =
        yamlQuote text ++ withoutCommentFrom rest none (some 0x22) := by
    intro text htext rest
    have hopen : isQuote 0x22 = true := rfl
    have hnotBack : some (0x22 : UInt8) ≠ some 0x5C := by decide
    have hclose := withoutCommentFrom_quoted htext rest hnotBack
    have hescape := flatMap_yamlEscape_eq_self.mpr htext
    simp [yamlQuote, hescape, withoutCommentFrom, hopen, hclose]
  have hhash : 0x23 ∉ bytes ", latency_ms: " ++ (jsonInt link.latency ++ bytes " \x7d") := by
    simp only [List.mem_append, not_or]
    exact ⟨by decide +kernel, notMem_jsonInt (by decide) (by decide) _, by decide +kernel⟩
  unfold linkEntry
  rw [withoutCommentFrom_plain (bytes "\x7b from: ") (by decide +kernel)]
  show _ ++ withoutCommentFrom _ none (some 0x20) = _
  rw [hquoted hfrom, withoutCommentFrom_plain (bytes ", to: ") (by decide +kernel)]
  show _ ++ (_ ++ (_ ++ withoutCommentFrom _ none (some 0x20))) = _
  rw [hquoted hto, withoutCommentFrom_noHash hhash]

/-- A link's line gives the link, when nothing in its ends is escaped or split
at. -/
theorem readLink_eq {link : TopologyLink} (hfrom : link.from ≠ []) (hto : link.to ≠ [])
    (hlacks : ∀ c ∈ [0x5C, 0x22, 0x2C], c ∉ link.from ∧ c ∉ link.to) (hnonneg : 0 ≤ link.latency)
    (hlatency : link.latency < 2 ^ 63) : readLink link = .ok link := by
  have hplainText : ∀ {text : Bytes}, 0x5C ∉ text → 0x22 ∉ text →
      ∀ c ∈ text, c ≠ 0x5C ∧ c ≠ 0x22 := fun hback hquote c hc =>
    ⟨fun heq => hback (heq ▸ hc), fun heq => hquote (heq ▸ hc)⟩
  have hfromPlain := hplainText (hlacks 0x5C (by simp)).1 (hlacks 0x22 (by simp)).1
  have htoPlain := hplainText (hlacks 0x5C (by simp)).2 (hlacks 0x22 (by simp)).2
  have hfromEscape := flatMap_yamlEscape_eq_self.mpr hfromPlain
  have htoEscape := flatMap_yamlEscape_eq_self.mpr htoPlain
  obtain ⟨n, hn⟩ := Int.eq_ofNat_of_zero_le hnonneg
  have hnumber : jsonInt link.latency = decimal n := by
    rw [hn, jsonInt, if_neg (by omega), Int.natAbs_natCast]
  have hfromField : splitField (bytes " from: " ++ yamlQuote link.from) =
      some (bytes "from", link.from) := by
    have h := splitField_quoted (bytes " from") (bytes "from") (by decide +kernel)
      (by decide +kernel) (by decide) (trim_yamlQuote link.from) hfrom
    rwa [hfromEscape] at h
  have htoField : splitField (bytes " to: " ++ yamlQuote link.to) =
      some (bytes "to", link.to) := by
    have h := splitField_quoted (bytes " to") (bytes "to") (by decide +kernel)
      (by decide +kernel) (by decide) (trim_yamlQuote link.to) hto
    rwa [htoEscape] at h
  have hlatencyField : splitField (bytes " latency_ms: " ++ jsonInt link.latency ++ [0x20]) =
      some (bytes "latency_ms", decimal n) := by
    obtain ⟨htrim, first, hfirst, hquote⟩ := trim_decimal n
    have h := splitField_bare (bytes " latency_ms") (bytes "latency_ms")
      (by decide +kernel) (by decide +kernel) (by decide) htrim hfirst hquote
    rw [hnumber, List.append_assoc]
    exact h
  have hpieces : splitPieces 0x2C ((bytes " from: " ++ yamlQuote link.from) ++
      0x2C :: ((bytes " to: " ++ yamlQuote link.to) ++
        0x2C :: (bytes " latency_ms: " ++ jsonInt link.latency ++ [0x20]))) =
      [bytes " from: " ++ yamlQuote link.from, bytes " to: " ++ yamlQuote link.to,
        bytes " latency_ms: " ++ jsonInt link.latency ++ [0x20]] := by
    obtain ⟨hfromComma, htoComma⟩ := hlacks 0x2C (by simp)
    have hfirst : 0x2C ∉ bytes " from: " ++ yamlQuote link.from := by
      rw [List.mem_append, not_or]
      exact ⟨by decide +kernel, notMem_yamlQuote (by decide) (by decide) hfromComma⟩
    have hsecond : 0x2C ∉ bytes " to: " ++ yamlQuote link.to := by
      rw [List.mem_append, not_or]
      exact ⟨by decide +kernel, notMem_yamlQuote (by decide) (by decide) htoComma⟩
    have hthird : 0x2C ∉ bytes " latency_ms: " ++ jsonInt link.latency ++ [0x20] := by
      rw [List.mem_append, List.mem_append, not_or, not_or]
      exact ⟨⟨by decide +kernel, notMem_jsonInt (by decide) (by decide) _⟩, by decide⟩
    rw [splitPieces_append hfirst, splitPieces_append hsecond, splitPieces_last hthird (by simp)]
  have hkeys : bytes "to" ≠ bytes "from" ∧ bytes "latency_ms" ≠ bytes "from" ∧
      bytes "latency_ms" ≠ bytes "to" := by decide
  obtain ⟨hto_from, hlatency_from, hlatency_to⟩ := hkeys
  -- The three keys are different, so each is there once.
  have htoFresh : (AList.insert (bytes "from") link.from (∅ : Fields)).lookup (bytes "to") =
      none := by
    rw [Dict.lookup_insert, if_neg hto_from, Dict.lookup_empty]
  have hlatencyFresh : (AList.insert (bytes "to") link.to
      (AList.insert (bytes "from") link.from (∅ : Fields))).lookup (bytes "latency_ms") = none := by
    rw [Dict.lookup_insert, if_neg hlatency_to, Dict.lookup_insert, if_neg hlatency_from,
      Dict.lookup_empty]
  have hfields : addFlowFields [bytes " from: " ++ yamlQuote link.from,
      bytes " to: " ++ yamlQuote link.to,
      bytes " latency_ms: " ++ jsonInt link.latency ++ [0x20]] ∅ =
        some (AList.insert (bytes "latency_ms") (decimal n) (AList.insert (bytes "to") link.to
          (AList.insert (bytes "from") link.from ∅))) := by
    simp only [addFlowFields, hfromField, htoField, hlatencyField, Dict.lookup_empty, htoFresh,
      hlatencyFresh, Option.isSome_none, Bool.false_eq_true, if_false]
  have hentries : (AList.insert (bytes "latency_ms") (decimal n) (AList.insert (bytes "to") link.to
      (AList.insert (bytes "from") link.from (∅ : Fields)))).entries =
        [⟨bytes "latency_ms", decimal n⟩, ⟨bytes "to", link.to⟩, ⟨bytes "from", link.from⟩] := by
    rw [Dict.entries_insert_fresh _ hlatencyFresh, Dict.entries_insert_fresh _ htoFresh,
      Dict.entries_insert_fresh _ (Dict.lookup_empty _)]
    rfl
  unfold readLink
  have hcomment := withoutCommentFrom_linkEntry hfromPlain htoPlain
  rw [linkEntry_pieces] at hcomment ⊢
  rw [readEntry_braces hcomment (hpieces ▸ hfields) (by simp)]
  unfold entryLink
  simp only [hentries, Dict.lookup_insert, if_neg hlatency_from.symm, if_neg hlatency_to.symm,
    if_neg hto_from.symm, if_true, parseLatency_decimal (show n < 2 ^ 63 by omega)]
  rw [← hn]
  rfl

/-! ## The whole topology -/

/-- The text of a topology is accepted, and gives an equal topology. -/
def ReadsBack (topology : Topology) : Prop :=
  ∃ configuration saved,
    topologyConfigurationFromYaml (topologyYaml topology.configuration) = .ok configuration ∧
      Topology.create configuration = .ok saved ∧ saved.configuration = topology.configuration

/-- Nothing in the name is escaped or ends a line, and nothing in an id is
escaped, ends a line or ends a field. -/
structure Carried (topology : Topology) : Prop where
  name : ∀ c ∈ [0x5C, 0x22, 0x0A], c ∉ topology.name
  node : ∀ node ∈ topology.nodes, ∀ c ∈ [0x5C, 0x22, 0x0A, 0x2C], c ∉ node.id

private theorem readsBack_iff {topology : Topology} :
    ReadsBack topology ↔
      topologyConfigurationFromYaml (topologyYaml topology.configuration) =
        .ok topology.configuration := by
  have hcreate : ∀ {configuration saved}, Topology.create configuration = .ok saved →
      saved.configuration = configuration := by
    intro configuration saved h
    unfold Topology.create at h
    split at h
    · cases h
    · obtain rfl := Except.ok.inj h
      rfl
  have hagain : ∃ saved, Topology.create topology.configuration = .ok saved := by
    unfold Topology.create
    split
    · next e he => exact absurd (he.symm.trans topology.created) (by simp)
    · exact ⟨_, rfl⟩
  constructor
  · rintro ⟨configuration, saved, hread, hsaved, hsame⟩
    rw [hread, ← hsame, hcreate hsaved]
  · intro h
    obtain ⟨saved, hsaved⟩ := hagain
    exact ⟨_, saved, h, hsaved, hcreate hsaved⟩

/-- Elements that are each read as themselves are read as they are. -/
private theorem mapM_eq_self {ε α : Type} {f : α → Except ε α} {xs : List α} :
    xs.mapM f = .ok xs ↔ ∀ x ∈ xs, f x = .ok x := by
  induction xs with
  | nil => simp [pure, Except.pure]
  | cons x xs ih =>
      rw [List.mapM_cons, List.forall_mem_cons, ← ih]
      cases hx : f x with
      | error e => simp [bind, Except.bind]
      | ok y =>
          cases hxs : xs.mapM f with
          | error e => simp [bind, Except.bind]
          | ok ys => simp [bind, Except.bind, pure, Except.pure]

/-- Without a line feed, a topology is read back if each part is read as itself. -/
private theorem read_eq_iff {topology : Topology} (hlacks : Lacks 0x0A topology.configuration) :
    topologyConfigurationFromYaml (topologyYaml topology.configuration) =
        .ok topology.configuration ↔
      topology.name.flatMap yamlEscape = topology.name ∧
        (∀ node ∈ topology.nodes, readNode node = .ok node) ∧
        ∀ link ∈ topology.links, readLink link = .ok link := by
  rw [topologyConfigurationFromYaml_topologyYaml topology.name_ne_nil hlacks, ← mapM_eq_self,
    ← mapM_eq_self]
  show (topology.nodes.mapM readNode >>= fun nodes => topology.links.mapM readLink >>= fun links =>
      Except.ok (TopologyConfiguration.mk (topology.name.flatMap yamlEscape) nodes links)) =
    Except.ok (TopologyConfiguration.mk topology.name topology.nodes topology.links) ↔ _
  cases topology.nodes.mapM readNode with
  | error e => simp [bind, Except.bind]
  | ok nodes =>
      cases topology.links.mapM readLink with
      | error e => simp [bind, Except.bind]
      | ok links => simp [bind, Except.bind]

/-- **A saved topology reads back unchanged** exactly when its name and ids have
no backslash, double quote or line feed in them, and its ids no comma. The
latencies are the ones a 64-bit count of milliseconds holds. -/
theorem saved_topology_reads_back (topology : Topology)
    (hlatency : ∀ link ∈ topology.links, link.latency < 2 ^ 63) :
    ReadsBack topology ↔ Carried topology := by
  have hends : ∀ P : Bytes → Prop, (∀ node ∈ topology.nodes, P node.id) →
      ∀ link ∈ topology.links, P link.from ∧ P link.to := by
    intro P hP link hlink
    obtain ⟨first, hfirst, hfrom⟩ := List.mem_map.mp (topology.from_mem hlink)
    obtain ⟨second, hsecond, hto⟩ := List.mem_map.mp (topology.to_mem hlink)
    exact ⟨hfrom ▸ hP first hfirst, hto ▸ hP second hsecond⟩
  have hids : ∀ node ∈ topology.nodes, node.id ≠ [] := fun node hnode =>
    topology.nodeId_ne_nil (List.mem_map_of_mem hnode)
  have hescaped : ∀ {text : Bytes}, text.flatMap yamlEscape = text →
      0x5C ∉ text ∧ 0x22 ∉ text := fun h =>
    ⟨fun hmem => (flatMap_yamlEscape_eq_self.mp h _ hmem).1 rfl,
      fun hmem => (flatMap_yamlEscape_eq_self.mp h _ hmem).2 rfl⟩
  rw [readsBack_iff]
  constructor
  · intro h
    obtain ⟨hname, hnodes⟩ := lineFeed_notMem_read h
    obtain ⟨hnameSame, hnodesRead, -⟩ := (read_eq_iff ⟨hname, hnodes, hends (0x0A ∉ ·) hnodes⟩).mp h
    refine ⟨?_, fun node hnode => ?_⟩
    · obtain ⟨hback, hquote⟩ := hescaped hnameSame
      simpa using ⟨hback, hquote, hname⟩
    · have hread := hnodesRead node hnode
      have hcomma := comma_notMem_readNode hread
      -- With no comma in it the id is read as it is escaped.
      rw [readNode_eq (hids node hnode) hcomma] at hread
      obtain ⟨hback, hquote⟩ := hescaped (congrArg TopologyNode.id (Except.ok.inj hread))
      simpa using ⟨hback, hquote, hnodes node hnode, hcomma⟩
  · intro hcarried
    have hplain : ∀ {text : Bytes}, 0x5C ∉ text → 0x22 ∉ text → text.flatMap yamlEscape = text :=
      fun hback hquote => flatMap_yamlEscape_eq_self.mpr fun c hc =>
        ⟨fun heq => hback (heq ▸ hc), fun heq => hquote (heq ▸ hc)⟩
    have hlineFeed : ∀ node ∈ topology.nodes, 0x0A ∉ node.id := fun node hnode =>
      hcarried.node node hnode 0x0A (by simp)
    refine (read_eq_iff ⟨hcarried.name 0x0A (by simp), hlineFeed, hends (0x0A ∉ ·) hlineFeed⟩).mpr
      ⟨hplain (hcarried.name 0x5C (by simp)) (hcarried.name 0x22 (by simp)),
        fun node hnode => ?_, fun link hlink => ?_⟩
    · have hlacks := hcarried.node node hnode
      rw [readNode_eq (hids node hnode) (hlacks 0x2C (by simp)),
        hplain (hlacks 0x5C (by simp)) (hlacks 0x22 (by simp))]
    · obtain ⟨hfrom, hto⟩ := hends (· ≠ []) hids link hlink
      refine readLink_eq hfrom hto (fun c hc => ?_) (topology.latency_nonneg hlink)
        (hlatency link hlink)
      refine hends (c ∉ ·) (fun node hnode => hcarried.node node hnode c ?_) link hlink
      fin_cases hc <;> simp

/-- An ordinary topology: a switch and a host, at a latency of 20 ms. -/
def officeTopology : Topology where
  configuration :=
    { name := bytes "office: 2nd floor #4"
      nodes := [{ id := bytes "core-sw", type := .switch }, { id := bytes "host 'a'" }]
      links := [{ «from» := bytes "host 'a'", «to» := bytes "core-sw", latency := 20 }] }
  switchIndex := 0
  created := by decide +kernel

theorem saved_topology_reads_back_office : ReadsBack officeTopology :=
  (saved_topology_reads_back officeTopology (by decide)).mpr ⟨by decide +kernel, by decide +kernel⟩

/-- A topology with a comma in the id of its host. -/
def commaTopology : Topology where
  configuration :=
    { name := bytes "lab"
      nodes := [{ id := bytes "sw", type := .switch }, { id := bytes "h,1" }] }
  switchIndex := 0
  created := by decide +kernel

/-- What is written for it is refused: the comma ends the id. -/
theorem comma_splits_saved_id : ¬ ReadsBack commaTopology := by
  rintro ⟨configuration, saved, hread, -⟩
  have hrefused : topologyConfigurationFromYaml (topologyYaml commaTopology.configuration) =
      .error .invalidNodeField := by decide +kernel
  rw [hrefused] at hread
  cases hread

end WireLab
