import WireLab.Model.Topology
import WireLab.Base.Dict

/-!
# Topology files

`topology_yaml.cpp`: the line-oriented parser behind `load_topology`. It reads
one line at a time into a `TopologyYamlParser`; a node or link entry is
collected field by field and turned into a node or link when the next entry,
the next section or the end of the text flushes it.

The file system is a function from paths to contents (`Files`); a path it does
not know is a file that cannot be read.
-/

namespace WireLab

open Base

inductive TopologyYamlError
  | fileRead
  | malformedDocument
  | missingNetwork
  | missingNetworkName
  | missingNodes
  | missingLinks
  | invalidTopLevelKey
  | invalidNetworkField
  | invalidNodeField
  | invalidLinkField
  | invalidNodeType
  | invalidLatency
  deriving DecidableEq, Repr

def TopologyYamlError.toString : TopologyYamlError → Bytes
  | .fileRead => bytes "file_read"
  | .malformedDocument => bytes "malformed_document"
  | .missingNetwork => bytes "missing_network"
  | .missingNetworkName => bytes "missing_network_name"
  | .missingNodes => bytes "missing_nodes"
  | .missingLinks => bytes "missing_links"
  | .invalidTopLevelKey => bytes "invalid_top_level_key"
  | .invalidNetworkField => bytes "invalid_network_field"
  | .invalidNodeField => bytes "invalid_node_field"
  | .invalidLinkField => bytes "invalid_link_field"
  | .invalidNodeType => bytes "invalid_node_type"
  | .invalidLatency => bytes "invalid_latency"

/-! ## Text helpers -/

/-- The pieces between separators; a separator that ends the text starts no
further piece (`std::getline`). -/
def splitPieces (separator : UInt8) : Bytes → List Bytes
  | [] => []
  | c :: rest =>
      if c = separator then [] :: splitPieces separator rest
      else
        match splitPieces separator rest with
        | [] => [[c]]
        | piece :: pieces => (c :: piece) :: pieces

/-- The blanks `trim` removes: space, tab and carriage return. -/
def isBlank (c : UInt8) : Bool := c = 0x20 || c = 0x09 || c = 0x0D

def trim (value : Bytes) : Bytes :=
  ((value.dropWhile isBlank).reverse.dropWhile isBlank).reverse

def isQuote (c : UInt8) : Bool := c = 0x27 || c = 0x22

/-- The line up to the first `#` outside quotes. `quote` is the open quote, if
any, and `previous` the character before. -/
def withoutCommentFrom : Bytes → (quote previous : Option UInt8) → Bytes
  | [], _, _ => []
  | c :: rest, quote, previous =>
      if isQuote c && decide (previous ≠ some 0x5C) then
        let quote := match quote with
          | none => some c
          | some open_ => if open_ = c then none else some open_
        c :: withoutCommentFrom rest quote (some c)
      else if c = 0x23 && quote.isNone then []
      else c :: withoutCommentFrom rest quote (some c)

def withoutComment (line : Bytes) : Bytes := withoutCommentFrom line none none

/-- Split at the first colon into a trimmed key and a trimmed, unquoted value;
neither may be empty. -/
def splitField (text : Bytes) : Option (Bytes × Bytes) :=
  if colon ∉ text then none
  else
    let key := trim (text.takeWhile (· ≠ colon))
    let value := trim ((text.dropWhile (· ≠ colon)).drop 1)
    if key.isEmpty || value.isEmpty then none
    else
      match value.head? with
      | some quote =>
          if isQuote quote then
            if value.length < 2 ∨ value.getLast? ≠ some quote then none
            else
              let inner := (value.drop 1).dropLast
              if inner.isEmpty then none else some (key, inner)
          else some (key, value)
      | none => none

/-- The fields of an entry. -/
abbrev Fields := Dict Bytes Bytes

/-- Add the fields of a flow mapping's pieces; a repeated key is refused. -/
def addFlowFields : List Bytes → Fields → Option Fields
  | [], fields => some fields
  | piece :: pieces, fields =>
      match splitField piece with
      | none => none
      | some (key, value) =>
          if (fields.lookup key).isSome then none
          else addFlowFields pieces (fields.insert key value)

/-- `{key: value, …}`, with at least one field. -/
def parseFlowMapping (input : Bytes) (fields : Fields) : Option Fields :=
  if input.length < 2 ∨ input.head? ≠ some 0x7B ∨ input.getLast? ≠ some 0x7D then none
  else
    match addFlowFields (splitPieces 0x2C ((input.drop 1).dropLast)) fields with
    | none => none
    | some fields => if fields.entries.isEmpty then none else some fields

/-- The number a run of digits spells, if it fits 64 bits (`std::from_chars`). -/
def digitsValue : Bytes → Nat → Option Nat
  | [], value => some value
  | c :: rest, value =>
      if isDigit c then
        let value := value * 10 + (c.toNat - 0x30)
        if value < 2 ^ 64 then digitsValue rest value else none
      else none

/-- A latency in milliseconds: an unsigned 64-bit numeral, kept as a signed
64-bit count. -/
def parseLatency (text : Bytes) : Option Int :=
  if text.isEmpty then none
  else (digitsValue text 0).map fun milliseconds => Int.bmod milliseconds (2 ^ 64)

/-! ## The parser -/

inductive YamlSection
  | none
  | network
  | nodes
  | links
  deriving DecidableEq, Repr

/-- Where the parser is and what it has collected. -/
structure TopologyYamlParser where
  configuration : TopologyConfiguration := {}
  currentSection : YamlSection := .none
  entrySection : YamlSection := .none
  entryFields : Fields := ∅
  hasNetwork : Bool := false
  hasName : Bool := false
  hasNodes : Bool := false
  hasLinks : Bool := false
  hasEntry : Bool := false

namespace TopologyYamlParser

/-- Turn the collected fields into a node. -/
def entryNode (fields : Fields) : Except TopologyYamlError TopologyNode :=
  match fields.entries.length, fields.lookup (bytes "id"), fields.lookup (bytes "type") with
  | 2, some id, some type =>
      if type = bytes "host" then .ok { id, type := .host }
      else if type = bytes "switch" then .ok { id, type := .switch }
      else .error .invalidNodeType
  | _, _, _ => .error .invalidNodeField

/-- Turn the collected fields into a link. -/
def entryLink (fields : Fields) : Except TopologyYamlError TopologyLink :=
  match fields.lookup (bytes "from"), fields.lookup (bytes "to") with
  | some «from», some «to» =>
      if fields.entries.length > 3 then .error .invalidLinkField
      else
        match fields.lookup (bytes "latency_ms") with
        | none => .ok { «from», «to» }
        | some text =>
            match parseLatency text with
            | none => .error .invalidLatency
            | some latency => .ok { «from», «to», latency }
  | _, _ => .error .invalidLinkField

/-- Finish the entry being collected, if there is one. -/
def flushEntry (parser : TopologyYamlParser) : Except TopologyYamlError TopologyYamlParser :=
  if !parser.hasEntry then .ok parser
  else
    let configuration := parser.configuration
    if parser.entrySection = .nodes then do
      let node ← entryNode parser.entryFields
      .ok { parser with
        hasEntry := false, entryFields := ∅,
        configuration := { configuration with nodes := configuration.nodes ++ [node] } }
    else do
      let link ← entryLink parser.entryFields
      .ok { parser with
        hasEntry := false, entryFields := ∅,
        configuration := { configuration with links := configuration.links ++ [link] } }

/-- A line without indentation opens a section; each may be opened once. -/
def openSection (parser : TopologyYamlParser) (content : Bytes) :
    Except TopologyYamlError TopologyYamlParser :=
  if content = bytes "network:" then
    if parser.hasNetwork then .error .malformedDocument
    else .ok { parser with currentSection := .network, hasNetwork := true }
  else if content = bytes "nodes:" then
    if parser.hasNodes then .error .malformedDocument
    else .ok { parser with currentSection := .nodes, hasNodes := true }
  else if content = bytes "links:" then
    if parser.hasLinks then .error .malformedDocument
    else .ok { parser with currentSection := .links, hasLinks := true }
  else .error .invalidTopLevelKey

/-- The error of a bad field in the section being read. -/
def fieldError (parser : TopologyYamlParser) : TopologyYamlError :=
  if parser.currentSection = .nodes then .invalidNodeField else .invalidLinkField

/-- The only field of the network section is its name. -/
def networkField (parser : TopologyYamlParser) (indent : Nat) (content : Bytes) :
    Except TopologyYamlError TopologyYamlParser :=
  match splitField content with
  | some (key, value) =>
      if indent ≠ 2 ∨ key ≠ bytes "name" ∨ parser.hasName then .error .invalidNetworkField
      else .ok { parser with
        configuration := { parser.configuration with name := value }, hasName := true }
  | none => .error .invalidNetworkField

/-- `- …` begins an entry, whose fields may follow on the same line. -/
def beginEntry (parser : TopologyYamlParser) (content : Bytes) :
    Except TopologyYamlError TopologyYamlParser := do
  let parser ← parser.flushEntry
  let parser := { parser with entrySection := parser.currentSection }
  let entry := trim (content.drop 1)
  if entry.isEmpty then .ok { parser with hasEntry := true }
  else
    match parseFlowMapping entry parser.entryFields with
    | none => .error parser.fieldError
    | some entryFields => .ok { parser with entryFields, hasEntry := true }

/-- A field of the entry being collected, on a line of its own. -/
def entryField (parser : TopologyYamlParser) (indent : Nat) (content : Bytes) :
    Except TopologyYamlError TopologyYamlParser :=
  match splitField content with
  | some (key, value) =>
      if indent ≠ 4 ∨ !parser.hasEntry ∨ (parser.entryFields.lookup key).isSome then
        .error parser.fieldError
      else .ok { parser with entryFields := parser.entryFields.insert key value }
  | none => .error parser.fieldError

/-- One line of the text. -/
def parseLine (parser : TopologyYamlParser) (rawLine : Bytes) :
    Except TopologyYamlError TopologyYamlParser :=
  let line := withoutComment rawLine
  if (trim line).isEmpty then .ok parser
  else
    let margin := line.takeWhile fun c => c = 0x20 || c = 0x09
    let content := line.drop margin.length
    if 0x09 ∈ margin then .error .malformedDocument
    else if margin.length = 0 then do
      let parser ← parser.flushEntry
      parser.openSection content
    else if parser.currentSection = .network then parser.networkField margin.length content
    else if parser.currentSection = .none then .error .malformedDocument
    else if margin.length = 2 ∧ content.head? = some 0x2D then parser.beginEntry content
    else parser.entryField margin.length content

/-- What the whole text must have had. -/
def finish (parser : TopologyYamlParser) : Except TopologyYamlError TopologyConfiguration := do
  let parser ← parser.flushEntry
  if !parser.hasNetwork then .error .missingNetwork
  else if !parser.hasName then .error .missingNetworkName
  else if !parser.hasNodes then .error .missingNodes
  else if !parser.hasLinks then .error .missingLinks
  else .ok parser.configuration

/-- Read the lines in order. -/
def parseLines : TopologyYamlParser → List Bytes → Except TopologyYamlError TopologyYamlParser
  | parser, [] => .ok parser
  | parser, line :: lines => do
      let parser ← parser.parseLine line
      parseLines parser lines

end TopologyYamlParser

def topologyConfigurationFromYaml (yaml : Bytes) :
    Except TopologyYamlError TopologyConfiguration := do
  let parser ← TopologyYamlParser.parseLines {} (splitPieces 0x0A yaml)
  parser.finish

/-- The files a process can read: the contents of each path that opens. -/
abbrev Files := Bytes → Option Bytes

def topologyConfigurationFromYamlFile (files : Files) (path : Bytes) :
    Except TopologyYamlError TopologyConfiguration :=
  match files path with
  | none => .error .fileRead
  | some contents => topologyConfigurationFromYaml contents

end WireLab
