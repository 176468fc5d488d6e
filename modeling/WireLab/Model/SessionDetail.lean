import WireLab.Model.ControlJsonWriter
import WireLab.Model.PolicyEnforcer

/-!
# Session helpers

`session_detail.hpp` and the labels of `session.cpp`: the detector's thresholds
on the desktop, and how addresses, actions, backends and paths are spelled. What
`save_topology` writes into its file is here too (`topologyYaml`).
-/

namespace WireLab

open Base

namespace SessionDetail

/-- A middle dot between blanks, which separates the parts of a summary. -/
def middleDot : Bytes := [0x20, 0xC2, 0xB7, 0x20]

/-- An arrow both ways between blanks, which stands between the ends of a link. -/
def leftRightArrow : Bytes := [0x20, 0xE2, 0x86, 0x94, 0x20]

def desktopAnomalyConfig : AnomalyDetectorConfig where
  windowDurationNs := 1000000000
  broadcastPacketsThreshold := 100
  unknownUnicastPacketsThreshold := 100
  udpPacketsThreshold := 200
  portScanDestinationsThreshold := 20
  hotTalkerPacketsThreshold := 200
  malformedFramesThreshold := 1

theorem desktopAnomalyConfig_windowed : desktopAnomalyConfig.windowDurationNs ≠ 0 := by decide

def ipv4String (address : UInt32) : Bytes :=
  [0x2E].intercalate
    [decimal ((address >>> 24) &&& 0xff).toNat, decimal ((address >>> 16) &&& 0xff).toNat,
      decimal ((address >>> 8) &&& 0xff).toNat, decimal (address &&& 0xff).toNat]

/-- A character between quotes: a backslash before a backslash and a quote. -/
def yamlEscape (character : UInt8) : Bytes :=
  if character = 0x5C ∨ character = 0x22 then [0x5C, character] else [character]

def yamlQuote (text : Bytes) : Bytes := 0x22 :: text.flatMap yamlEscape ++ [0x22]

def enforcementSummary (action : EnforcementAction) : Bytes :=
  match action.kind with
  | .blackhole => bytes "Dropping all frames"
  | .isolate => bytes "Port quarantined"
  | .rateLimit =>
      bytes "Capped at " ++ decimal (action.rateLimitBitsPerSecond / 1000).toNat ++ bytes " kbit/s"
  | .none => bytes "Recorded only"

/-- `std::tolower` of a byte, in the C locale. -/
def toLower (character : UInt8) : UInt8 :=
  if 0x41 ≤ character ∧ character ≤ 0x5A then character + 0x20 else character

def benchmarkBackendId (label : Bytes) : Bytes :=
  if label = bytes "Metal (live)" then bytes "metal-live" else label.map toLower

def benchmarkBackendLabel (id : Bytes) : Bytes :=
  if id = bytes "cuda" then bytes "CUDA"
  else if id = bytes "metal" then bytes "Metal"
  else if id = bytes "metal-live" then bytes "Metal (live)"
  else bytes "CPU"

/-- Dialogs hand back `file://` URLs. -/
def stripFileUrl (path : Bytes) : Bytes :=
  if (bytes "file://").isPrefixOf path then path.drop 7 else path

/-- What follows the last separator. -/
def fileNameOf (path : Bytes) : Bytes :=
  (path.reverse.takeWhile fun character => character ≠ 0x2F && character ≠ 0x5C).reverse

/-- `trimmed`: the blanks at both ends of a text field. -/
def trimmed (text : Bytes) : Bytes :=
  let isSpace (character : UInt8) : Bool :=
    character = 0x20 || (0x09 ≤ character && character ≤ 0x0D)
  ((text.dropWhile isSpace).reverse.dropWhile isSpace).reverse

def equalsIgnoreCase (left right : Bytes) : Bool := left.map toLower = right.map toLower

end SessionDetail

/-! ## Labels -/

def AnomalyType.displayName : AnomalyType → Bytes
  | .broadcastStorm => bytes "Broadcast storm"
  | .macFlap => bytes "MAC flap"
  | .unknownUnicastFlood => bytes "Unknown-unicast flood"
  | .udpFlood => bytes "UDP flood"
  | .portScan => bytes "Port scan"
  | .hotTalker => bytes "Hot talker"
  | .malformedFrame => bytes "Malformed frame"

def PolicyAction.displayName : PolicyAction → Bytes
  | .allow => bytes "Allow"
  | .drop => bytes "Drop"
  | .mirror => bytes "Mirror"
  | .rateLimit => bytes "Rate limit"
  | .quarantine => bytes "Quarantine"
  | .alertOnly => bytes "Alert only"

def anomalyTypeFromDisplayName (name : Bytes) : Option AnomalyType :=
  [.broadcastStorm, .macFlap, .unknownUnicastFlood, .udpFlood, .portScan, .hotTalker,
    .malformedFrame].find? fun candidate => name = AnomalyType.displayName candidate

def policyActionFromDisplayName (name : Bytes) : Option PolicyAction :=
  [.allow, .drop, .mirror, .rateLimit, .quarantine, .alertOnly].find? fun candidate =>
    name = PolicyAction.displayName candidate

/-! ## A saved topology -/

/-- What `save_topology` writes for a node. -/
def nodeYaml (node : TopologyNode) : Bytes :=
  bytes "  - \x7b id: " ++ SessionDetail.yamlQuote node.id ++ bytes ", type: " ++
    (if node.type = .switch then bytes "switch" else bytes "host") ++ bytes " \x7d\n"

/-- What it writes for a link. -/
def linkYaml (link : TopologyLink) : Bytes :=
  bytes "  - \x7b from: " ++ SessionDetail.yamlQuote link.from ++ bytes ", to: " ++
    SessionDetail.yamlQuote link.to ++ bytes ", latency_ms: " ++ jsonInt link.latency ++
    bytes " \x7d\n"

/-- The text that `save_topology` writes. -/
def topologyYaml (configuration : TopologyConfiguration) : Bytes :=
  bytes "network:\n  name: " ++ SessionDetail.yamlQuote configuration.name ++
    bytes "\n\nnodes:\n" ++ configuration.nodes.flatMap nodeYaml ++
    bytes "\nlinks:\n" ++ configuration.links.flatMap linkYaml

end WireLab
