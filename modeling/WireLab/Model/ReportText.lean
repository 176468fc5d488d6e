import WireLab.Model.SessionCommands

/-!
# The texts of an exported report

What `export_report` of `session_report.cpp` writes: the provenance and the rows as
JSON, and the rows once more as CSV. How doubles are printed is the caller's
(`NumberFormat`).
-/

namespace WireLab

open Base

/-- `format_general`, in six digits, and `format_json_number`, in all of them. -/
structure NumberFormat where
  general : Float → Bytes
  json : Float → Bytes

namespace SessionDetail

/-- One character between the quotes of a string. -/
def jsonEscapeCharacter (character : UInt8) : Bytes :=
  if character = 0x22 then bytes "\\\""
  else if character = 0x5C then bytes "\\\\"
  else if character = 0x0A then bytes "\\n"
  else if character = 0x0D then bytes "\\r"
  else if character = 0x09 then bytes "\\t"
  else if character < 0x20 then bytes "\\u00" ++ hexByte character
  else [character]

def jsonEscape (text : Bytes) : Bytes := text.flatMap jsonEscapeCharacter

end SessionDetail

namespace ReportText

open SessionDetail

/-! ## JSON -/

def jsonTextField (key : String) (value : Bytes) : Bytes :=
  bytes "\"" ++ bytes key ++ bytes "\": \"" ++ jsonEscape value ++ [0x22]

/-- For numbers and arrays, which are spelled already. -/
def jsonRawField (key : String) (value : Bytes) : Bytes :=
  bytes "\"" ++ bytes key ++ bytes "\": " ++ value

/-- The elements of an array behind its first. -/
def jsonStrings : List Bytes → Bytes
  | [] => []
  | [value] => [0x22] ++ jsonEscape value ++ [0x22]
  | value :: values => [0x22] ++ jsonEscape value ++ [0x22] ++ bytes ", " ++ jsonStrings values

def jsonStringArray (values : List Bytes) : Bytes := bytes "[" ++ jsonStrings values ++ bytes "]"

/-- One field a line. -/
def joinJsonFields (indent : Bytes) : List Bytes → Bytes
  | [] => []
  | [field] => indent ++ field ++ bytes "\n"
  | field :: fields => indent ++ field ++ bytes ",\n" ++ joinJsonFields indent fields

def reportRowJsonFields (format : NumberFormat) (row : ReportRow) : List Bytes :=
  [jsonTextField "backend" row.backendLabel,
    jsonTextField "backendId" row.backendId,
    jsonTextField "scenario" row.scenario,
    jsonRawField "packets" (decimal row.packets.toNat),
    jsonRawField "elapsedNs" (decimal row.elapsedNs.toNat),
    jsonRawField "packetsPerSecond" (format.json row.packetsPerSecond),
    jsonRawField "goodputBitsPerSecond" (format.json row.goodputBitsPerSecond),
    jsonRawField "lossPercent" (format.json row.lossPercent),
    jsonRawField "latencyP50Ns" (decimal row.latencyP50Ns.toNat),
    jsonRawField "latencyP95Ns" (decimal row.latencyP95Ns.toNat),
    jsonRawField "latencyP99Ns" (decimal row.latencyP99Ns.toNat),
    jsonRawField "hostToDeviceNs" (decimal row.hostToDeviceNs.toNat),
    jsonRawField "kernelNs" (decimal row.kernelNs.toNat),
    jsonRawField "deviceToHostNs" (decimal row.deviceToHostNs.toNat),
    jsonRawField "transferInclusiveNs" (decimal row.transferInclusiveNs.toNat),
    jsonRawField "queueWaitNs" (decimal row.queueWaitNs.toNat),
    jsonRawField "speedup" (format.json row.speedup)]

def provenanceFields (provenance : ReportProvenance) : List Bytes :=
  [jsonTextField "scenario" provenance.scenario,
    jsonRawField "seed" (decimal provenance.seed.toNat),
    jsonRawField "packets" (decimal provenance.packets.toNat),
    jsonRawField "batchSize" (decimal provenance.batchSize.toNat),
    jsonRawField "frameSize" (decimal provenance.frameSize.toNat),
    jsonRawField "hostCount" (decimal provenance.hostCount.toNat),
    jsonTextField "generator" provenance.generator,
    jsonTextField "version" provenance.version,
    jsonTextField "buildType" provenance.buildType,
    jsonRawField "backendsCompiledIn" (jsonStringArray provenance.backendsCompiledIn),
    jsonRawField "backendsPresent" (jsonStringArray provenance.backendsPresent),
    jsonTextField "generatedAt" provenance.generatedAt]

/-- The rows, one object each. -/
def jsonRows (format : NumberFormat) : List ReportRow → Bytes
  | [] => []
  | [row] =>
      bytes "    \x7b\n" ++ joinJsonFields (bytes "      ") (reportRowJsonFields format row) ++
        bytes "    \x7d\n"
  | row :: rows =>
      bytes "    \x7b\n" ++ joinJsonFields (bytes "      ") (reportRowJsonFields format row) ++
        bytes "    \x7d,\n" ++ jsonRows format rows

def reportJson (format : NumberFormat) (provenance : ReportProvenance) (rows : List ReportRow) :
    Bytes :=
  bytes "\x7b\n  \"provenance\": \x7b\n" ++
    joinJsonFields (bytes "    ") (provenanceFields provenance) ++
    bytes "  \x7d,\n  \"results\": [" ++
    if rows.isEmpty then bytes "]\n\x7d\n"
    else bytes "\n" ++ jsonRows format rows ++ bytes "  ]\n\x7d\n"

/-! ## CSV -/

def csvColumns : List String :=
  ["backend", "scenario", "packets", "elapsedNs", "packetsPerSecond", "goodputBitsPerSecond",
    "lossPercent", "latencyP50Ns", "latencyP95Ns", "latencyP99Ns", "hostToDeviceNs", "kernelNs",
    "deviceToHostNs", "transferInclusiveNs", "queueWaitNs", "speedup"]

def csvFields (format : NumberFormat) (row : ReportRow) : List Bytes :=
  [row.backendLabel,
    row.scenario,
    decimal row.packets.toNat,
    decimal row.elapsedNs.toNat,
    format.general row.packetsPerSecond,
    format.general row.goodputBitsPerSecond,
    format.general row.lossPercent,
    decimal row.latencyP50Ns.toNat,
    decimal row.latencyP95Ns.toNat,
    decimal row.latencyP99Ns.toNat,
    decimal row.hostToDeviceNs.toNat,
    decimal row.kernelNs.toNat,
    decimal row.deviceToHostNs.toNat,
    decimal row.transferInclusiveNs.toNat,
    decimal row.queueWaitNs.toNat,
    format.general row.speedup]

/-- `append_csv_line`: fields with commas between them, and a newline. -/
def csvLine : List Bytes → Bytes
  | [] => []
  | [field] => field ++ [0x0A]
  | field :: fields => field ++ [0x2C] ++ csvLine fields

def reportCsv (format : NumberFormat) (rows : List ReportRow) : Bytes :=
  csvLine (csvColumns.map bytes) ++ rows.flatMap fun row => csvLine (csvFields format row)

end ReportText

/-- The files that an export writes, with their paths. The flags are those of
`exportReport`; a file that could not be written is none of them. -/
def Session.exportedFiles {δ β τ : Type} (format : NumberFormat) (jsonWritten csvWritten : Bool)
    (path : Bytes) (session : Session δ β τ) : List (Bytes × Bytes) :=
  let localPath := Session.reportPath path
  if session.report.rows.isEmpty ∨ localPath.isEmpty ∨ !jsonWritten then []
  else
    let json := (localPath ++ bytes ".json",
      ReportText.reportJson format session.report.provenance session.report.rows)
    if !csvWritten then [json]
    else [json, (localPath ++ bytes ".csv", ReportText.reportCsv format session.report.rows)]

end WireLab
