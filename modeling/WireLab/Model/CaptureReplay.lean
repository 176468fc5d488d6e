import WireLab.Base.Checked
import WireLab.Model.AnalysisPipeline
import WireLab.Model.ControlJsonWriter
import WireLab.Model.EthernetFrame
import WireLab.Model.PacketAnalyzer
import WireLab.Model.Pcap

/-!
# Replaying a capture

`wirelab_pcap_main.cpp`: a capture goes through analysis, detection and policy in
batches, and its packets are written into a new capture whose comments say what was
decided about each of them.

The files are outside: what a path holds, and whether the output takes what is written
(`ReplayEnvironment`). What the tool prints is left out, but for the texts of options it
refuses. A read outside a frame has no outcome, as in `Pcap`.
-/

namespace WireLab

open Base

/-! ## Options -/

structure ReplayOptions where
  input : Bytes := []
  output : Bytes := []
  batchSize : UInt64 := 256
  windowMs : UInt64 := 1000
  broadcastThreshold : UInt64 := 100
  unknownUnicastThreshold : UInt64 := 100
  udpThreshold : UInt64 := 500
  portScanThreshold : UInt64 := 20
  hotTalkerThreshold : UInt64 := 1000
  malformedThreshold : UInt64 := 10
  macFlapThreshold : UInt64 := 5
  onlyFlagged : Bool := false
  batched : batchSize ≠ 0 := by decide

/-- `std::stoull` in base 10: the value, and how many characters it took. White space
and a sign are passed over, and a minus wraps. `none` where it throws: there is no digit,
or the digits are past 64 bits. -/
def stoull (text : Bytes) : Option (UInt64 × Nat) :=
  let (negative, rest) := readSign (text.dropWhile isWhiteSpace)
  let digits := rest.takeWhile isDigit
  if digits.isEmpty ∨ 2 ^ 64 ≤ digitsFrom 0 digits then none
  else
    let value := UInt64.ofNat (digitsFrom 0 digits)
    some (if negative then -value else value, text.length - rest.length + digits.length)

/-- A number that is all of its text. -/
def parseU64 (text : Bytes) : Option UInt64 :=
  match stoull text with
  | none => none
  | some (value, consumed) => if consumed ≠ text.length then none else some value

namespace ReplayOptions

/-- The options that take a plain number. -/
def numeric (flag : Bytes) : Option (UInt64 → ReplayOptions → ReplayOptions) :=
  if flag = bytes "--window" then some fun value options => { options with windowMs := value }
  else if flag = bytes "--broadcast" then
    some fun value options => { options with broadcastThreshold := value }
  else if flag = bytes "--unknown-unicast" then
    some fun value options => { options with unknownUnicastThreshold := value }
  else if flag = bytes "--udp" then
    some fun value options => { options with udpThreshold := value }
  else if flag = bytes "--port-scan" then
    some fun value options => { options with portScanThreshold := value }
  else if flag = bytes "--hot-talker" then
    some fun value options => { options with hotTalkerThreshold := value }
  else if flag = bytes "--malformed" then
    some fun value options => { options with malformedThreshold := value }
  else if flag = bytes "--mac-flap" then
    some fun value options => { options with macFlapThreshold := value }
  else none

/-- An option and its value. -/
def withFlag (flag value : Bytes) (options : ReplayOptions) : Except Bytes ReplayOptions :=
  if flag = bytes "--out" then .ok { options with output := value }
  else if flag = bytes "--batch" then
    match parseU64 value with
    | none => .error (bytes "Batch size must be a positive integer")
    | some batch =>
        if hbatch : batch = 0 then .error (bytes "Batch size must be a positive integer")
        else .ok { options with batchSize := batch, batched := hbatch }
  else
    match numeric flag with
    | none => .error (bytes "Unknown option " ++ flag)
    | some set =>
        match parseU64 value with
        | none => .error (bytes "Value for " ++ flag ++ bytes " must be an integer")
        | some number => .ok (set number options)

/-- The loop over the arguments behind the input. -/
def parseFlags : List Bytes → ReplayOptions → Except Bytes ReplayOptions
  | [], options => .ok options
  | [flag], options =>
      if flag = bytes "--only-flagged" then .ok { options with onlyFlagged := true }
      else .error (bytes "Missing value for " ++ flag)
  | flag :: value :: rest, options =>
      if flag = bytes "--only-flagged" then
        parseFlags (value :: rest) { options with onlyFlagged := true }
      else
        match options.withFlag flag value with
        | .error message => .error message
        | .ok options => parseFlags rest options

/-- `parse_options`, on what follows the name of the program. Without an input only the
usage is printed. -/
def parse : List Bytes → Except Bytes ReplayOptions
  | [] => .error []
  | input :: flags => parseFlags flags { input }

/-- The detector's thresholds; the window wraps at 64 bits. -/
def detectorConfig (options : ReplayOptions) : AnomalyDetectorConfig where
  windowDurationNs := (options.windowMs * 1000000).toNat
  broadcastPacketsThreshold := options.broadcastThreshold.toNat
  unknownUnicastPacketsThreshold := options.unknownUnicastThreshold.toNat
  udpPacketsThreshold := options.udpThreshold.toNat
  portScanDestinationsThreshold := options.portScanThreshold.toNat
  hotTalkerPacketsThreshold := options.hotTalkerThreshold.toNat
  malformedFramesThreshold := options.malformedThreshold.toNat
  macFlapTransitionsThreshold := options.macFlapThreshold.toNat

end ReplayOptions

/-! ## Comments -/

namespace Replay

def ipv4String (address : UInt32) : Bytes :=
  decimal ((address >>> 24) &&& 0xff).toNat ++ bytes "." ++
    decimal ((address >>> 16) &&& 0xff).toNat ++ bytes "." ++
    decimal ((address >>> 8) &&& 0xff).toNat ++ bytes "." ++ decimal (address &&& 0xff).toNat

/-- Sixteen hexadecimal digits. -/
def hexString (value : UInt64) : Bytes :=
  (List.range 8).flatMap fun i => hexByte (value >>> UInt64.ofNat (56 - 8 * i)).toUInt8

/-- What is said of every packet. -/
def packetText (analysis : PacketAnalysis) : Bytes :=
  bytes "WireLab: " ++ analysis.classification.toString ++ bytes ", " ++
    analysis.validity.toString ++
    if analysis.validity = .valid ∧ analysis.protocol ≠ 0 then
      bytes ", proto=" ++ decimal analysis.protocol.toNat ++
        (if analysis.sourceIpv4 ≠ 0 ∨ analysis.destinationIpv4 ≠ 0 then
          bytes ", " ++ ipv4String analysis.sourceIpv4 ++ colon ::
            decimal analysis.sourcePort.toNat ++ bytes " -> " ++
            ipv4String analysis.destinationIpv4 ++ colon :: decimal analysis.destinationPort.toNat
        else []) ++
        bytes ", flow=0x" ++ hexString analysis.flowHash
    else []

/-- The line of an anomaly. -/
def anomalyText (anomaly : AnomalyEvent) : Bytes :=
  bytes "\nANOMALY " ++ anomaly.type.toString ++
    (if anomaly.observedDistinctDestinations ≠ 0 then
      bytes ": " ++ decimal anomaly.observedDistinctDestinations ++
        bytes " destinations > threshold " ++ decimal anomaly.threshold
    else
      bytes ": " ++ decimal anomaly.observedPackets ++ bytes " packets > threshold " ++
        decimal anomaly.threshold) ++
    bytes " in " ++ decimal (anomaly.windowDurationNs / 1000000) ++ bytes " ms" ++
    (if !anomaly.sourceMac.isZero then bytes ", source " ++ anomaly.sourceMac.toString else []) ++
    if anomaly.sourceIpv4 ≠ 0 then bytes ", source " ++ ipv4String anomaly.sourceIpv4 else []

/-- The line of a decision. -/
def policyText (decision : PolicyDecision) : Bytes :=
  bytes "\nPOLICY " ++ decision.ruleName ++ bytes " -> " ++ decision.action.toString ++
    if decision.action = .rateLimit ∧ decision.rateLimitPacketsPerSecond ≠ 0 then
      bytes " at " ++ decimal decision.rateLimitPacketsPerSecond.toNat ++ bytes " pps"
    else []

/-- What Wireshark shows for a packet: what was decided, and why. -/
def buildComment (analysis : PacketAnalysis) (anomalies : List AnomalyEvent)
    (decisions : List PolicyDecision) : Bytes :=
  packetText analysis ++ anomalies.flatMap anomalyText ++ decisions.flatMap policyText

/-- Whether an anomaly is attached to a packet: it names the packet's sender, or both
are malformed. -/
def indicts (packet : PacketAnalysis) (anomaly : AnomalyEvent) : Bool :=
  let byMac := !anomaly.sourceMac.isZero && anomaly.sourceMac = packet.sourceMac
  let byIpv4 := anomaly.sourceIpv4 ≠ 0 && anomaly.sourceIpv4 = packet.sourceIpv4
  let byPort := anomaly.type = .malformedFrame && packet.classification = .malformed
  byMac || byIpv4 || byPort

end Replay

/-! ## The replay -/

inductive ReplayError
  /-- The options are refused; the usage is printed behind the text. -/
  | usage (message : Bytes)
  | unreadable (error : PcapError)
  | unwritable (error : PcapError)
  | unflushed
  /-- An exception leaves `main`. -/
  | terminated
  deriving DecidableEq, Repr

/-- What the tool finds: the files, whether the output opens, whether it takes what is
written behind so many bytes, whether it flushes, and the clock. -/
structure ReplayEnvironment where
  files : Bytes → Option Bytes
  opens : Bytes → Bool
  stores : Nat → Bool
  flushes : Bool
  now : Int := 0

/-- The capture that is written, and how many of its packets carry a verdict. -/
structure ReplayOutput where
  writer : PcapNgWriter
  annotatedPackets : UInt64 := 0
  exportedPackets : UInt64 := 0

structure Replay where
  pipeline : AnalysisPipeline
  learnedMacs : List MacAddress := []
  output : Option ReplayOutput := none
  totals : AnalysisBatch := {}
  totalAnomalies : UInt64 := 0
  totalDecisions : UInt64 := 0
  anomalyCounts : Dict Bytes UInt64 := ∅
  ruleHits : Dict Bytes UInt64 := ∅

namespace Replay

/-- `add_rule`, whatever it answers. -/
def installRule (policies : PolicyEngine) (rule : PolicyRule) : PolicyEngine :=
  match policies.addRule rule with
  | .error _ => policies
  | .ok policies => policies

def defaultRules : List PolicyRule :=
  [{ name := bytes "quarantine-broadcast-storm", anomalyType := .broadcastStorm,
     action := .quarantine },
    { name := bytes "drop-udp-flood", anomalyType := .udpFlood, action := .drop },
    { name := bytes "mirror-port-scan", anomalyType := .portScan, action := .mirror },
    { name := bytes "mirror-malformed", anomalyType := .malformedFrame, action := .mirror }]

/-- The pipeline of a replay; the detector's constructor throws at an empty window. -/
def createPipeline (config : AnomalyDetectorConfig) : Option AnalysisPipeline :=
  if hwindow : config.windowDurationNs ≠ 0 then
    some
      { detector := { config, windowed := hwindow }
        policies := defaultRules.foldl installRule {} }
  else none

/-- `from_file`. -/
def readCapture (env : ReplayEnvironment) (path : Bytes) : Checked PcapError PcapCapture :=
  match env.files path with
  | none => throw .fileRead
  | some data => PcapCapture.fromBytes data

/-- A packet of a capture as the analyzer gets it. -/
def view (capture : PcapCapture) (packet : PcapPacket) : PacketView where
  bytes := capture.frame packet

/-- The totals with those of a batch. -/
def addTotals (totals analysis : AnalysisBatch) : AnalysisBatch :=
  { totals with
    receivedPackets := totals.receivedPackets + analysis.receivedPackets
    receivedBytes := totals.receivedBytes + analysis.receivedBytes
    malformedPackets := totals.malformedPackets + analysis.malformedPackets
    broadcastPackets := totals.broadcastPackets + analysis.broadcastPackets
    unknownUnicastPackets := totals.unknownUnicastPackets + analysis.unknownUnicastPackets
    knownUnicastPackets := totals.knownUnicastPackets + analysis.knownUnicastPackets }

/-- `++counts[name]`. -/
def countName (counts : Dict Bytes UInt64) (name : Bytes) : Dict Bytes UInt64 :=
  counts.insert name ((counts.lookup name).getD 0 + 1)

/-- The sums with those of an outcome. -/
def countOutcome (outcome : AnalysisOutcome) (replay : Replay) : Replay :=
  { replay with
    totalAnomalies := replay.totalAnomalies + .ofNat outcome.anomalies.length
    totalDecisions := replay.totalDecisions + .ofNat outcome.decisions.length
    anomalyCounts :=
      (outcome.anomalies.map fun anomaly => anomaly.type.toString).foldl countName
        replay.anomalyCounts
    ruleHits := (outcome.decisions.map PolicyDecision.ruleName).foldl countName replay.ruleHits }

/-- The anomalies that are attached to a packet. -/
def matched (outcome : AnalysisOutcome) (packet : PacketAnalysis) : List AnomalyEvent :=
  outcome.anomalies.filter (indicts packet)

/-- The decisions about them: a decision is about the anomaly it has the type, the source
and the port of. -/
def matchedDecisions (outcome : AnalysisOutcome) (packet : PacketAnalysis) :
    List PolicyDecision :=
  (matched outcome packet).flatMap fun anomaly =>
    outcome.decisions.filter fun decision => decision.anomaly.active = anomaly.active

/-- Export one packet, or skip it. -/
def exportPacket (env : ReplayEnvironment) (options : ReplayOptions) (capture : PcapCapture)
    (outcome : AnalysisOutcome) (output : ReplayOutput) (item : PacketAnalysis × PcapPacket) :
    Except ReplayError ReplayOutput :=
  let (packet, record) := item
  let flagged := !(matched outcome packet).isEmpty
  let output :=
    if flagged then { output with annotatedPackets := output.annotatedPackets + 1 } else output
  if !flagged && options.onlyFlagged then .ok output
  else
    let comment := buildComment packet (matched outcome packet) (matchedDecisions outcome packet)
    match output.writer.write (env.stores output.writer.stream.length) record.timestampNs
      (capture.frame record) record.originalLength comment with
    | .error e => .error (.unwritable e)
    | .ok writer => .ok { output with writer, exportedPackets := output.exportedPackets + 1 }

/-- Analyse and judge one batch, and export its packets if there is an output. -/
def replayBatch (env : ReplayEnvironment) (options : ReplayOptions) (capture : PcapCapture)
    (packets : List PcapPacket) (replay : Replay) : Checked ReplayError Replay :=
  match CpuPacketAnalyzer.analyze replay.learnedMacs (packets.map (view capture)) with
  | none => Checked.wrong
  | some (analysis, learnedMacs) =>
      let replay := { replay with learnedMacs, totals := addTotals replay.totals analysis }
      let timestampNs := (packets.getLast?.map fun packet => packet.timestampNs.toNat).getD 0
      match replay.pipeline.evaluate {} analysis timestampNs env.now with
      | none => throw .terminated
      | some (outcome, pipeline, _) =>
          let replay := countOutcome outcome { replay with pipeline }
          match replay.output with
          | none => pure replay
          | some output =>
              match (analysis.packets.zip packets).foldlM
                (exportPacket env options capture outcome) output with
              | .error e => throw e
              | .ok output => pure { replay with output := some output }

/-- The loop over the packets, a batch at a time; so many rounds are enough. -/
def replayBatches (env : ReplayEnvironment) (options : ReplayOptions) (capture : PcapCapture) :
    Nat → List PcapPacket → Replay → Checked ReplayError Replay
  | _, [], replay => pure replay
  | 0, _ :: _, _ => Checked.wrong
  | rounds + 1, packet :: packets, replay => do
      let batch := (packet :: packets).take options.batchSize.toNat
      let replay ← replayBatch env options capture batch replay
      replayBatches env options capture rounds
        ((packet :: packets).drop options.batchSize.toNat) replay

/-- The writer, if an output is named. -/
def createOutput (env : ReplayEnvironment) (options : ReplayOptions) :
    Except ReplayError (Option ReplayOutput) :=
  if options.output.isEmpty then .ok none
  else
    match PcapNgWriter.create (env.opens options.output) (env.stores 0) (bytes "wirelab")
      pcapMaximumSnaplen with
    | .error e => .error (.unwritable e)
    | .ok writer => .ok (some { writer })

/-- The tool behind its options. -/
def run (env : ReplayEnvironment) (options : ReplayOptions) : Checked ReplayError Replay := do
  let capture ← (readCapture env options.input).adapt ReplayError.unreadable
  match createPipeline options.detectorConfig with
  | none => throw .terminated
  | some pipeline =>
      match createOutput env options with
      | .error e => throw e
      | .ok output => do
          let replay ← replayBatches env options capture capture.packets.length capture.packets
            { pipeline, output }
          if replay.output.isSome && !env.flushes then throw .unflushed else pure replay

/-- `main`, on what follows the name of the program. -/
def main (env : ReplayEnvironment) (arguments : List Bytes) : Checked ReplayError Replay :=
  match ReplayOptions.parse arguments with
  | .error message => throw (.usage message)
  | .ok options => run env options

end Replay
end WireLab
