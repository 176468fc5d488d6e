import WireLab.Model.PacketAnalysis
import WireLab.Base.Group

/-!
# The anomaly detector

`anomaly_detector.cpp`: a sliding window of observed packets, one pass over it
that counts traffic per source, and a report of every source that exceeds a
threshold now and did not at the previous evaluation.

Counts, timestamps and thresholds are natural numbers: they count packets held
in memory or are compared without arithmetic that could wrap.
-/

namespace WireLab

open Base

inductive AnomalyType
  | broadcastStorm
  | macFlap
  | unknownUnicastFlood
  | udpFlood
  | portScan
  | hotTalker
  | malformedFrame
  deriving DecidableEq, Repr

def AnomalyType.toString : AnomalyType → Bytes
  | .broadcastStorm => bytes "broadcast-storm"
  | .macFlap => bytes "mac-flap"
  | .unknownUnicastFlood => bytes "unknown-unicast-flood"
  | .udpFlood => bytes "udp-flood"
  | .portScan => bytes "port-scan"
  | .hotTalker => bytes "hot-talker"
  | .malformedFrame => bytes "malformed-frame"

structure AnomalyDetectorConfig where
  windowDurationNs : Nat := 1000000000
  broadcastPacketsThreshold : Nat := 0
  macFlapTransitionsThreshold : Nat := 0
  unknownUnicastPacketsThreshold : Nat := 0
  udpPacketsThreshold : Nat := 0
  portScanDestinationsThreshold : Nat := 0
  hotTalkerPacketsThreshold : Nat := 0
  malformedFramesThreshold : Nat := 0
  deriving DecidableEq, Repr

structure AnomalyEvent where
  type : AnomalyType := .broadcastStorm
  sourceMac : MacAddress := .zero
  sourceIpv4 : UInt32 := 0
  ingressPort : UInt32 := 0
  observedPackets : Nat := 0
  observedBytes : Nat := 0
  observedDistinctDestinations : Nat := 0
  threshold : Nat := 0
  windowDurationNs : Nat := 0
  deriving DecidableEq

/-- What the window keeps of a packet. -/
structure ObservedPacket where
  timestampNs : Nat := 0
  sourceMac : MacAddress := .zero
  sourceIpv4 : UInt32 := 0
  destinationPort : UInt16 := 0
  frameLength : UInt16 := 0
  ingressPort : UInt32 := 0
  protocol : UInt8 := 0
  classification : PacketClassification := .malformed
  validity : PacketValidity := .malformedEthernet
  deriving DecidableEq

/-- An anomaly's identity between two evaluations. -/
structure ActiveAnomaly where
  type : AnomalyType
  sourceMac : MacAddress
  sourceIpv4 : UInt32
  ingressPort : UInt32
  deriving DecidableEq

/-- The identity an event is remembered under. -/
def AnomalyEvent.active (event : AnomalyEvent) : ActiveAnomaly where
  type := event.type
  sourceMac := event.sourceMac
  sourceIpv4 := event.sourceIpv4
  ingressPort := event.ingressPort

/-- `event_less`: by type, source address, source IPv4 and ingress port. -/
def eventLess (first second : AnomalyEvent) : Bool :=
  if first.type ≠ second.type then first.type.ctorIdx < second.type.ctorIdx
  else if first.sourceMac ≠ second.sourceMac then first.sourceMac.bytes < second.sourceMac.bytes
  else if first.sourceIpv4 ≠ second.sourceIpv4 then first.sourceIpv4 < second.sourceIpv4
  else first.ingressPort < second.ingressPort

/-! ## Counting -/

/-- Packets and bytes of one source, and the port its last packet came in by. -/
structure TrafficCounter where
  packets : Nat := 0
  bytes : Nat := 0
  ingressPort : UInt32 := 0
  deriving DecidableEq

def TrafficCounter.count (counter : TrafficCounter) (observation : ObservedPacket) :
    TrafficCounter where
  packets := counter.packets + 1
  bytes := counter.bytes + observation.frameLength.toNat
  ingressPort := observation.ingressPort

/-- The counters of one evaluation. -/
structure Tally where
  broadcasts : Dict MacAddress TrafficCounter := ∅
  unknownUnicasts : Dict MacAddress TrafficCounter := ∅
  udpSources : Dict UInt32 TrafficCounter := ∅
  scanDestinations : Dict UInt32 (Finset UInt16) := ∅
  scanIngressPorts : Dict UInt32 UInt32 := ∅
  ingressPorts : Dict MacAddress (List UInt32) := ∅
  sourceTraffic : Dict MacAddress TrafficCounter := ∅
  malformedIngressPorts : Dict UInt32 TrafficCounter := ∅

namespace ObservedPacket

/-! Which group of each counter an observation belongs to. -/

def broadcastSource (observation : ObservedPacket) : Option MacAddress :=
  if observation.classification = .broadcast then some observation.sourceMac else none

def unknownUnicastSource (observation : ObservedPacket) : Option MacAddress :=
  if observation.classification = .unknownUnicast then some observation.sourceMac else none

def udpSource (observation : ObservedPacket) : Option UInt32 :=
  if observation.validity = .valid ∧ observation.protocol = 17 then some observation.sourceIpv4
  else none

def scanSource (observation : ObservedPacket) : Option UInt32 :=
  if observation.validity = .valid ∧ (observation.protocol = 6 ∨ observation.protocol = 17) then
    some observation.sourceIpv4
  else none

def flapSource (observation : ObservedPacket) : Option MacAddress :=
  if observation.classification ≠ .malformed then some observation.sourceMac else none

def talkerSource (observation : ObservedPacket) : Option MacAddress :=
  if observation.validity = .valid then some observation.sourceMac else none

def malformedSource (observation : ObservedPacket) : Option UInt32 :=
  if observation.validity = .valid then none else some observation.ingressPort

end ObservedPacket

/-- One observation, counted everywhere it belongs. -/
def Tally.observe (tally : Tally) (observation : ObservedPacket) : Tally where
  broadcasts := upsert tally.broadcasts observation.broadcastSource {} (·.count observation)
  unknownUnicasts :=
    upsert tally.unknownUnicasts observation.unknownUnicastSource {} (·.count observation)
  udpSources := upsert tally.udpSources observation.udpSource {} (·.count observation)
  scanDestinations := upsert tally.scanDestinations observation.scanSource ∅
    (insert observation.destinationPort)
  scanIngressPorts := upsert tally.scanIngressPorts observation.scanSource 0
    (fun _ => observation.ingressPort)
  ingressPorts := upsert tally.ingressPorts observation.flapSource []
    (· ++ [observation.ingressPort])
  sourceTraffic := upsert tally.sourceTraffic observation.talkerSource {} (·.count observation)
  malformedIngressPorts :=
    upsert tally.malformedIngressPorts observation.malformedSource {} (·.count observation)

/-- How often consecutive entries differ. -/
def transitions : List UInt32 → Nat
  | [] => 0
  | [_] => 0
  | first :: second :: rest =>
      (if second ≠ first then 1 else 0) + transitions (second :: rest)

/-! ## Candidates -/

/-- `add_candidate`: an event, unless its detector is off or nothing exceeds the
threshold. -/
def candidate? (config : AnomalyDetectorConfig) (type : AnomalyType) (sourceMac : MacAddress)
    (sourceIpv4 ingressPort : UInt32)
    (observedPackets observedBytes observedDistinctDestinations threshold : Nat) :
    Option AnomalyEvent :=
  if threshold = 0 then none
  else if observedPackets ≤ threshold ∧ observedDistinctDestinations ≤ threshold then none
  else some
    { type, sourceMac, sourceIpv4, ingressPort, observedPackets, observedBytes,
      observedDistinctDestinations, threshold, windowDurationNs := config.windowDurationNs }

/-- The candidates of a detector that counts packets per source address. -/
def macCandidates (config : AnomalyDetectorConfig) (type : AnomalyType) (threshold : Nat)
    (counters : Dict MacAddress TrafficCounter) : List AnomalyEvent :=
  counters.entries.filterMap fun entry =>
    candidate? config type entry.1 0 entry.2.ingressPort entry.2.packets entry.2.bytes 0 threshold

/-- The sources that send too much UDP. -/
def udpCandidates (config : AnomalyDetectorConfig) (counters : Dict UInt32 TrafficCounter) :
    List AnomalyEvent :=
  counters.entries.filterMap fun entry =>
    candidate? config .udpFlood .zero entry.1 entry.2.ingressPort entry.2.packets entry.2.bytes 0
      config.udpPacketsThreshold

/-- The sources that try too many destination ports. -/
def scanCandidates (config : AnomalyDetectorConfig) (destinations : Dict UInt32 (Finset UInt16))
    (scanIngressPorts : Dict UInt32 UInt32) : List AnomalyEvent :=
  destinations.entries.filterMap fun entry =>
    candidate? config .portScan .zero entry.1 ((scanIngressPorts.lookup entry.1).getD 0)
      0 0 entry.2.card config.portScanDestinationsThreshold

/-- The source addresses that change ports too often. -/
def flapCandidates (config : AnomalyDetectorConfig) (ingressPorts : Dict MacAddress (List UInt32)) :
    List AnomalyEvent :=
  ingressPorts.entries.filterMap fun entry =>
    candidate? config .macFlap entry.1 0 (entry.2.getLast?.getD 0) (transitions entry.2) 0 0
      config.macFlapTransitionsThreshold

/-- The ports that too many malformed frames come in by. -/
def malformedCandidates (config : AnomalyDetectorConfig) (counters : Dict UInt32 TrafficCounter) :
    List AnomalyEvent :=
  counters.entries.filterMap fun entry =>
    candidate? config .malformedFrame .zero 0 entry.1 entry.2.packets entry.2.bytes 0
      config.malformedFramesThreshold

/-- Every source over a threshold, detector by detector. -/
def Tally.candidates (tally : Tally) (config : AnomalyDetectorConfig) : List AnomalyEvent :=
  macCandidates config .broadcastStorm config.broadcastPacketsThreshold tally.broadcasts ++
  macCandidates config .unknownUnicastFlood config.unknownUnicastPacketsThreshold
    tally.unknownUnicasts ++
  udpCandidates config tally.udpSources ++
  scanCandidates config tally.scanDestinations tally.scanIngressPorts ++
  flapCandidates config tally.ingressPorts ++
  macCandidates config .hotTalker config.hotTalkerPacketsThreshold tally.sourceTraffic ++
  malformedCandidates config tally.malformedIngressPorts

/-! ## The detector -/

theorem windowed_default : ({} : AnomalyDetectorConfig).windowDurationNs ≠ 0 := by decide

/-- The window and what was over a threshold when it was last evaluated. The
constructor refuses an empty window. -/
structure AnomalyDetector where
  config : AnomalyDetectorConfig := {}
  observations : List ObservedPacket := []
  activeAnomalies : List ActiveAnomaly := []
  lastTimestampNs : Option Nat := none
  windowed : config.windowDurationNs ≠ 0 := by exact windowed_default

namespace AnomalyDetector

/-- A packet as the window records it. -/
def observed (timestampNs : Nat) (packet : PacketAnalysis) : ObservedPacket where
  timestampNs := timestampNs
  sourceMac := packet.sourceMac
  sourceIpv4 := packet.sourceIpv4
  destinationPort := packet.destinationPort
  frameLength := packet.frameLength
  ingressPort := packet.ingressPort
  protocol := packet.protocol
  classification := packet.classification
  validity := packet.validity

/-- Drop what has left the window, from the front. -/
def expire (config : AnomalyDetectorConfig) (observations : List ObservedPacket)
    (timestampNs : Nat) : List ObservedPacket :=
  let cutoff := timestampNs - config.windowDurationNs
  observations.dropWhile fun observation => observation.timestampNs < cutoff

/-- The window after a batch. -/
def window (detector : AnomalyDetector) (batch : AnalysisBatch) (timestampNs : Nat) :
    List ObservedPacket :=
  expire detector.config
    (detector.observations ++ batch.packets.map (observed timestampNs)) timestampNs

/-- The candidates of a window, in order. -/
def candidates (config : AnomalyDetectorConfig) (observations : List ObservedPacket) :
    List AnomalyEvent :=
  ((observations.foldl Tally.observe {}).candidates config).insertionSort
    fun first second => !eventLess second first

/-- One evaluation: the anomalies that were not active before. `none` is the
exception thrown at a clock that runs backwards. -/
def evaluate (detector : AnomalyDetector) (batch : AnalysisBatch) (timestampNs : Nat) :
    Option (List AnomalyEvent × AnomalyDetector) :=
  if detector.lastTimestampNs.any (timestampNs < ·) then none
  else
    let observations := detector.window batch timestampNs
    let found := candidates detector.config observations
    some (found.filter fun event => event.active ∉ detector.activeAnomalies,
      { detector with
        observations
        activeAnomalies := found.map AnomalyEvent.active
        lastTimestampNs := some timestampNs })

/-- Forget what was observed. -/
def reset (detector : AnomalyDetector) : AnomalyDetector :=
  { config := detector.config, windowed := detector.windowed }

end AnomalyDetector
end WireLab
