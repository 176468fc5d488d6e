import WireLab.Model.Session

/-!
# The traffic of a session

`session_traffic.cpp`: starting and stopping traffic, and one tick of it: frames are
generated, sent through the faults of their port and their link, analysed, and what
came of them published. An exception of the generator's constructor, or of a device,
leaves the session as far as it got.
-/

namespace WireLab

open Base

namespace Session

variable {δ β τ : Type}

/-- Forget the simulation. The leases are dropped, not restored. -/
def resetSimulation (now : Int) (session : Session δ β τ) : Session δ β τ :=
  { session with
    trafficGenerator := none
    trafficAnalyzer := none
    analysisPipeline := session.analysisPipeline.reset
    simulationStart := now
    tickSequence := 0
    totalPackets := 0
    totalBytes := 0
    totalDropped := 0
    portCounters := session.hosts.foldl (fun counters host => counters.insert host {}) ∅
    learnedMacPorts := ∅
    metricsHistory := []
    macTable := []
    packetRows := []
    anomalyRows := []
    policyActions := []
    enforcedPorts := []
    portStates := []
    trafficResult := bytes "Ready. Configure traffic and press Start." }.mark .telemetry

def stopTraffic (session : Session δ β τ) : Session δ β τ :=
  if !session.trafficRunning then session
  else
    ({ session with trafficRunning := false }.setStatus (bytes "Traffic stopped.")).mark
      .trafficState

/-- The analyzer of a backend; `none` is the exception of a device. -/
def analyzerFor (env : SessionEnvironment δ β τ) (backend : Bytes) : Option (TrafficAnalyzer δ) :=
  if backend ∈ [bytes "CUDA", bytes "Metal", bytes "Metal (live)"] then
    (env.device backend).map .accelerated
  else some (.cpu [])

/-- The session with the settings of its traffic replaced. -/
def withTrafficSettings (trafficScenario : TrafficScenario) (packetsPerTick frameSize : Int32)
    (seed : UInt64) (backend : Bytes) (session : Session δ β τ) : Session δ β τ :=
  { session with
    trafficScenario, packetsPerTick, frameSize, trafficSeed := seed, activeBackend := backend }

/-- The configuration of a generator of the session's settings. -/
def generatorConfig (session : Session δ β τ) : TrafficGeneratorConfig where
  scenario := session.trafficScenario
  seed := session.trafficSeed
  frameSize := .ofNat session.frameSize.toInt.toNat
  hostCount := .ofNat (max 1 session.hosts.length)

/-- The session with its generator and its analyzer replaced. -/
def withGenerator (trafficGenerator : Option DeterministicTrafficGenerator)
    (trafficAnalyzer : Option (TrafficAnalyzer δ)) (session : Session δ β τ) : Session δ β τ :=
  { session with trafficGenerator, trafficAnalyzer }

/-- What `start_traffic` does behind its constructions. -/
def runTraffic (session : Session δ β τ) : Session δ β τ :=
  ({ session with trafficRunning := true }.setStatus
    (bytes "Traffic running on " ++ session.activeBackend)).mark .trafficState

/-- The rest of `start_traffic`, behind its settings: the generator and the analyzer are
constructed. -/
def constructTraffic (env : SessionEnvironment δ β τ) (session : Session δ β τ) :
    Completion × Session δ β τ :=
  match DeterministicTrafficGenerator.create session.generatorConfig with
  | none => (.threw, session)
  | some generator =>
      match analyzerFor env session.activeBackend with
      | none => (.threw, session.withGenerator (some generator) (some (.cpu [])))
      | some analyzer =>
          (.returned, (session.withGenerator (some generator) (some analyzer)).runTraffic)

def startTraffic (env : SessionEnvironment δ β τ) (scenario : Bytes)
    (packetsPerTick frameSize : Int32) (seed : UInt64) (backend : Bytes)
    (session : Session δ β τ) : Completion × Session δ β τ :=
  if !session.hasTopology then
    (.returned,
      session.setStatus (bytes "Load or create a topology before starting traffic."))
  else
    match trafficScenarioFromString scenario with
    | .error _ => (.returned, session.setStatus (bytes "Traffic settings are invalid."))
    | .ok parsedScenario =>
        if packetsPerTick.toInt ≤ 0 ∨ frameSize.toInt < 14 then
          (.returned, session.setStatus (bytes "Traffic settings are invalid."))
        else if backend ∉ env.availableBackends then
          (.returned, session.setStatus
            (backend ++ bytes " is not available in this build or on this system."))
        else
          (session.withTrafficSettings parsedScenario packetsPerTick frameSize seed
            backend).constructTraffic env

/-! ## The frames of a tick -/

/-- What a tick has counted so far. -/
structure TrafficTick where
  controller : TopologyController
  portCounters : Dict Bytes PortCounters
  delivered : List PacketView := []
  tickBytes : UInt64 := 0
  tickDropped : UInt64 := 0
  totalLatency : Int := 0
  latencySamples : UInt64 := 0

/-- Count on a port; a port that has no counters yet starts at zero. -/
def TrafficTick.count (tick : TrafficTick) (host : Bytes) (f : PortCounters → PortCounters) :
    TrafficTick :=
  { tick with
    portCounters := tick.portCounters.insert host (f ((tick.portCounters.lookup host).getD {})) }

def TrafficTick.receive (tick : TrafficTick) (host : Bytes) : TrafficTick :=
  tick.count host fun counters => { counters with received := counters.received + 1 }

def TrafficTick.withController (tick : TrafficTick) (controller : TopologyController) :
    TrafficTick :=
  { tick with controller }

def TrafficTick.drop (tick : TrafficTick) (host : Bytes) : TrafficTick :=
  { tick.count host fun counters => { counters with dropped := counters.dropped + 1 } with
    tickDropped := tick.tickDropped + 1 }

/-- The copies of a frame that leave its link. -/
def TrafficTick.deliver (tick : TrafficTick) (host : Bytes) (hostIndex : UInt64) (frame : Bytes)
    (deliveries : Nat) (latency : Int) : TrafficTick :=
  { tick.count host fun counters =>
      { counters with forwarded := counters.forwarded + .ofNat deliveries } with
    delivered := tick.delivered ++
      List.replicate deliveries { bytes := frame, ingressPort := hostIndex.toUInt32 }
    tickBytes := tick.tickBytes + .ofNat deliveries * .ofNat frame.length
    totalLatency := tick.totalLatency + latency
    latencySamples := tick.latencySamples + 1 }

/-- The first link between a host and the switch. -/
def linkOf (links : List TopologyLink) (host switchId : Bytes) : Option TopologyLink :=
  links.find? (TopologyController.joins host switchId)

/-- Where a frame of a host goes: how many copies leave its link, and how late the
first of them is. `none` is one of the five ways to be dropped: by the fault of the
port, for want of a link, by the fault of the link, or because nothing is left to
deliver. -/
def routeFrame (links : List TopologyLink) (switchId : Bytes) (arrival : Int) (host : Bytes)
    (frameBytes : UInt64) (controller : TopologyController) :
    Option (Nat × Int) × TopologyController :=
  match controller.evaluatePort host frameBytes arrival with
  | .error _ => (none, controller)
  | .ok (portDecision, controller) =>
      if portDecision.dropped then (none, controller)
      else
        match linkOf links host switchId with
        | none => (none, controller)
        | some link =>
            match controller.evaluateLink link.from link.to frameBytes
              (portDecision.deliveryTimes.headD 0) with
            | .error _ => (none, controller)
            | .ok (linkDecision, controller) =>
                let deliveries := portDecision.deliveryCount * linkDecision.deliveryCount
                if linkDecision.dropped ∨ deliveries = 0 then (none, controller)
                else
                  (some (deliveries, linkDecision.deliveryTimes.headD 0 - arrival), controller)

/-- One frame that came in on a host. -/
def sendFrame (links : List TopologyLink) (switchId : Bytes) (arrival : Int) (host : Bytes)
    (hostIndex : UInt64) (frame : Bytes) (tick : TrafficTick) : TrafficTick :=
  let tick := tick.receive host
  match routeFrame links switchId arrival host (.ofNat frame.length) tick.controller with
  | (none, controller) => (tick.withController controller).drop host
  | (some (deliveries, latency), controller) =>
      (tick.withController controller).deliver host hostIndex frame deliveries latency

/-- The host that a frame comes in on. -/
def hostIndexOf (session : Session δ β τ) (index : Nat) : UInt64 :=
  (session.tickSequence * .ofNat session.packetsPerTick.toInt.toNat + .ofNat index) %
    .ofNat session.hosts.length

/-- The loop over the frames of a tick. -/
def sendFrames (session : Session δ β τ) (switchId : Bytes) (arrival : Int) :
    List (Bytes × Nat) → TrafficTick → TrafficTick
  | [], tick => tick
  | (frame, index) :: frames, tick =>
      let hostIndex := session.hostIndexOf index
      let host := (session.hosts[hostIndex.toNat]?).getD []
      sendFrames session switchId arrival frames
        (sendFrame session.topologyConfiguration.links switchId arrival host hostIndex frame tick)

/-- Analyse what was delivered; `none` is the exception of a device. -/
def analyzeDelivered (env : SessionEnvironment δ β τ) (analyzer : Option (TrafficAnalyzer δ))
    (delivered : List PacketView) : Option (AnalysisBatch × Option (TrafficAnalyzer δ)) :=
  if delivered.isEmpty then some ({}, analyzer)
  else
    match analyzer with
    | none => some ({}, none)
    | some (.cpu learnedMacs) =>
        (CpuPacketAnalyzer.analyze learnedMacs delivered).map fun (analysis, learnedMacs) =>
          (analysis, some (.cpu learnedMacs))
    | some (.accelerated device) =>
        (env.analyze device delivered).map fun (analysis, device) =>
          (analysis, some (.accelerated device))

/-! ## Telemetry -/

/-- The newest entries, at most so many. -/
def newest {α : Type} (limit : Nat) (entries : List α) : List α :=
  entries.drop (entries.length - limit)

/-- The host of an ingress number, or the number itself. -/
def ingressName (hosts : List Bytes) (ingressPort : UInt32) : Bytes :=
  (hosts[ingressPort.toNat]?).getD (decimal ingressPort.toNat)

def packetRow (hosts : List Bytes) (packet : PacketAnalysis) : PacketRow where
  sourceMac := packet.sourceMac.toString
  destinationMac := packet.destinationMac.toString
  sourceIp := SessionDetail.ipv4String packet.sourceIpv4
  destinationIp := SessionDetail.ipv4String packet.destinationIpv4
  ingress := ingressName hosts packet.ingressPort
  protocol := packet.protocol
  destinationPort := packet.destinationPort
  bytes := packet.frameLength
  classification := packet.classification
  validity := packet.validity

/-- The learned addresses as rows, ordered by address. -/
def macTableRows (learnedMacPorts : Dict Bytes Bytes) : List MacTableRow :=
  (learnedMacPorts.entries.map fun entry =>
      ({ mac := entry.1, port := entry.2 } : MacTableRow)).insertionSort fun left right =>
    left.mac < right.mac ∨ left.mac = right.mac ∧ left.port ≤ right.port

def anomalyRow (anomaly : AnomalyEvent) : AnomalyRow where
  type := anomaly.type
  sourceMac := anomaly.sourceMac.toString
  sourceIp := SessionDetail.ipv4String anomaly.sourceIpv4
  ingressPort := anomaly.ingressPort
  observed := anomaly.observedPackets
  threshold := anomaly.threshold

def policyActionRow (sequence : UInt64) (detail : EnforcementAction → Bytes)
    (action : EnforcementAction) : PolicyActionRow where
  sequence
  rule := action.ruleName
  anomalyType := action.anomalyType
  action := action.action
  port := action.portId
  outcome := action.outcome
  detail := detail action

/-- The rows of the ports; a host without counters has none of anything. -/
def portStateRows (session : Session δ β τ) : List PortStateRow :=
  session.hosts.map fun host =>
    let counters := (session.portCounters.lookup host).getD {}
    { id := host
      enforced := session.analysisPipeline.enforcer.isEnforced host
      received := counters.received
      forwarded := counters.forwarded
      dropped := counters.dropped }

/-- A tick's sample, behind the newest of the earlier ones. -/
def addSample (tickDropped : UInt64) (throughputMbps averageLatencyMs : Float)
    (session : Session δ β τ) : Session δ β τ :=
  let lossPercent :=
    if session.packetsPerTick = 0 then 0.0
    else 100.0 * tickDropped.toFloat / Float.ofInt session.packetsPerTick.toInt
  let sample : MetricSample :=
    { sequence := session.tickSequence, throughputMbps, latencyMs := averageLatencyMs, lossPercent }
  { session with metricsHistory := newest 60 (session.metricsHistory ++ [sample]) }

/-- The packets of a tick as rows, and the ports of their senders. -/
def showPackets (analysis : AnalysisBatch) (session : Session δ β τ) : Session δ β τ :=
  let shown := analysis.packets.take 100
  let learnedMacPorts := shown.foldl (fun learned packet =>
    learned.insert packet.sourceMac.toString
      (ingressName session.hosts packet.ingressPort)) session.learnedMacPorts
  { session with
    packetRows := shown.map (packetRow session.hosts)
    learnedMacPorts
    macTable := macTableRows learnedMacPorts }

/-- What the pipeline answered, as rows. -/
def withOutcome (outcome : AnalysisOutcome) (session : Session δ β τ) : Session δ β τ :=
  { session with
    anomalyRows := outcome.anomalies.map anomalyRow
    policyActions := newest 200
      (session.policyActions ++
        outcome.released.map (policyActionRow session.tickSequence fun _ =>
          bytes "Lease expired, fault restored") ++
        outcome.enforced.map (policyActionRow session.tickSequence
          SessionDetail.enforcementSummary)) }

def showOutcome (outcome : AnalysisOutcome) (session : Session δ β τ) : Session δ β τ :=
  if !outcome.released.isEmpty || !outcome.enforced.isEmpty then
    (session.withOutcome outcome).rebuildFaultRows.rebuildPolicyRows
  else session.withOutcome outcome

/-- The summary of the traffic. -/
def trafficSummary (env : SessionEnvironment δ β τ) (session : Session δ β τ)
    (throughputMbps averageLatencyMs : Float) : Bytes :=
  SessionDetail.middleDot.intercalate
    [decimal session.totalPackets.toNat ++ bytes " packets generated",
      decimal session.totalBytes.toNat ++ bytes " delivered bytes",
      decimal session.totalDropped.toNat ++ bytes " dropped",
      env.formatFixed throughputMbps 3 ++ bytes " Mbps",
      env.formatFixed averageLatencyMs 2 ++ bytes " ms average"]

/-- The ports and the summary, as rows. -/
def showTraffic (env : SessionEnvironment δ β τ) (throughputMbps averageLatencyMs : Float)
    (session : Session δ β τ) : Session δ β τ :=
  { session with
    portStates := session.portStateRows
    trafficResult := trafficSummary env session throughputMbps averageLatencyMs }.mark .telemetry

def rebuildTelemetryRows (env : SessionEnvironment δ β τ) (now : Int) (analysis : AnalysisBatch)
    (tickDropped : UInt64) (throughputMbps averageLatencyMs : Float) (session : Session δ β τ) :
    Completion × Session δ β τ :=
  let session := (session.addSample tickDropped throughputMbps averageLatencyMs).showPackets analysis
  let elapsed := max (now - session.simulationStart) 0
  match session.analysisPipeline.evaluate session.topologyController analysis elapsed.toNat now with
  | none => (.threw, session)
  | some (outcome, analysisPipeline, topologyController) =>
      (.returned,
        ((session.withEngines analysisPipeline topologyController).showOutcome outcome).showTraffic
          env throughputMbps averageLatencyMs)

/-! ## One tick of traffic -/

/-- The last switch of the topology. -/
def switchId (session : Session δ β τ) : Bytes :=
  (((session.topologyConfiguration.nodes.filter fun node => node.type ≠ .host).map
    TopologyNode.id).getLast?).getD []

/-- The session after the loop over the frames of a tick. -/
def afterFrames (generator : DeterministicTrafficGenerator) (tick : TrafficTick)
    (session : Session δ β τ) : Session δ β τ :=
  { session with
    trafficGenerator := some generator
    topologyController := tick.controller
    portCounters := tick.portCounters }

/-- The totals with a tick's. -/
def countTick (frames : Nat) (tick : TrafficTick) (trafficAnalyzer : Option (TrafficAnalyzer δ))
    (session : Session δ β τ) : Session δ β τ :=
  { session with
    trafficAnalyzer
    totalPackets := session.totalPackets + UInt64.ofNat frames
    totalBytes := session.totalBytes + tick.tickBytes
    totalDropped := session.totalDropped + tick.tickDropped
    tickSequence := session.tickSequence + 1 }

def TrafficTick.throughputMbps (tick : TrafficTick) : Float :=
  tick.tickBytes.toFloat * 16.0 / 1000000.0

def TrafficTick.averageLatencyMs (tick : TrafficTick) : Float :=
  if tick.latencySamples = 0 then 0.0
  else Float.ofInt tick.totalLatency / 1000000.0 / tick.latencySamples.toFloat

/-- A tick that has counted nothing yet. -/
def startTick (session : Session δ β τ) : TrafficTick where
  controller := session.topologyController
  portCounters := session.portCounters

def sendTick (session : Session δ β τ) (arrival : Int) (frames : List Bytes) : TrafficTick :=
  session.sendFrames session.switchId arrival frames.zipIdx session.startTick

/-- One tick; the clock is read as the frames arrive and after they are analysed. -/
def runTrafficStep (env : SessionEnvironment δ β τ) (arrival now : Int)
    (session : Session δ β τ) : Completion × Session δ β τ :=
  match session.trafficGenerator with
  | none => (.returned, session)
  | some generator =>
      if !session.trafficRunning then (.returned, session)
      else if session.hosts.isEmpty ∨ session.switchId.isEmpty then
        (.returned, session.stopTraffic.setStatus
          (bytes "Traffic requires at least one host and one switch."))
      else
        let (frames, generator) := generator.generate session.packetsPerTick.toInt.toNat
        let tick := session.sendTick arrival frames
        match analyzeDelivered env session.trafficAnalyzer tick.delivered with
        | none => (.threw, session.afterFrames generator tick)
        | some (analysis, trafficAnalyzer) =>
            ((session.afterFrames generator tick).countTick frames.length tick
              trafficAnalyzer).rebuildTelemetryRows env now analysis tick.tickDropped
                tick.throughputMbps tick.averageLatencyMs

end Session
end WireLab
