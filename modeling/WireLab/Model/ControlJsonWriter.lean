import WireLab.Model.ControlProtocol

/-!
# Writing control messages

`to_json` of `control_protocol.cpp` for requests, replies and events: every message is one
object whose members come in a fixed order. How a finite double prints in fixed
notation is the caller's (`fixed`); it is asked only about finite values.
-/

namespace WireLab

open Base

/-! ## Values -/

def hexDigits : Bytes := bytes "0123456789abcdef"

/-- One hexadecimal digit, in lower case. -/
def hexOf (value : UInt8) : UInt8 := (hexDigits[value.toNat]?).getD 0

/-- A byte as two hexadecimal digits. -/
def hexByte (value : UInt8) : Bytes := [hexOf (value / 16), hexOf (value % 16)]

/-- One byte of a string, escaped where the grammar asks for it. -/
def jsonCharacter (character : UInt8) : Bytes :=
  if character = 0x22 then [0x5C, 0x22]
  else if character = 0x5C then [0x5C, 0x5C]
  else if character = 0x08 then [0x5C, 0x62]
  else if character = 0x0C then [0x5C, 0x66]
  else if character = 0x0A then [0x5C, 0x6E]
  else if character = 0x0D then [0x5C, 0x72]
  else if character = 0x09 then [0x5C, 0x74]
  else if character < 0x20 then [0x5C, 0x75, 0x30, 0x30] ++ hexByte character
  else [character]

def jsonString (value : Bytes) : Bytes := 0x22 :: value.flatMap jsonCharacter ++ [0x22]

def jsonBool (value : Bool) : Bytes := if value then bytes "true" else bytes "false"

/-- A signed count. -/
def jsonInt (value : Int) : Bytes :=
  if value < 0 then 0x2D :: decimal value.natAbs else decimal value.natAbs

/-- A double; what is not a number is written as zero. -/
def jsonNumber (fixed : Float → Bytes) (value : Float) : Bytes :=
  fixed (if value.isFinite then value else 0.0)

def jsonMember (member : String × Bytes) : Bytes :=
  jsonString (bytes member.1) ++ colon :: member.2

def jsonObject (members : List (String × Bytes)) : Bytes :=
  0x7B :: [0x2C].intercalate (members.map jsonMember) ++ [0x7D]

def jsonArray (items : List Bytes) : Bytes := 0x5B :: [0x2C].intercalate items ++ [0x5D]

/-- Six pairs of digits between colons. -/
def MacAddress.toString (address : MacAddress) : Bytes :=
  [colon].intercalate (address.bytes.map hexByte)

def anomalyTypeName : AnomalyType → Bytes
  | .broadcastStorm => bytes "broadcast_storm"
  | .macFlap => bytes "mac_flap"
  | .unknownUnicastFlood => bytes "unknown_unicast_flood"
  | .udpFlood => bytes "udp_flood"
  | .portScan => bytes "port_scan"
  | .hotTalker => bytes "hot_talker"
  | .malformedFrame => bytes "malformed_frame"

/-- Nanoseconds as whole milliseconds, rounded towards zero. -/
def milliseconds (nanoseconds : Int) : Int := nanoseconds.tdiv 1000000

/-! ## Messages -/

/-- The members of a fault configuration. -/
def FaultConfiguration.members (configuration : FaultConfiguration) : List (String × Bytes) :=
  [("latency_ms", jsonInt (milliseconds configuration.latency)),
    ("jitter_ms", jsonInt (milliseconds configuration.jitter)),
    ("loss_basis_points", decimal configuration.lossBasisPoints.toNat),
    ("duplication_basis_points", decimal configuration.duplicationBasisPoints.toNat),
    ("bandwidth_bits_per_second", decimal configuration.bandwidthBitsPerSecond.toNat),
    ("blackhole", jsonBool configuration.blackhole),
    ("isolated", jsonBool configuration.isolated)]

/-- The parameters a request is written with. -/
def ControlRequest.parameters (request : ControlRequest) : List (String × Bytes) :=
  let benchmark := request.benchmark
  let fault := request.fault
  match request.command with
  | .loadTopology => [("topology_path", jsonString request.topology.path)]
  | .startBenchmark =>
      [("scenario", jsonString benchmark.scenario),
        ("backend", jsonString benchmark.backend.toString),
        ("generator", jsonString benchmark.generator),
        ("batch_size", decimal benchmark.batchSize.toNat),
        ("duration_seconds", decimal benchmark.durationSeconds.toNat),
        ("seed", decimal benchmark.seed.toNat),
        ("packets", decimal benchmark.packetCount.toNat),
        ("frame_size", decimal benchmark.frameSize.toNat)]
  | .setPortFault => ("port_id", jsonString fault.portId) :: fault.configuration.members
  | .setLinkFault =>
      ("first_endpoint", jsonString fault.firstEndpoint) ::
        ("second_endpoint", jsonString fault.secondEndpoint) :: fault.configuration.members
  | .clearPortFault => [("port_id", jsonString fault.portId)]
  | .clearLinkFault =>
      [("first_endpoint", jsonString fault.firstEndpoint),
        ("second_endpoint", jsonString fault.secondEndpoint)]
  | .getSwitchState | .getActiveFaults | .getSupervisionState | .stopRun => []

def ControlRequest.toJson (request : ControlRequest) : Bytes :=
  jsonObject
    ([("api_version", decimal request.apiVersion.toNat),
      ("request_id", jsonString request.requestId),
      ("command", jsonString request.command.toString),
      ("topology_revision", decimal request.topologyRevision.toNat)] ++
      if request.parameters.isEmpty then []
      else [("parameters", jsonObject request.parameters)])

def ControlReply.toJson (reply : ControlReply) : Bytes :=
  jsonObject
    [("api_version", decimal reply.apiVersion.toNat),
      ("request_id", jsonString reply.requestId),
      ("accepted", jsonBool reply.accepted),
      ("topology_revision", decimal reply.topologyRevision.toNat),
      if reply.accepted then ("operation_id", jsonString reply.operationId)
      else ("error", jsonString reply.error)]

/-- The members every event begins with. -/
def EventStamp.members (stamp : EventStamp) (event : String) : List (String × Bytes) :=
  [("api_version", decimal stamp.apiVersion.toNat),
    ("event_sequence", decimal stamp.eventSequence.toNat),
    ("topology_revision", decimal stamp.topologyRevision.toNat),
    ("event", jsonString (bytes event))]

def AnomalyEvent.toJson (anomaly : AnomalyEvent) : Bytes :=
  jsonObject
    [("type", jsonString (anomalyTypeName anomaly.type)),
      ("source_mac", jsonString anomaly.sourceMac.toString),
      ("source_ipv4", decimal anomaly.sourceIpv4.toNat),
      ("ingress_port", decimal anomaly.ingressPort.toNat),
      ("observed_packets", decimal anomaly.observedPackets),
      ("observed_bytes", decimal anomaly.observedBytes),
      ("observed_distinct_destinations", decimal anomaly.observedDistinctDestinations),
      ("threshold", decimal anomaly.threshold),
      ("window_duration_ns", decimal anomaly.windowDurationNs)]

def SwitchMetricsEvent.toJson (event : SwitchMetricsEvent) : Bytes :=
  let metrics := event.metrics
  jsonObject (event.members "switch_metrics" ++
    [("metrics", jsonObject
      [("received_packets", decimal metrics.receivedPackets.toNat),
        ("received_bytes", decimal metrics.receivedBytes.toNat),
        ("forwarded_packets", decimal metrics.forwardedPackets.toNat),
        ("forwarded_bytes", decimal metrics.forwardedBytes.toNat),
        ("broadcast_packets", decimal metrics.broadcastPackets.toNat),
        ("unknown_unicast_packets", decimal metrics.unknownUnicastPackets.toNat),
        ("dropped_packets", decimal metrics.droppedPackets.toNat),
        ("malformed_packets", decimal metrics.malformedPackets.toNat),
        ("learned_macs", decimal metrics.learnedMacs.toNat)])])

def FaultStateEvent.toJson (event : FaultStateEvent) : Bytes :=
  let configuration := event.configuration
  jsonObject (event.members "fault_state_changed" ++
    [("active", jsonBool event.active), ("first_endpoint", jsonString event.firstEndpoint)] ++
    (if event.secondEndpoint.isEmpty then []
     else [("second_endpoint", jsonString event.secondEndpoint)]) ++
    (if !event.active then []
     else
      [("configuration", jsonObject
        [("latency_ms", jsonInt (milliseconds configuration.latency)),
          ("jitter_ms", jsonInt (milliseconds configuration.jitter)),
          ("loss_basis_points", decimal configuration.lossBasisPoints.toNat),
          ("duplication_basis_points", decimal configuration.duplicationBasisPoints.toNat),
          ("bandwidth_bits_per_second", decimal configuration.bandwidthBitsPerSecond.toNat),
          ("blackhole", jsonBool configuration.blackhole),
          ("isolated", jsonBool configuration.isolated)])]))

def TopologyStateEvent.toJson (event : TopologyStateEvent) : Bytes :=
  jsonObject (event.members "topology_loaded" ++
    [("name", jsonString event.name),
      ("nodes", jsonArray (event.nodes.map fun node =>
        jsonObject [("id", jsonString node.id), ("type", jsonString node.type.toString)])),
      ("links", jsonArray (event.links.map fun link =>
        jsonObject
          [("from", jsonString link.from), ("to", jsonString link.to),
            ("latency_ms", jsonInt link.latency)]))])

def AnomalyDetectedEvent.toJson (event : AnomalyDetectedEvent) : Bytes :=
  jsonObject (event.members "anomaly_detected" ++ [("anomaly", event.anomaly.toJson)])

def PolicyActionEvent.toJson (event : PolicyActionEvent) : Bytes :=
  let decision := event.decision
  jsonObject (event.members "policy_action" ++
    [("rule_name", jsonString decision.ruleName),
      ("action", jsonString decision.action.toString),
      ("hit_count", decimal decision.hitCount.toNat),
      ("rate_limit_packets_per_second", decimal decision.rateLimitPacketsPerSecond.toNat),
      ("anomaly", decision.anomaly.toJson)])

def SupervisionStateEvent.toJson (event : SupervisionStateEvent) : Bytes :=
  jsonObject (event.members "supervision_state" ++
    [("analysed_frames", decimal event.analysedFrames.toNat),
      ("blocked_frames", decimal event.blockedFrames.toNat),
      ("bindings", jsonArray (event.bindings.map fun binding =>
        jsonObject
          [("port_id", jsonString binding.portId), ("endpoint", jsonString binding.endpoint)]))])

def BenchmarkProgressEvent.toJson (event : BenchmarkProgressEvent) : Bytes :=
  jsonObject (event.members "benchmark_progress" ++
    [("operation_id", jsonString event.operationId),
      ("completed_packets", decimal event.completedPackets.toNat),
      ("total_packets", decimal event.totalPackets.toNat)])

def BenchmarkResultEvent.toJson (fixed : Float → Bytes) (event : BenchmarkResultEvent) : Bytes :=
  let benchmark := event.result
  jsonObject (event.members "benchmark_result" ++
    [("operation_id", jsonString event.operationId),
      ("completed", jsonBool event.completed),
      ("result", jsonObject
        [("backend", jsonString benchmark.backend),
          ("scenario", jsonString benchmark.scenario),
          ("seed", decimal benchmark.seed.toNat),
          ("frame_size", decimal benchmark.frameSize.toNat),
          ("batch_size", decimal benchmark.batchSize.toNat),
          ("total_packets", decimal benchmark.totalPackets.toNat),
          ("completed_packets", decimal benchmark.completedPackets.toNat),
          ("received_packets", decimal benchmark.receivedPackets.toNat),
          ("received_bytes", decimal benchmark.receivedBytes.toNat),
          ("malformed_packets", decimal benchmark.malformedPackets.toNat),
          ("broadcast_packets", decimal benchmark.broadcastPackets.toNat),
          ("unknown_unicast_packets", decimal benchmark.unknownUnicastPackets.toNat),
          ("known_unicast_packets", decimal benchmark.knownUnicastPackets.toNat),
          ("elapsed_ns", decimal benchmark.elapsedNs.toNat),
          ("packets_per_second", jsonNumber fixed benchmark.packetsPerSecond),
          ("goodput_bits_per_second", jsonNumber fixed benchmark.goodputBitsPerSecond),
          ("loss_percentage", jsonNumber fixed benchmark.lossPercentage),
          ("batch_analysis_latency_p50_ns", decimal benchmark.batchAnalysisLatencyP50Ns.toNat),
          ("batch_analysis_latency_p95_ns", decimal benchmark.batchAnalysisLatencyP95Ns.toNat),
          ("batch_analysis_latency_p99_ns", decimal benchmark.batchAnalysisLatencyP99Ns.toNat),
          ("timing", jsonObject
            [("host_to_device_ns", decimal benchmark.timing.hostToDeviceNs.toNat),
              ("kernel_ns", decimal benchmark.timing.kernelNs.toNat),
              ("device_to_host_ns", decimal benchmark.timing.deviceToHostNs.toNat)])])])

/-- An event as it is sent. -/
def ControlEvent.toJson (fixed : Float → Bytes) : ControlEvent → Bytes
  | .switchMetrics event => event.toJson
  | .faultState event => event.toJson
  | .topologyState event => event.toJson
  | .anomalyDetected event => event.toJson
  | .policyAction event => event.toJson
  | .supervisionState event => event.toJson
  | .benchmarkProgress event => event.toJson
  | .benchmarkResult event => event.toJson fixed

/-- One byte below the printable range, escaped by its code. -/
example : jsonString [0x61, 0x01, 0x22] = bytes "\"a\\u0001\\\"\"" := by decide

end WireLab
