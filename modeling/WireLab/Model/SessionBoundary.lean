import WireLab.Model.SessionCommands

/-!
# The boundary of a session

`wirelab_ffi.cpp` and its binding in Rust, `ffi/mod.rs`. A handle wraps a session: an
exception that escapes a command is parked as a message, and bits that are raised
outside the session wait beside its own. Rows cross one by one, with their enumerations
as numbers, and are read back on the other side.

The null handle, the tables of names and the check of the layout are left out; so is
running out of memory while an exception is reported.
-/

namespace WireLab

open Base

/-! ## Texts -/

/-- `CString::new`, of the binding: a text is cut at its first NUL, and ends with one. -/
def cstring (text : Bytes) : Bytes := text.takeWhile (· ≠ 0) ++ [0]

/-- `arg_string`: what a pointer points at, up to the NUL; a null pointer is empty. -/
def argString : Option Bytes → Bytes
  | none => []
  | some memory => memory.takeWhile (· ≠ 0)

/-- A text of the binding, as a command gets it. -/
def passedText (text : Bytes) : Bytes := argString (some (cstring text))

/-- A command with its texts passed through the boundary. -/
def SessionCommand.passed : SessionCommand → SessionCommand
  | .openTopology files path now => .openTopology files (passedText path) now
  | .saveTopology opens stores path => .saveTopology opens stores (passedText path)
  | .addNode id type now => .addNode (passedText id) (passedText type) now
  | .addLink a b latencyMs now => .addLink (passedText a) (passedText b) latencyMs now
  | .selectNode id => .selectNode (passedText id)
  | .selectLink a b => .selectLink (passedText a) (passedText b)
  | .clearFault first second => .clearFault (passedText first) (passedText second)
  | .addPolicy name anomalyType action rate =>
      .addPolicy (passedText name) (passedText anomalyType) (passedText action) rate
  | .removePolicy name => .removePolicy (passedText name)
  | .setPolicyEnabled name enabled => .setPolicyEnabled (passedText name) enabled
  | .releaseEnforcement portId => .releaseEnforcement (passedText portId)
  | .startTraffic scenario packetsPerTick frameSize seed backend =>
      .startTraffic (passedText scenario) packetsPerTick frameSize seed (passedText backend)
  | .runBenchmarkReport scenario packets batchSize frameSize seed generatedAt =>
      .runBenchmarkReport (passedText scenario) packets batchSize frameSize seed generatedAt
  | .exportReport jsonWritten csvWritten path =>
      .exportReport jsonWritten csvWritten (passedText path)
  | command => command

/-! ## Handles -/

def wirelabFfiAbiVersion : UInt32 := 1

/-- What is written of an exception; `none` is one without a message. -/
def internalError : Option Bytes → Bytes
  | none => bytes "Internal error."
  | some what => bytes "Internal error: " ++ what

/-- A command that goes through the guard. `thrown` is what its exception says, if it
throws one. Draining the mask is no such command. -/
structure GuardedCall where
  command : SessionCommand
  thrown : Option Bytes := none
  guarded : command ≠ .takeDirty

/-- `wirelab_session`. -/
structure SessionHandle (δ β τ : Type) where
  session : Session δ β τ
  lastError : Bytes := []
  extraDirty : UInt32 := 0

namespace SessionHandle

variable {δ β τ : Type}

/-- `wirelab_session_open`: the bits of the constructor wait for the first drain. -/
def openSession (abiVersion : UInt32) (now : Int) : Option (SessionHandle δ β τ) :=
  if abiVersion ≠ wirelabFfiAbiVersion then none
  else
    let (dirty, session) := (Session.create now).takeDirty
    some { session, extraDirty := dirty }

def recordError (what : Option Bytes) (handle : SessionHandle δ β τ) : SessionHandle δ β τ :=
  { handle with
    lastError := internalError what
    extraDirty := handle.extraDirty ||| SessionDirty.status.bit }

/-- `guard`: no exception reaches the caller. -/
def guard (env : SessionEnvironment δ β τ) (call : GuardedCall) (handle : SessionHandle δ β τ) :
    SessionHandle δ β τ :=
  let handle := { handle with lastError := [] }
  match call.command.perform env handle.session with
  | (.returned, session) => { handle with session }
  | (.threw, session) => { handle with session }.recordError call.thrown

/-- `wirelab_session_take_dirty`. -/
def takeDirty (handle : SessionHandle δ β τ) : UInt32 × SessionHandle δ β τ :=
  let (dirty, session) := handle.session.takeDirty
  (dirty ||| handle.extraDirty, { handle with session, extraDirty := 0 })

/-- `wirelab_session_status_message`: a failure of the boundary comes first. -/
def statusMessage (handle : SessionHandle δ β τ) : Bytes :=
  if handle.lastError ≠ [] then handle.lastError else handle.session.statusMessage

end SessionHandle

/-! ## Enumerations -/

/-- An enumeration as it crosses the boundary: the number of a value, the variants of the
binding in the order of their numbers, and what any other number is read as. -/
structure EnumBridge (α : Type) where
  asU32 : α → UInt32
  variants : List α
  fallback : α
  /-- The two sides have not drifted apart. -/
  agrees : ∀ value, variants[(asU32 value).toNat]? = some value

/-- `From<u32>`. -/
def EnumBridge.ofU32 {α : Type} (bridge : EnumBridge α) (value : UInt32) : α :=
  (bridge.variants[value.toNat]?).getD bridge.fallback

def nodeTypeBridge : EnumBridge TopologyNodeType where
  asU32 value := .ofNat value.ctorIdx
  variants := [.host, .switch]
  fallback := .host
  agrees value := by cases value <;> rfl

def selectionKindBridge : EnumBridge SelectionKind where
  asU32 value := .ofNat value.ctorIdx
  variants := [.none, .node, .link]
  fallback := .none
  agrees value := by cases value <;> rfl

def classificationBridge : EnumBridge PacketClassification where
  asU32 value := .ofNat value.ctorIdx
  variants := [.malformed, .broadcast, .unknownUnicast, .knownUnicast]
  fallback := .malformed
  agrees value := by cases value <;> rfl

def validityBridge : EnumBridge PacketValidity where
  asU32 value := .ofNat value.ctorIdx
  variants := [.valid, .malformedEthernet, .malformedIpv4, .malformedTransport]
  fallback := .malformedEthernet
  agrees value := by cases value <;> rfl

def anomalyTypeBridge : EnumBridge AnomalyType where
  asU32 value := .ofNat value.ctorIdx
  variants := [.broadcastStorm, .macFlap, .unknownUnicastFlood, .udpFlood, .portScan, .hotTalker,
    .malformedFrame]
  fallback := .broadcastStorm
  agrees value := by cases value <;> rfl

def policyActionBridge : EnumBridge PolicyAction where
  asU32 value := .ofNat value.ctorIdx
  variants := [.allow, .drop, .mirror, .rateLimit, .quarantine, .alertOnly]
  fallback := .alertOnly
  agrees value := by cases value <;> rfl

def enforcementKindBridge : EnumBridge EnforcementKind where
  asU32 value := .ofNat value.ctorIdx
  variants := [.none, .rateLimit, .blackhole, .isolate]
  fallback := .none
  agrees value := by cases value <;> rfl

def enforcementOutcomeBridge : EnumBridge EnforcementOutcome where
  asU32 value := .ofNat value.ctorIdx
  variants := [.applied, .extended, .released, .skipped, .unknownPort, .rejected]
  fallback := .skipped
  agrees value := by cases value <;> rfl

/-! ## Rows

Each kind of row has a view, which is zero where there is no row. -/

/-- `row_at`, and what is copied out of the row. -/
def rowAt {ρ V : Type} (rows : List ρ) (view : ρ → V) (zero : V) (index : Nat) : V :=
  match rows[index]? with
  | none => zero
  | some row => view row

/-- `Rows`, of the binding: the views of a table, each read as a row. -/
def collectRows {ρ V : Type} (count : Nat) (fetch : Nat → V) (convert : V → ρ) : List ρ :=
  (List.range count).map fun index => convert (fetch index)

structure NodeView where
  id : Bytes := []
  type : UInt32 := 0
  x : Float := 0.0
  y : Float := 0.0

def NodeRow.view (row : NodeRow) : NodeView where
  id := row.id
  type := nodeTypeBridge.asU32 row.type
  x := row.x
  y := row.y

def NodeView.row (view : NodeView) : NodeRow where
  id := view.id
  type := nodeTypeBridge.ofU32 view.type
  x := view.x
  y := view.y

/-- The flag is derived from the row, for callers that are not to rediscover it. -/
structure FaultView where
  first : Bytes := []
  second : Bytes := []
  latencyMs : Int := 0
  lossPercent : Float := 0.0
  blackhole : Bool := false
  isLink : Bool := false

def FaultRow.view (row : FaultRow) : FaultView where
  first := row.first
  second := row.second
  latencyMs := row.latencyMs
  lossPercent := row.lossPercent
  blackhole := row.blackhole
  isLink := !row.second.isEmpty

def FaultView.row (view : FaultView) : FaultRow where
  first := view.first
  second := view.second
  latencyMs := view.latencyMs
  lossPercent := view.lossPercent
  blackhole := view.blackhole

structure PolicyView where
  name : Bytes := []
  anomalyType : UInt32 := 0
  action : UInt32 := 0
  enabled : Bool := false
  rateLimitPacketsPerSecond : UInt64 := 0
  hits : UInt64 := 0

def PolicyRow.view (row : PolicyRow) : PolicyView where
  name := row.name
  anomalyType := anomalyTypeBridge.asU32 row.anomalyType
  action := policyActionBridge.asU32 row.action
  enabled := row.enabled
  rateLimitPacketsPerSecond := row.rateLimitPacketsPerSecond
  hits := row.hits

def PolicyView.row (view : PolicyView) : PolicyRow where
  name := view.name
  anomalyType := anomalyTypeBridge.ofU32 view.anomalyType
  action := policyActionBridge.ofU32 view.action
  enabled := view.enabled
  rateLimitPacketsPerSecond := view.rateLimitPacketsPerSecond
  hits := view.hits

structure PolicyActionView where
  sequence : UInt64 := 0
  rule : Bytes := []
  anomalyType : UInt32 := 0
  action : UInt32 := 0
  port : Bytes := []
  outcome : UInt32 := 0
  detail : Bytes := []

def PolicyActionRow.view (row : PolicyActionRow) : PolicyActionView where
  sequence := row.sequence
  rule := row.rule
  anomalyType := anomalyTypeBridge.asU32 row.anomalyType
  action := policyActionBridge.asU32 row.action
  port := row.port
  outcome := enforcementOutcomeBridge.asU32 row.outcome
  detail := row.detail

def PolicyActionView.row (view : PolicyActionView) : PolicyActionRow where
  sequence := view.sequence
  rule := view.rule
  anomalyType := anomalyTypeBridge.ofU32 view.anomalyType
  action := policyActionBridge.ofU32 view.action
  port := view.port
  outcome := enforcementOutcomeBridge.ofU32 view.outcome
  detail := view.detail

structure EnforcedPortView where
  port : Bytes := []
  rule : Bytes := []
  kind : UInt32 := 0
  summary : Bytes := []

def EnforcedPortRow.view (row : EnforcedPortRow) : EnforcedPortView where
  port := row.port
  rule := row.rule
  kind := enforcementKindBridge.asU32 row.kind
  summary := row.summary

def EnforcedPortView.row (view : EnforcedPortView) : EnforcedPortRow where
  port := view.port
  rule := view.rule
  kind := enforcementKindBridge.ofU32 view.kind
  summary := view.summary

structure AnalysedPacketView where
  sourceMac : Bytes := []
  destinationMac : Bytes := []
  sourceIp : Bytes := []
  destinationIp : Bytes := []
  ingress : Bytes := []
  protocol : UInt8 := 0
  destinationPort : UInt16 := 0
  bytes : UInt16 := 0
  classification : UInt32 := 0
  validity : UInt32 := 0

def PacketRow.view (row : PacketRow) : AnalysedPacketView where
  sourceMac := row.sourceMac
  destinationMac := row.destinationMac
  sourceIp := row.sourceIp
  destinationIp := row.destinationIp
  ingress := row.ingress
  protocol := row.protocol
  destinationPort := row.destinationPort
  bytes := row.bytes
  classification := classificationBridge.asU32 row.classification
  validity := validityBridge.asU32 row.validity

def AnalysedPacketView.row (view : AnalysedPacketView) : PacketRow where
  sourceMac := view.sourceMac
  destinationMac := view.destinationMac
  sourceIp := view.sourceIp
  destinationIp := view.destinationIp
  ingress := view.ingress
  protocol := view.protocol
  destinationPort := view.destinationPort
  bytes := view.bytes
  classification := classificationBridge.ofU32 view.classification
  validity := validityBridge.ofU32 view.validity

structure AnomalyView where
  type : UInt32 := 0
  sourceMac : Bytes := []
  sourceIp : Bytes := []
  ingressPort : UInt32 := 0
  observed : Nat := 0
  threshold : Nat := 0

def AnomalyRow.view (row : AnomalyRow) : AnomalyView where
  type := anomalyTypeBridge.asU32 row.type
  sourceMac := row.sourceMac
  sourceIp := row.sourceIp
  ingressPort := row.ingressPort
  observed := row.observed
  threshold := row.threshold

def AnomalyView.row (view : AnomalyView) : AnomalyRow where
  type := anomalyTypeBridge.ofU32 view.type
  sourceMac := view.sourceMac
  sourceIp := view.sourceIp
  ingressPort := view.ingressPort
  observed := view.observed
  threshold := view.threshold

/-! ## The session, as the binding reads it -/

/-- What the getters of the binding answer. Rows without an enumeration are copied field
by field, and the samples are handed over as they lie. -/
structure SessionReading where
  hasTopology : Bool := false
  topologyName : Bytes := []
  nodes : List NodeRow := []
  links : List LinkRow := []
  selectionKind : SelectionKind := .none
  selectedId : Bytes := []
  selectedSummary : Bytes := []
  faults : List FaultRow := []
  policies : List PolicyRow := []
  policyActions : List PolicyActionRow := []
  enforcedPorts : List EnforcedPortRow := []
  trafficRunning : Bool := false
  activeBackend : Bytes := []
  trafficResult : Bytes := []
  metricsHistory : List MetricSample := []
  macTable : List MacTableRow := []
  portStates : List PortStateRow := []
  packets : List PacketRow := []
  anomalies : List AnomalyRow := []
  reportRunning : Bool := false
  reportProgress : Float := 0.0
  reportStage : Bytes := []
  reportExportPath : Bytes := []
  reportRows : List ReportRow := []
  reportProvenance : ReportProvenance := {}

namespace SessionHandle

variable {δ β τ : Type} (handle : SessionHandle δ β τ)

def nodes : List NodeRow :=
  let rows := handle.session.topologyNodes
  collectRows rows.length (rowAt rows NodeRow.view {}) NodeView.row

def selectionKind : SelectionKind :=
  selectionKindBridge.ofU32 (selectionKindBridge.asU32 handle.session.selectionKind)

def faults : List FaultRow :=
  let rows := handle.session.activeFaults
  collectRows rows.length (rowAt rows FaultRow.view {}) FaultView.row

def policies : List PolicyRow :=
  let rows := handle.session.policyRules
  collectRows rows.length (rowAt rows PolicyRow.view {}) PolicyView.row

def policyActions : List PolicyActionRow :=
  let rows := handle.session.policyActions
  collectRows rows.length (rowAt rows PolicyActionRow.view {}) PolicyActionView.row

def enforcedPorts : List EnforcedPortRow :=
  let rows := handle.session.enforcedPorts
  collectRows rows.length (rowAt rows EnforcedPortRow.view {}) EnforcedPortView.row

def packets : List PacketRow :=
  let rows := handle.session.packetRows
  collectRows rows.length (rowAt rows PacketRow.view {}) AnalysedPacketView.row

def anomalies : List AnomalyRow :=
  let rows := handle.session.anomalyRows
  collectRows rows.length (rowAt rows AnomalyRow.view {}) AnomalyView.row

def reading : SessionReading where
  hasTopology := handle.session.hasTopology
  topologyName := handle.session.topologyConfiguration.name
  nodes := handle.nodes
  links := handle.session.topologyLinks
  selectionKind := handle.selectionKind
  selectedId := handle.session.selectedId
  selectedSummary := handle.session.selectedSummary
  faults := handle.faults
  policies := handle.policies
  policyActions := handle.policyActions
  enforcedPorts := handle.enforcedPorts
  trafficRunning := handle.session.trafficRunning
  activeBackend := handle.session.activeBackend
  trafficResult := handle.session.trafficResult
  metricsHistory := handle.session.metricsHistory
  macTable := handle.session.macTable
  portStates := handle.session.portStates
  packets := handle.packets
  anomalies := handle.anomalies
  reportRunning := handle.session.report.running
  reportProgress := handle.session.report.progress
  reportStage := handle.session.report.stage
  reportExportPath := handle.session.report.exportPath
  reportRows := handle.session.report.rows
  reportProvenance := handle.session.report.provenance

end SessionHandle
end WireLab
