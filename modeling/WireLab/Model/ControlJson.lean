import WireLab.Model.ControlProtocol

/-!
# Reading control requests and replies

The scanner and the two parsers of `control_protocol.cpp`. A scanning
function takes the bytes that are left and returns what it read and what is
left after it, or the error the parser reports. The loops over the members
of an object take fuel: each member consumes at least one byte, so the length
of the text is enough of it.
-/

namespace WireLab

open Base

namespace JsonScanner

def isWhitespace (c : UInt8) : Bool := c = 0x20 || c = 0x0A || c = 0x0D || c = 0x09

def skipWhitespace (input : Bytes) : Bytes := input.dropWhile isWhitespace

/-- One expected character, after whitespace. -/
def consume (expected : UInt8) (input : Bytes) : Except ControlParseError Bytes :=
  match skipWhitespace input with
  | [] => .error .malformedJson
  | c :: rest => if c = expected then .ok rest else .error .malformedJson

def hexDigit (c : UInt8) : Option Nat :=
  if 0x30 ≤ c ∧ c ≤ 0x39 then some (c.toNat - 0x30)
  else if 0x61 ≤ c ∧ c ≤ 0x66 then some (c.toNat - 0x61 + 10)
  else if 0x41 ≤ c ∧ c ≤ 0x46 then some (c.toNat - 0x41 + 10)
  else none

/-- Four hexadecimal digits. -/
def readHex (a b c d : UInt8) : Option Nat := do
  let a ← hexDigit a
  let b ← hexDigit b
  let c ← hexDigit c
  let d ← hexDigit d
  return ((a * 16 + b) * 16 + c) * 16 + d

/-- A code point in UTF-8. -/
def utf8 (codePoint : Nat) : Bytes :=
  if codePoint ≤ 0x7F then [codePoint.toUInt8]
  else if codePoint ≤ 0x7FF then
    [(0xC0 + codePoint / 64).toUInt8, (0x80 + codePoint % 64).toUInt8]
  else if codePoint ≤ 0xFFFF then
    [(0xE0 + codePoint / 4096).toUInt8, (0x80 + codePoint / 64 % 64).toUInt8,
      (0x80 + codePoint % 64).toUInt8]
  else
    [(0xF0 + codePoint / 262144).toUInt8, (0x80 + codePoint / 4096 % 64).toUInt8,
      (0x80 + codePoint / 64 % 64).toUInt8, (0x80 + codePoint % 64).toUInt8]

/-- The escapes of one character. -/
def simpleEscape (c : UInt8) : Option UInt8 :=
  if c = 0x22 ∨ c = 0x5C ∨ c = 0x2F then some c
  else if c = 0x62 then some 0x08
  else if c = 0x66 then some 0x0C
  else if c = 0x6E then some 0x0A
  else if c = 0x72 then some 0x0D
  else if c = 0x74 then some 0x09
  else none

/-- Put what was just decoded in front of the rest of the string. -/
def prepend (decoded : Bytes) :
    Except ControlParseError (Bytes × Bytes) → Except ControlParseError (Bytes × Bytes)
  | .ok (output, rest) => .ok (decoded ++ output, rest)
  | .error e => .error e

/-- The characters of a string, after its opening quote. -/
def readCharacters : Bytes → Except ControlParseError (Bytes × Bytes)
  | [] => .error .malformedJson
  | character :: rest =>
      if character = 0x22 then .ok ([], rest)
      else if character < 0x20 then .error .malformedJson
      else if character ≠ 0x5C then prepend [character] (readCharacters rest)
      else
        match rest with
        | [] => .error .malformedJson
        | escape :: rest =>
            match simpleEscape escape with
            | some decoded => prepend [decoded] (readCharacters rest)
            | none =>
                if escape ≠ 0x75 then .error .malformedJson
                else
                  match rest with
                  | a :: b :: c :: d :: rest =>
                      match readHex a b c d with
                      | none => .error .malformedJson
                      | some codePoint =>
                          if 0xD800 ≤ codePoint ∧ codePoint ≤ 0xDBFF then
                            -- A high surrogate needs its low half in a second escape.
                            match rest with
                            | backslash :: u :: a :: b :: c :: d :: rest =>
                                if backslash ≠ 0x5C ∨ u ≠ 0x75 then .error .malformedJson
                                else
                                  match readHex a b c d with
                                  | none => .error .malformedJson
                                  | some low =>
                                      if low < 0xDC00 ∨ 0xDFFF < low then .error .malformedJson
                                      else
                                        prepend (utf8 (0x10000 + (codePoint - 0xD800) * 1024 +
                                          (low - 0xDC00))) (readCharacters rest)
                            | _ => .error .malformedJson
                          else if 0xDC00 ≤ codePoint ∧ codePoint ≤ 0xDFFF then
                            .error .malformedJson
                          else prepend (utf8 codePoint) (readCharacters rest)
                  | _ => .error .malformedJson

def readString (input : Bytes) : Except ControlParseError (Bytes × Bytes) := do
  let rest ← consume 0x22 input
  readCharacters rest

/-- The digits of a numeral, refused where the value would pass `maximum`. -/
def readDigits (maximum : Nat) : Bytes → Nat → Except ControlParseError (Nat × Bytes)
  | [], value => .ok (value, [])
  | c :: rest, value =>
      if isDigit c then
        let digit := c.toNat - 0x30
        if value > (maximum - digit) / 10 then .error .invalidField
        else readDigits maximum rest (value * 10 + digit)
      else .ok (value, c :: rest)

/-- An unsigned integer of the field's width. -/
def readUInt (maximum : Nat) (input : Bytes) : Except ControlParseError (Nat × Bytes) :=
  match skipWhitespace input with
  | [] => .error .invalidField
  | c :: rest => if isDigit c then readDigits maximum (c :: rest) 0 else .error .invalidField

def readUInt32 (input : Bytes) : Except ControlParseError (UInt32 × Bytes) := do
  let (value, rest) ← readUInt (2 ^ 32 - 1) input
  .ok (UInt32.ofNat value, rest)

def readUInt64 (input : Bytes) : Except ControlParseError (UInt64 × Bytes) := do
  let (value, rest) ← readUInt (2 ^ 64 - 1) input
  .ok (UInt64.ofNat value, rest)

def readBool (input : Bytes) : Except ControlParseError (Bool × Bytes) :=
  let input := skipWhitespace input
  if input.take 4 = bytes "true" then .ok (true, input.drop 4)
  else if input.take 5 = bytes "false" then .ok (false, input.drop 5)
  else .error .invalidField

end JsonScanner

open JsonScanner

namespace ControlRequestParser

/-! ## Values -/

def commandNames : List (Bytes × ControlCommand) :=
  [(bytes "load_topology", .loadTopology), (bytes "get_switch_state", .getSwitchState),
    (bytes "get_active_faults", .getActiveFaults),
    (bytes "get_supervision_state", .getSupervisionState),
    (bytes "start_benchmark", .startBenchmark), (bytes "stop_run", .stopRun),
    (bytes "set_port_fault", .setPortFault), (bytes "clear_port_fault", .clearPortFault),
    (bytes "set_link_fault", .setLinkFault), (bytes "clear_link_fault", .clearLinkFault)]

def readCommand (input : Bytes) : Except ControlParseError (ControlCommand × Bytes) := do
  let (value, rest) ← readString input
  match commandNames.lookup value with
  | some command => .ok (command, rest)
  | none => .error .invalidField

def readBackend (input : Bytes) : Except ControlParseError (AnalyzerBackend × Bytes) := do
  let (value, rest) ← readString input
  if value = bytes "cpu" then .ok (.cpu, rest)
  else if value = bytes "cuda" then .ok (.cuda, rest)
  else .error .invalidField

/-- Milliseconds that fit a signed 64-bit count, as nanoseconds; the
conversion wraps. -/
def readMilliseconds (input : Bytes) : Except ControlParseError (Int × Bytes) :=
  match readUInt (2 ^ 64 - 1) input with
  | .error _ => .error .invalidField
  | .ok (milliseconds, rest) =>
      if milliseconds > 2 ^ 63 - 1 then .error .invalidField
      else .ok (Int.bmod ((milliseconds : Int) * 1000000) (2 ^ 64), rest)

/-! ## Parameters -/

/-- Which parameters have been read. -/
structure ParameterFields where
  topologyPath : Bool := false
  scenario : Bool := false
  backend : Bool := false
  generator : Bool := false
  batchSize : Bool := false
  durationSeconds : Bool := false
  seed : Bool := false
  packetCount : Bool := false
  frameSize : Bool := false
  portId : Bool := false
  firstEndpoint : Bool := false
  secondEndpoint : Bool := false
  latency : Bool := false
  jitter : Bool := false
  loss : Bool := false
  duplication : Bool := false
  bandwidth : Bool := false
  blackhole : Bool := false
  isolated : Bool := false
  deriving DecidableEq, Repr

/-- The request so far and the parameters it has. -/
structure ParameterState where
  request : ControlRequest := {}
  fields : ParameterFields := {}

/-- Store a scanned benchmark parameter. -/
def ParameterState.benchmark {α : Type} (state : ParameterState) (fields : ParameterFields)
    (scanned : Except ControlParseError (α × Bytes))
    (store : BenchmarkParameters → α → BenchmarkParameters) :
    Except ControlParseError (ParameterState × Bytes) := do
  let (value, rest) ← scanned
  .ok ({ request := { state.request with benchmark := store state.request.benchmark value },
         fields }, rest)

/-- Store a scanned fault parameter. -/
def ParameterState.fault {α : Type} (state : ParameterState) (fields : ParameterFields)
    (scanned : Except ControlParseError (α × Bytes))
    (store : FaultParameters → α → FaultParameters) :
    Except ControlParseError (ParameterState × Bytes) := do
  let (value, rest) ← scanned
  .ok ({ request := { state.request with fault := store state.request.fault value }, fields }, rest)

/-- Store a scanned part of the fault configuration. -/
def ParameterState.configuration {α : Type} (state : ParameterState) (fields : ParameterFields)
    (scanned : Except ControlParseError (α × Bytes))
    (store : FaultConfiguration → α → FaultConfiguration) :
    Except ControlParseError (ParameterState × Bytes) :=
  state.fault fields scanned fun fault value =>
    { fault with configuration := store fault.configuration value }

/-- The value of one parameter; a parameter may be given once. -/
def readParameter (state : ParameterState) (key input : Bytes) :
    Except ControlParseError (ParameterState × Bytes) :=
  let fields := state.fields
  if key = bytes "topology_path" ∧ !fields.topologyPath then do
    let (path, rest) ← readString input
    .ok ({ request := { state.request with topology := { path } },
           fields := { fields with topologyPath := true } }, rest)
  else if key = bytes "scenario" ∧ !fields.scenario then
    state.benchmark { fields with scenario := true } (readString input)
      fun benchmark scenario => { benchmark with scenario }
  else if key = bytes "backend" ∧ !fields.backend then
    state.benchmark { fields with backend := true } (readBackend input)
      fun benchmark backend => { benchmark with backend }
  else if key = bytes "generator" ∧ !fields.generator then
    state.benchmark { fields with generator := true } (readString input)
      fun benchmark generator => { benchmark with generator }
  else if key = bytes "batch_size" ∧ !fields.batchSize then
    state.benchmark { fields with batchSize := true } (readUInt32 input)
      fun benchmark batchSize => { benchmark with batchSize }
  else if key = bytes "duration_seconds" ∧ !fields.durationSeconds then
    state.benchmark { fields with durationSeconds := true } (readUInt32 input)
      fun benchmark durationSeconds => { benchmark with durationSeconds }
  else if key = bytes "seed" ∧ !fields.seed then
    state.benchmark { fields with seed := true } (readUInt64 input)
      fun benchmark seed => { benchmark with seed }
  else if key = bytes "packets" ∧ !fields.packetCount then
    state.benchmark { fields with packetCount := true } (readUInt64 input)
      fun benchmark packetCount => { benchmark with packetCount }
  else if key = bytes "frame_size" ∧ !fields.frameSize then
    state.benchmark { fields with frameSize := true } (readUInt32 input)
      fun benchmark frameSize => { benchmark with frameSize }
  else if key = bytes "port_id" ∧ !fields.portId then
    state.fault { fields with portId := true } (readString input)
      fun fault portId => { fault with portId }
  else if key = bytes "first_endpoint" ∧ !fields.firstEndpoint then
    state.fault { fields with firstEndpoint := true } (readString input)
      fun fault firstEndpoint => { fault with firstEndpoint }
  else if key = bytes "second_endpoint" ∧ !fields.secondEndpoint then
    state.fault { fields with secondEndpoint := true } (readString input)
      fun fault secondEndpoint => { fault with secondEndpoint }
  else if key = bytes "latency_ms" ∧ !fields.latency then
    state.configuration { fields with latency := true } (readMilliseconds input)
      fun configuration latency => { configuration with latency }
  else if key = bytes "jitter_ms" ∧ !fields.jitter then
    state.configuration { fields with jitter := true } (readMilliseconds input)
      fun configuration jitter => { configuration with jitter }
  else if key = bytes "loss_basis_points" ∧ !fields.loss then
    state.configuration { fields with loss := true } (readUInt32 input)
      fun configuration lossBasisPoints => { configuration with lossBasisPoints }
  else if key = bytes "duplication_basis_points" ∧ !fields.duplication then
    state.configuration { fields with duplication := true } (readUInt32 input)
      fun configuration duplicationBasisPoints => { configuration with duplicationBasisPoints }
  else if key = bytes "bandwidth_bits_per_second" ∧ !fields.bandwidth then
    state.configuration { fields with bandwidth := true } (readUInt64 input)
      fun configuration bandwidthBitsPerSecond => { configuration with bandwidthBitsPerSecond }
  else if key = bytes "blackhole" ∧ !fields.blackhole then
    state.configuration { fields with blackhole := true } (readBool input)
      fun configuration blackhole => { configuration with blackhole }
  else if key = bytes "isolated" ∧ !fields.isolated then
    state.configuration { fields with isolated := true } (readBool input)
      fun configuration isolated => { configuration with isolated }
  else .error .invalidField

/-- The members of the parameter object, after its brace. -/
def readParameterMembers :
    Nat → ParameterState → Bytes → Except ControlParseError (ParameterState × Bytes)
  | 0, _, _ => .error .malformedJson
  | fuel + 1, state, input => do
      let (key, rest) ← readString input
      let rest ← consume 0x3A rest
      let (state, rest) ← readParameter state key rest
      match consume 0x7D rest with
      | .ok rest => .ok (state, rest)
      | .error _ =>
          let rest ← consume 0x2C rest
          readParameterMembers fuel state rest

def readParameters (state : ParameterState) (input : Bytes) :
    Except ControlParseError (ParameterState × Bytes) := do
  let rest ← consume 0x7B input
  match consume 0x7D rest with
  | .ok rest => .ok (state, rest)
  | .error _ => readParameterMembers rest.length state rest

namespace ParameterFields

/-- Every required benchmark parameter. -/
def benchmark (fields : ParameterFields) : Bool :=
  fields.scenario && fields.backend && fields.batchSize && fields.durationSeconds && fields.seed

/-- Every part of a fault configuration. -/
def fault (fields : ParameterFields) : Bool :=
  fields.latency && fields.jitter && fields.loss && fields.duplication && fields.bandwidth &&
    fields.blackhole && fields.isolated

/-- Any benchmark parameter. -/
def hasBenchmark (fields : ParameterFields) : Bool :=
  fields.scenario || fields.backend || fields.generator || fields.batchSize ||
    fields.durationSeconds || fields.seed || fields.packetCount || fields.frameSize

/-- Any part of a fault configuration. -/
def hasFault (fields : ParameterFields) : Bool :=
  fields.latency || fields.jitter || fields.loss || fields.duplication || fields.bandwidth ||
    fields.blackhole || fields.isolated

/-- The parameters a command takes, all of them and no others. -/
def validFor (fields : ParameterFields) : ControlCommand → Bool
  | .loadTopology =>
      fields.topologyPath && !fields.hasBenchmark && !fields.portId && !fields.firstEndpoint &&
        !fields.secondEndpoint && !fields.hasFault
  | .startBenchmark =>
      fields.benchmark && !fields.topologyPath && !fields.portId && !fields.firstEndpoint &&
        !fields.secondEndpoint && !fields.hasFault
  | .setPortFault =>
      fields.portId && !fields.topologyPath && fields.fault && !fields.firstEndpoint &&
        !fields.secondEndpoint && !fields.hasBenchmark
  | .clearPortFault =>
      fields.portId && !fields.topologyPath && !fields.firstEndpoint && !fields.secondEndpoint &&
        !fields.hasBenchmark && !fields.hasFault
  | .setLinkFault =>
      fields.firstEndpoint && fields.secondEndpoint && !fields.topologyPath && fields.fault &&
        !fields.portId && !fields.hasBenchmark
  | .clearLinkFault =>
      fields.firstEndpoint && fields.secondEndpoint && !fields.topologyPath && !fields.portId &&
        !fields.hasBenchmark && !fields.hasFault
  | .getSwitchState | .getActiveFaults | .getSupervisionState | .stopRun => false

/-- Whether what is wrong with a command's parameters is a missing one. -/
def missingRequiredFor (fields : ParameterFields) : ControlCommand → Bool
  | .loadTopology =>
      !fields.hasBenchmark && !fields.hasFault && !fields.portId && !fields.firstEndpoint &&
        !fields.secondEndpoint
  | .startBenchmark =>
      !fields.topologyPath && !fields.portId && !fields.firstEndpoint &&
        !fields.secondEndpoint && !fields.hasFault
  | .setPortFault =>
      fields.portId && !fields.topologyPath && !fields.firstEndpoint &&
        !fields.secondEndpoint && !fields.hasBenchmark
  | .clearPortFault =>
      !fields.topologyPath && !fields.hasBenchmark && !fields.hasFault && !fields.firstEndpoint &&
        !fields.secondEndpoint
  | .setLinkFault => !fields.topologyPath && !fields.portId && !fields.hasBenchmark
  | .clearLinkFault =>
      !fields.topologyPath && !fields.portId && !fields.hasBenchmark && !fields.hasFault
  | .getSwitchState | .getActiveFaults | .getSupervisionState | .stopRun => false

end ParameterFields

/-! ## Requests -/

/-- The request so far and the members it has. -/
structure RequestState where
  parameters : ParameterState := {}
  hasApiVersion : Bool := false
  hasRequestId : Bool := false
  hasCommand : Bool := false
  hasTopologyRevision : Bool := false
  hasParameters : Bool := false

/-- Replace the request being read. -/
def RequestState.withRequest (state : RequestState) (request : ControlRequest) : RequestState :=
  { state with parameters := { state.parameters with request } }

/-- The value of one member; a member may be given once. -/
def readMember (state : RequestState) (key input : Bytes) :
    Except ControlParseError (RequestState × Bytes) :=
  let request := state.parameters.request
  if key = bytes "api_version" ∧ !state.hasApiVersion then do
    let (apiVersion, rest) ← readUInt32 input
    .ok ({ state.withRequest { request with apiVersion } with hasApiVersion := true }, rest)
  else if key = bytes "request_id" ∧ !state.hasRequestId then do
    let (requestId, rest) ← readString input
    .ok ({ state.withRequest { request with requestId } with hasRequestId := true }, rest)
  else if key = bytes "command" ∧ !state.hasCommand then do
    let (command, rest) ← readCommand input
    .ok ({ state.withRequest { request with command } with hasCommand := true }, rest)
  else if key = bytes "topology_revision" ∧ !state.hasTopologyRevision then do
    let (topologyRevision, rest) ← readUInt64 input
    .ok ({ state.withRequest { request with topologyRevision } with
      hasTopologyRevision := true }, rest)
  else if key = bytes "parameters" ∧ !state.hasParameters then do
    let (parameters, rest) ← readParameters state.parameters input
    .ok ({ state with parameters, hasParameters := true }, rest)
  else .error .invalidField

/-- The members of the request object, after its brace. -/
def readMembers :
    Nat → RequestState → Bytes → Except ControlParseError (RequestState × Bytes)
  | 0, _, _ => .error .malformedJson
  | fuel + 1, state, input => do
      let (key, rest) ← readString input
      let rest ← consume 0x3A rest
      let (state, rest) ← readMember state key rest
      match consume 0x7D rest with
      | .ok rest => .ok (state, rest)
      | .error _ =>
          let rest ← consume 0x2C rest
          readMembers fuel state rest

/-- Commands that cannot do without parameters. -/
def requiresParameters : ControlCommand → Bool
  | .loadTopology | .startBenchmark | .setPortFault | .clearPortFault | .setLinkFault
  | .clearLinkFault => true
  | .getSwitchState | .getActiveFaults | .getSupervisionState | .stopRun => false

/-- What a complete object must have had. -/
def finish (state : RequestState) : Except ControlParseError ControlRequest :=
  let request := state.parameters.request
  let fields := state.parameters.fields
  if !state.hasApiVersion || !state.hasRequestId || !state.hasCommand ||
      !state.hasTopologyRevision then .error .missingRequiredField
  else if !state.hasParameters && requiresParameters request.command then
    .error .missingRequiredField
  else if state.hasParameters && !fields.validFor request.command then
    if fields.missingRequiredFor request.command then .error .missingRequiredField
    else .error .invalidField
  else .ok request

def parse (input : Bytes) : Except ControlParseError ControlRequest := do
  let rest ← consume 0x7B input
  match consume 0x7D rest with
  | .ok _ => .error .missingRequiredField
  | .error _ =>
      let (state, rest) ← readMembers rest.length {} rest
      if skipWhitespace rest ≠ [] then .error .malformedJson
      else finish state

end ControlRequestParser

namespace ControlReplyParser

/-- The reply so far and the members it has. -/
structure ReplyState where
  reply : ControlReply := {}
  hasApiVersion : Bool := false
  hasRequestId : Bool := false
  hasAccepted : Bool := false
  hasTopologyRevision : Bool := false
  hasOperationId : Bool := false
  hasError : Bool := false

/-- The value of one member; a member may be given once. -/
def readMember (state : ReplyState) (key input : Bytes) :
    Except ControlParseError (ReplyState × Bytes) :=
  let reply := state.reply
  if key = bytes "api_version" ∧ !state.hasApiVersion then do
    let (apiVersion, rest) ← readUInt32 input
    .ok ({ state with reply := { reply with apiVersion }, hasApiVersion := true }, rest)
  else if key = bytes "request_id" ∧ !state.hasRequestId then do
    let (requestId, rest) ← readString input
    .ok ({ state with reply := { reply with requestId }, hasRequestId := true }, rest)
  else if key = bytes "accepted" ∧ !state.hasAccepted then do
    let (accepted, rest) ← readBool input
    .ok ({ state with reply := { reply with accepted }, hasAccepted := true }, rest)
  else if key = bytes "topology_revision" ∧ !state.hasTopologyRevision then do
    let (topologyRevision, rest) ← readUInt64 input
    .ok ({ state with reply := { reply with topologyRevision }, hasTopologyRevision := true }, rest)
  else if key = bytes "operation_id" ∧ !state.hasOperationId then do
    let (operationId, rest) ← readString input
    .ok ({ state with reply := { reply with operationId }, hasOperationId := true }, rest)
  else if key = bytes "error" ∧ !state.hasError then do
    let (error, rest) ← readString input
    .ok ({ state with reply := { reply with error }, hasError := true }, rest)
  else .error .invalidField

/-- The members of the reply object, after its brace. -/
def readMembers : Nat → ReplyState → Bytes → Except ControlParseError (ReplyState × Bytes)
  | 0, _, _ => .error .malformedJson
  | fuel + 1, state, input => do
      let (key, rest) ← readString input
      let rest ← consume 0x3A rest
      let (state, rest) ← readMember state key rest
      match consume 0x7D rest with
      | .ok rest => .ok (state, rest)
      | .error _ =>
          let rest ← consume 0x2C rest
          readMembers fuel state rest

def parse (input : Bytes) : Except ControlParseError ControlReply := do
  let rest ← consume 0x7B input
  match consume 0x7D rest with
  | .ok _ => .error .missingRequiredField
  | .error _ =>
      let (state, rest) ← readMembers rest.length {} rest
      if skipWhitespace rest ≠ [] then .error .malformedJson
      else if !state.hasApiVersion || !state.hasRequestId || !state.hasAccepted ||
          !state.hasTopologyRevision then .error .missingRequiredField
      else .ok state.reply

end ControlReplyParser

def controlReplyFromJson (json : Bytes) : Except ControlParseError ControlReply :=
  ControlReplyParser.parse json

def controlRequestFromJson (json : Bytes) : Except ControlParseError ControlRequest :=
  ControlRequestParser.parse json

end WireLab
