import WireLab.Model.Benchmark
import WireLab.Model.ControlClient
import WireLab.Model.TopologyYaml
import WireLab.Model.VSwitch

/-!
# The switch process

`vswitch_main.cpp`, up to the receive loop: the options, and the switch that is set up
from them. With a topology a supervisor is its gate, under the thresholds and policies of a
lab switch.

What the process asks of the machine is `SwitchMachine`. The usage text, the lines on the
standard output, and the signals are left out.
-/

namespace WireLab

open Base

/-! ## The supervision of a lab switch -/

def liveAnomalyConfig : AnomalyDetectorConfig where
  windowDurationNs := 1000000000
  broadcastPacketsThreshold := 100
  unknownUnicastPacketsThreshold := 100
  udpPacketsThreshold := 200
  portScanDestinationsThreshold := 20
  hotTalkerPacketsThreshold := 200
  malformedFramesThreshold := 10

def defaultPolicies : List PolicyRule :=
  [{ name := bytes "quarantine-broadcast-storm", anomalyType := .broadcastStorm
     action := .quarantine },
    { name := bytes "quarantine-unknown-unicast-flood", anomalyType := .unknownUnicastFlood
      action := .quarantine },
    { name := bytes "drop-udp-flood", anomalyType := .udpFlood, action := .drop },
    { name := bytes "mirror-port-scan", anomalyType := .portScan, action := .mirror }]

/-- Add the policies; one that is refused is passed over. -/
def installDefaultPolicies (pipeline : AnalysisPipeline) : AnalysisPipeline :=
  { pipeline with
    policies := defaultPolicies.foldl
      (fun policies rule =>
        match policies.addRule rule with
        | .ok policies => policies
        | .error _ => policies)
      pipeline.policies }

/-- The pipeline of the process, without its policies. -/
def livePipeline : AnalysisPipeline :=
  { detector := { config := liveAnomalyConfig, windowed := by decide } }

/-! ## The options -/

/-- `isspace` of the C locale. -/
def isBlankC (c : UInt8) : Bool := c = 0x20 || 0x09 ≤ c && c ≤ 0x0D

/-- The limits of a `long`. -/
def longMin : Int := -2 ^ 63
def longMax : Int := 2 ^ 63 - 1

/-- `strtol` to the base ten: the number, which stops at the limits of a `long`, and what
follows it. A text without digits is not read at all. -/
def strtol (text : Bytes) : Int × Bytes :=
  let body := text.dropWhile isBlankC
  let (negative, body) :=
    match body with
    | 0x2D :: body => (true, body)
    | 0x2B :: body => (false, body)
    | body => (false, body)
  let digits := body.takeWhile isDigit
  if digits.isEmpty then (0, text)
  else
    let magnitude : Int := digitsFrom 0 digits
    let number := if negative then -magnitude else magnitude
    (max longMin (min longMax number), body.dropWhile isDigit)

/-- A port number: nothing may follow it. -/
def parsePort (text : Bytes) : Option UInt16 :=
  let (number, rest) := strtol text
  if rest ≠ [] ∨ number < 0 ∨ 65535 < number then none else some (UInt16.ofNat number.toNat)

inductive VSwitchLogLevel
  | lifecycle
  | frame
  deriving DecidableEq, Repr

/-- The options; the source has `-1` for no control port. -/
structure SwitchOptions where
  logLevel : VSwitchLogLevel := .lifecycle
  topologyPath : Bytes := []
  controlPort : Option UInt16 := none
  controlAddress : Bytes := bytes "127.0.0.1"
  analyzerBackend : Bytes := bytes "cpu"
  deriving DecidableEq

inductive VSwitchError
  | socketCreationFailed
  | bindFailed
  | alreadyRunning
  | notRunning
  deriving DecidableEq, Repr

def VSwitchError.toString : VSwitchError → Bytes
  | .socketCreationFailed => bytes "Failed to create socket"
  | .bindFailed => bytes "Failed to bind socket"
  | .alreadyRunning => bytes "VSwitch is already running"
  | .notRunning => bytes "VSwitch is not running"

/-- Why the process ends before its loop. -/
inductive SwitchFailure
  | noArguments
  | unknownOption (option : Bytes)
  | invalidControlPort (text : Bytes)
  | controlWithoutTopology
  | addressWithoutControl
  | analyzerWithoutTopology
  | invalidPort (text : Bytes)
  | vswitch (error : VSwitchError)
  | unreadableTopology (path : Bytes) (error : TopologyYamlError)
  | invalidTopology (path : Bytes) (error : TopologyValidationError)
  | unavailableAnalyzer (backend : Bytes) (error : BenchmarkError)
  | unservedControl (port : UInt16) (error : ControlTransportError)
  deriving DecidableEq

/-- The loop over the arguments behind the port. An option whose value is missing is
unknown. -/
def parseOptions (options : SwitchOptions) : List Bytes → Except SwitchFailure SwitchOptions
  | [] => .ok options
  | option :: rest =>
      if option = bytes "--verbose" then parseOptions { options with logLevel := .frame } rest
      else
        match rest with
        | [] => .error (.unknownOption option)
        | value :: rest =>
            if option = bytes "--topology" then
              parseOptions { options with topologyPath := value } rest
            else if option = bytes "--control-port" then
              match parsePort value with
              | none => .error (.invalidControlPort value)
              | some port => parseOptions { options with controlPort := some port } rest
            else if option = bytes "--control-address" then
              parseOptions { options with controlAddress := value } rest
            else if option = bytes "--analyzer" then
              parseOptions { options with analyzerBackend := value } rest
            else .error (.unknownOption option)

/-- What the options need of each other. -/
def checkOptions (options : SwitchOptions) : Except SwitchFailure Unit :=
  if options.controlPort.isSome ∧ options.topologyPath.isEmpty then .error .controlWithoutTopology
  else if options.controlPort.isNone ∧ options.controlAddress ≠ bytes "127.0.0.1" then
    .error .addressWithoutControl
  else if options.analyzerBackend ≠ bytes "cpu" ∧ options.topologyPath.isEmpty then
    .error .analyzerWithoutTopology
  else .ok ()

/-! ## Setting up -/

/-- What the machine gives the process. -/
structure SwitchMachine (α : Type) where
  files : Files
  /-- The socket of the switch, if one can be created, and whether it can be bound. -/
  socket : Option UdpSocket
  binds : UInt16 → Bool
  /-- `accelerated_packet_analyzer`. -/
  analyzer : Bytes → Except BenchmarkError α
  /-- Whether the control server can be created on a port and an address. -/
  listens : UInt16 → Bytes → Except ControlTransportError Unit

section
variable {α : Type}

def VSwitch.create (machine : SwitchMachine α) (port : UInt16) :
    Except VSwitchError (VSwitch (SwitchSupervisor α)) :=
  match machine.socket with
  | none => .error .socketCreationFailed
  | some socket => if machine.binds port then .ok { socket } else .error .bindFailed

/-- The supervisor of a switch with a topology; a control server is attached to it if a
port is given. -/
def superviseSwitch (machine : SwitchMachine α) (options : SwitchOptions) :
    Except SwitchFailure (SwitchSupervisor α) := do
  let configuration ←
    (topologyConfigurationFromYamlFile machine.files options.topologyPath).mapError
      (.unreadableTopology options.topologyPath)
  let topology ←
    (Topology.create configuration).mapError (.invalidTopology options.topologyPath)
  let controller := ({} : TopologyController).load topology
  let pipeline := installDefaultPolicies livePipeline
  let analyzer ←
    (machine.analyzer options.analyzerBackend).mapError
      (.unavailableAnalyzer options.analyzerBackend)
  let supervisor := SwitchSupervisor.create pipeline controller {} analyzer
  match options.controlPort with
  | none => return supervisor
  | some port => do
      (machine.listens port options.controlAddress).mapError (.unservedControl port)
      return { supervisor with controlled := true }

/-- `main`, for the arguments behind the program's name: the options and the switch whose
loop starts. -/
def startSwitch (machine : SwitchMachine α) :
    List Bytes → Except SwitchFailure (SwitchOptions × VSwitch (SwitchSupervisor α))
  | [] => .error .noArguments
  | portText :: arguments => do
      let options ← parseOptions {} arguments
      checkOptions options
      match parsePort portText with
      | none => .error (.invalidPort portText)
      | some port =>
          let vswitch ← (VSwitch.create machine port).mapError .vswitch
          if options.topologyPath.isEmpty then return (options, vswitch)
          else
            let supervisor ← superviseSwitch machine options
            return (options, { vswitch with gate := some supervisor })

end
end WireLab
