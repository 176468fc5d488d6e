import WireLab.Logic.Dispatch
import WireLab.Logic.Enforcement
import WireLab.Model.ControlJsonWriter
import WireLab.Base.TSys

/-!
# The lab

The service, the enforcer and the controller they share, as one system: requests
are dispatched and enforcement calls are made in any order (`lab`). The second
half is the concrete lab that runs are shown on: `labTopology` as a file, and the
texts of a client's requests.
-/

namespace WireLab

open Base

/-- A service, and the enforcer and controller it shares a process with. -/
structure Lab (β τ : Type) where
  service : ControlService β τ
  dataplane : PolicyEnforcer × TopologyController := ({}, {})

inductive LabCall
  | dispatch (env : Environment) (json : Bytes)
  | enforce (call : EnforcementCall)

/-- Requests and enforcement calls in any order, from a lab without faults and
without leases. -/
def lab (β τ : Type) : TSys (Lab β τ) LabCall where
  init l := l.dataplane.1.leases = ∅ ∧ ∀ p, l.dataplane.2.portFault p = none
  step l
    | .dispatch env json =>
        (l.service.dispatch l.dataplane.2 env json).map fun d =>
          { service := d.2.1, dataplane := (l.dataplane.1, d.2.2) }
    | .enforce call => some { l with dataplane := call.run l.dataplane }

/-! ## A concrete lab -/

/-- `labTopology` as its author wrote it. -/
def labYaml : Bytes :=
  bytes ("network:\n  name: lab\n" ++
    "nodes:\n  -\n    id: sw\n    type: switch\n  -\n    id: h1\n    type: host\n" ++
    "  -\n    id: h2\n    type: host\n" ++
    "links:\n  -\n    from: h1\n    to: sw\n  -\n    from: h2\n    to: sw\n")

/-- One file, and memory for `reserve` up to the largest vector of 64-bit
values. -/
def labEnv : Environment where
  files path := if path = bytes "lab.yaml" then some labYaml else none
  allocates count := count ≤ 2 ^ 60 - 1

/-- Devices that count nothing. -/
def labDevices : CpuDevices Unit Unit where
  analyzer := { analyzer := some (), analyze := fun _ _ => ({}, ()) }
  source _ := { source := (), fill := fun _ _ count => (List.replicate count.toNat [], ()) }
  present := rfl

def labService : ControlService Unit Unit := { cpu := labDevices }

/-- A client's request. -/
def labRequest (revision : Nat) (command : String) (parameters : List (String × Bytes)) : Bytes :=
  jsonObject
    ([("api_version", decimal 1), ("request_id", jsonString (bytes "r1")),
      ("command", jsonString (bytes command)), ("topology_revision", decimal revision)] ++
      if parameters.isEmpty then [] else [("parameters", jsonObject parameters)])

def loadLab (revision : Nat) : Bytes :=
  labRequest revision "load_topology" [("topology_path", jsonString (bytes "lab.yaml"))]

/-- Slow a port of the lab down by some milliseconds. -/
def slowPort (revision : Nat) (portId : String) (milliseconds : Nat) : Bytes :=
  labRequest revision "set_port_fault"
    [("port_id", jsonString (bytes portId)), ("latency_ms", decimal milliseconds),
      ("jitter_ms", decimal 0), ("loss_basis_points", decimal 0),
      ("duplication_basis_points", decimal 0), ("bandwidth_bits_per_second", decimal 0),
      ("blackhole", jsonBool false), ("isolated", jsonBool false)]

/-- A benchmark of the lab's switch. -/
def benchmarkLab (packets : Nat) : Bytes :=
  labRequest 0 "start_benchmark"
    [("scenario", jsonString (bytes "mixed-traffic")), ("backend", jsonString (bytes "cpu")),
      ("batch_size", decimal 1), ("duration_seconds", decimal 1), ("seed", decimal 1),
      ("packets", decimal packets)]

/-- The lab with its topology loaded and nothing configured. -/
def loadedLab : Lab Unit Unit where
  service := labService
  dataplane := ({}, ({} : TopologyController).load labTopology)

/-- A drop decided against the first port. -/
def dropFirstPort : PolicyDecision :=
  { ruleName := bytes "contain", action := .drop, anomaly := { ingressPort := 0 } }

/-- One rule: who storms is dropped. -/
def containStorms : PolicyEngine where
  rules := [{ name := bytes "contain", anomalyType := .broadcastStorm, action := .drop }]
  wellFormed := ⟨by decide, by decide⟩

theorem loadedLab_init : (lab Unit Unit).init loadedLab :=
  ⟨rfl, fun p => TopologyController.faultAt_load labTopology (.port p)⟩

/-- The lab's file describes its topology. -/
example : (ControlService.topologyFromFile labEnv.files (bytes "lab.yaml")).toOption.map
    Topology.configuration = some labTopology.configuration := by
  decide +kernel

end WireLab
