import WireLab.Model.EthernetFrame
import WireLab.Model.SwitchSupervisor

/-!
# The switch

`vswitch.cpp`, with `mac_table.cpp` and `switch_metrics.cpp`: a frame that the gate
lets pass teaches the table its source, and its copies leave at once or wait until
they are due.

The clock is read by the caller. The socket is outside; it keeps what it was
handed, and `results` says which sends succeed. A frame gate is an interface of
the source, its object is of any type `γ`. The hash map of the table has no order
of its own: a broadcast visits the entries in the order they are kept here. The
log is left out.
-/

namespace WireLab

open Base

/-! ## The table -/

/-- The endpoint behind each learned address. -/
structure MacTable where
  table : Dict MacAddress Endpoint := ∅

namespace MacTable

/-- Learn an address, or move it; the flag says whether it is new. -/
def insert (macTable : MacTable) (mac : MacAddress) (endpoint : Endpoint) : Bool × MacTable :=
  ((macTable.table.lookup mac).isNone, { table := macTable.table.insert mac endpoint })

def lookup (macTable : MacTable) (mac : MacAddress) : Option Endpoint :=
  macTable.table.lookup mac

/-- One endpoint for every learned address. -/
def getAllEndpoints (macTable : MacTable) : List Endpoint :=
  macTable.table.entries.map fun entry => entry.2

/-- One endpoint for every learned address but `excludeMac`. -/
def getAllEndpointsExcept (macTable : MacTable) (excludeMac : MacAddress) : List Endpoint :=
  macTable.table.entries.filterMap fun entry =>
    if entry.1 ≠ excludeMac then some entry.2 else none

end MacTable

/-! ## The counters -/

structure SwitchMetrics where
  receivedPackets : UInt64 := 0
  receivedBytes : UInt64 := 0
  forwardedPackets : UInt64 := 0
  forwardedBytes : UInt64 := 0
  broadcastPackets : UInt64 := 0
  unknownUnicastPackets : UInt64 := 0
  droppedPackets : UInt64 := 0
  malformedPackets : UInt64 := 0
  learnedMacs : UInt64 := 0
  deriving DecidableEq, Repr

namespace SwitchMetrics

def recordReceived (metrics : SwitchMetrics) (bytes : UInt64) : SwitchMetrics :=
  { metrics with
    receivedPackets := metrics.receivedPackets + 1
    receivedBytes := metrics.receivedBytes + bytes }

def recordForwarded (metrics : SwitchMetrics) (bytes : UInt64) : SwitchMetrics :=
  { metrics with
    forwardedPackets := metrics.forwardedPackets + 1
    forwardedBytes := metrics.forwardedBytes + bytes }

def recordBroadcast (metrics : SwitchMetrics) : SwitchMetrics :=
  { metrics with broadcastPackets := metrics.broadcastPackets + 1 }

def recordUnknownUnicast (metrics : SwitchMetrics) : SwitchMetrics :=
  { metrics with unknownUnicastPackets := metrics.unknownUnicastPackets + 1 }

def recordDrop (metrics : SwitchMetrics) : SwitchMetrics :=
  { metrics with droppedPackets := metrics.droppedPackets + 1 }

def recordMalformed (metrics : SwitchMetrics) : SwitchMetrics :=
  { metrics with malformedPackets := metrics.malformedPackets + 1 }

def recordMacLearned (metrics : SwitchMetrics) : SwitchMetrics :=
  { metrics with learnedMacs := metrics.learnedMacs + 1 }

end SwitchMetrics

/-! ## What is outside -/

/-- The socket: what it was handed so far, and whether its `n`-th send
succeeds. -/
structure UdpSocket where
  results : Nat → Bool
  sent : List (Bytes × Endpoint) := []

/-- Hand a datagram to the socket. -/
def UdpSocket.sendTo (socket : UdpSocket) (data : Bytes) (endpoint : Endpoint) :
    Bool × UdpSocket :=
  (socket.results socket.sent.length, { socket with sent := socket.sent ++ [(data, endpoint)] })

/-- The number of delivery times a decision has room for. -/
def deliveryTimesSize : Nat := 2

/-- The switch's hook into the analysis and fault planes. A decision is never
for more copies than it has delivery times. The interval is in milliseconds. -/
structure FrameGate (γ : Type) where
  inspect : γ → Bytes → Endpoint → Int → FaultDecision × γ
  tick : γ → Int → γ
  tickInterval : γ → Int
  bounded : ∀ gate frameData sender arrival,
    (inspect gate frameData sender arrival).1.deliveryCount ≤ deliveryTimesSize

/-- When a copy is due; a time that was not set is the clock's epoch. -/
def FaultDecision.deliveryTime (decision : FaultDecision) (copy : Nat) : Int :=
  (decision.deliveryTimes[copy]?).getD 0

/-! ## The switch -/

/-- A copy that a fault deferred. -/
structure ScheduledDelivery where
  due : Int
  frameData : Bytes
  destination : Endpoint
  deriving DecidableEq

structure VSwitch (γ : Type) where
  socket : UdpSocket
  macTable : MacTable := {}
  metrics : SwitchMetrics := {}
  gate : Option γ := none
  pending : List ScheduledDelivery := []

namespace VSwitch

variable {γ : Type}

/-- Send a copy, and count it as forwarded or dropped. -/
def deliver (vswitch : VSwitch γ) (frameData : Bytes) (destination : Endpoint) : VSwitch γ :=
  let (delivered, socket) := vswitch.socket.sendTo frameData destination
  let metrics :=
    if delivered then vswitch.metrics.recordForwarded (UInt64.ofNat frameData.length)
    else vswitch.metrics.recordDrop
  { vswitch with socket, metrics }

/-- Deliver the copies of a frame that are due, and defer the others. -/
def schedule (vswitch : VSwitch γ) (frameData : Bytes) (destination : Endpoint)
    (decision : FaultDecision) (now : Int) : VSwitch γ :=
  let copies := min decision.deliveryCount deliveryTimesSize
  (List.range copies).foldl
    (fun vswitch copy =>
      let due := decision.deliveryTime copy
      if due ≤ now then vswitch.deliver frameData destination
      else { vswitch with pending := vswitch.pending ++ [{ due, frameData, destination }] })
    vswitch

/-- Ask the gate about a frame; without a gate every frame is delivered at
once. -/
def inspect (plane : FrameGate γ) (vswitch : VSwitch γ) (frameData : Bytes) (sender : Endpoint)
    (now : Int) : FaultDecision × VSwitch γ :=
  match vswitch.gate with
  | none => ({ deliveryCount := 1, deliveryTimes := [now] }, vswitch)
  | some gate =>
      let (decision, gate) := plane.inspect gate frameData sender now
      (decision, { vswitch with gate := some gate })

/-- Learn the source of a frame. -/
def learn (vswitch : VSwitch γ) (mac : MacAddress) (sender : Endpoint) : VSwitch γ :=
  let (isNew, macTable) := vswitch.macTable.insert mac sender
  let metrics := if isNew then vswitch.metrics.recordMacLearned else vswitch.metrics
  { vswitch with macTable, metrics }

/-- Receive a frame: read it, ask the gate, learn its source, and forward it. The
gate comes before learning, so that a blocked port teaches the table nothing. -/
def processFrame (plane : FrameGate γ) (vswitch : VSwitch γ) (frameData : Bytes)
    (sender : Endpoint) (now : Int) : VSwitch γ :=
  let vswitch :=
    { vswitch with
      metrics := vswitch.metrics.recordReceived (UInt64.ofNat frameData.length) }
  match EthernetFrame.tryParse frameData with
  | .error _ => { vswitch with metrics := vswitch.metrics.recordMalformed.recordDrop }
  | .ok frame =>
      let (decision, vswitch) := vswitch.inspect plane frameData sender now
      if decision.dropped || decision.deliveryCount = 0 then
        { vswitch with metrics := vswitch.metrics.recordDrop }
      else
        let vswitch := vswitch.learn frame.srcMac sender
        match vswitch.macTable.lookup frame.dstMac with
        | some destination => vswitch.schedule frameData destination decision now
        | none =>
            if frame.dstMac.isBroadcast then
              let vswitch := { vswitch with metrics := vswitch.metrics.recordBroadcast }
              let allEndpoints := vswitch.macTable.getAllEndpointsExcept frame.srcMac
              allEndpoints.foldl
                (fun vswitch endpoint => vswitch.schedule frameData endpoint decision now) vswitch
            else
              { vswitch with metrics := vswitch.metrics.recordUnknownUnicast.recordDrop }

/-- Deliver every copy that has come due, in the order they were deferred. -/
def drainDue (vswitch : VSwitch γ) (now : Int) : VSwitch γ :=
  if vswitch.pending.isEmpty then vswitch
  else
    let (due, late) := vswitch.pending.partition fun delivery => delivery.due ≤ now
    let vswitch :=
      due.foldl (fun vswitch delivery => vswitch.deliver delivery.frameData delivery.destination)
        vswitch
    { vswitch with pending := late }

/-- How long the loop may wait, in milliseconds: a deadline is cut to whole
ones. -/
def waitBudget (plane : FrameGate γ) (vswitch : VSwitch γ) (now : Int) : Int :=
  let budget := (vswitch.gate.map plane.tickInterval).getD 250
  let budget := vswitch.pending.foldl
    (fun budget delivery => min budget ((delivery.due - now).tdiv 1000000)) budget
  if budget < 0 then 0 else budget

def tick (plane : FrameGate γ) (vswitch : VSwitch γ) (now : Int) : VSwitch γ :=
  { vswitch with gate := vswitch.gate.map fun gate => plane.tick gate now }

end VSwitch

/-- What the outside does in one turn of the receive loop: the clock readings,
and the frame that was received, if there was one. -/
structure LoopTurn where
  drained : Int
  received : Option (Bytes × Endpoint × Int) := none
  ticked : Int

/-- One turn of the receive loop of `start`. -/
def VSwitch.turn {γ : Type} (plane : FrameGate γ) (vswitch : VSwitch γ) (turn : LoopTurn) :
    VSwitch γ :=
  let vswitch := vswitch.drainDue turn.drained
  let vswitch :=
    match turn.received with
    | none => vswitch
    | some (frameData, sender, now) => vswitch.processFrame plane frameData sender now
  vswitch.tick plane turn.ticked

end WireLab
