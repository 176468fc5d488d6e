import WireLab.Base.Parties
import WireLab.Model.VSwitch

/-!
# Ports, and the lab network

`vport.cpp`, with the calls of `tap_device.cpp` and `udp_socket.cpp` that it makes: a
port reads frames from its TAP device and sends them to the switch, and writes what it
receives to the device. A read or a receive cuts what does not fit into its buffer.

The lab network is a switch and the ports that are set up for it. UDP may lose, repeat and
reorder a datagram (`Parties`); it arrives at the socket it was sent to, with the
endpoint of its sender. Starting and stopping the two threads, and the log, are left out.
-/

namespace WireLab

open Base

/-- `ETHER_MAX_LEN`. -/
def etherMaxLen : Nat := 1518

/-- The buffer of `receive_from` where no size is given. -/
def receiveBuffer : Nat := 65536

structure Datagram where
  data : Bytes
  source : Endpoint
  destination : Endpoint
  deriving DecidableEq

/-! ## Ports -/

/-- A port, with the frames it has read from its device, and those it has written. -/
structure VPort where
  endpoint : Endpoint
  vswitchEndpoint : Endpoint
  read : List Bytes := []
  written : List Bytes := []

namespace VPort

/-- A round of `forward_tap_to_switch`: what the device held, and whether the send
succeeds. -/
def forwardTapToSwitch (port : VPort) (frame : Option Bytes) (sends : Bool) :
    VPort × List Datagram :=
  match frame with
  | none => (port, [])
  | some frame =>
      let frameData := frame.take etherMaxLen
      let port := { port with read := port.read ++ [frameData] }
      if sends then
        (port,
          [{ data := frameData, source := port.endpoint, destination := port.vswitchEndpoint }])
      else (port, [])

/-- A round of `forward_switch_to_tap`: what was received, and whether the device takes
it whole. The sender is not looked at. -/
def forwardSwitchToTap (port : VPort) (received : Option Bytes) (writes : Bool) : VPort :=
  match received with
  | none => port
  | some data =>
      let frameData := data.take etherMaxLen
      if writes then { port with written := port.written ++ [frameData] } else port

end VPort

/-! ## The network -/

structure LabNetwork (γ : Type) where
  address : Endpoint
  vswitch : VSwitch γ
  ports : List VPort

/-- Whose turn it is, and what the machine does to it. -/
inductive LabTurn
  | tapToSwitch (port : Nat) (frame : Option Bytes) (sends : Bool)
  | switchToTap (port : Nat) (writes : Bool)
  /-- A turn of the receive loop of the switch, with its clock readings. -/
  | vswitch (drained processed ticked : Int)

/-- The datagrams that a turn of the switch has put on the network: those of its sends
that succeeded. -/
def VSwitch.newlySent {γ : Type} (before after : VSwitch γ) : List (Bytes × Endpoint) :=
  ((after.socket.sent.zipIdx.drop before.socket.sent.length).filter fun send =>
    after.socket.results send.2).map Prod.fst

namespace LabNetwork

variable {γ : Type}

def replacePort (index : Nat) (port : VPort) (network : LabNetwork γ) : LabNetwork γ :=
  { network with ports := network.ports.set index port }

/-- What a turn makes of the network, and what it sends. Only what is sent to a socket is
received by it. -/
def turn (plane : FrameGate γ) (network : LabNetwork γ) (input : LabTurn)
    (received : Option Datagram) : Option (LabNetwork γ × List Datagram) :=
  match input, received with
  | .tapToSwitch index frame sends, none =>
      (network.ports[index]?).map fun port =>
        let (port, sent) := port.forwardTapToSwitch frame sends
        (network.replacePort index port, sent)
  | .switchToTap index writes, some datagram =>
      (network.ports[index]?).bind fun port =>
        if datagram.destination = port.endpoint then
          some (network.replacePort index (port.forwardSwitchToTap (some datagram.data) writes), [])
        else none
  | .vswitch drained processed ticked, received =>
      if received.all fun datagram => datagram.destination = network.address then
        let vswitch := network.vswitch.turn plane
          { drained
            received := received.map fun datagram =>
              (datagram.data.take receiveBuffer, datagram.source, processed)
            ticked }
        some ({ network with vswitch }, (network.vswitch.newlySent vswitch).map fun send =>
          { data := send.1, source := network.address, destination := send.2 })
      else none
  | _, _ => none

end LabNetwork

/-- A lab network in which nothing has been sent: every port has an endpoint of its own
and sends to the switch. -/
structure LabNetwork.Idle {γ : Type} (network : LabNetwork γ) : Prop where
  sent : network.vswitch.socket.sent = []
  pending : network.vswitch.pending = []
  macTable : network.vswitch.macTable.table = ∅
  untouched : ∀ port ∈ network.ports, port.read = [] ∧ port.written = []
  connected : ∀ port ∈ network.ports, port.vswitchEndpoint = network.address
  distinct : (network.address :: network.ports.map VPort.endpoint).Nodup

/-- The lab network, over the turns of its parties. -/
def labNetwork {γ : Type} (plane : FrameGate γ) : Parties (LabNetwork γ) LabTurn Datagram where
  init := LabNetwork.Idle
  turn := LabNetwork.turn plane

end WireLab
