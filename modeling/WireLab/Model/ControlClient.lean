import WireLab.Model.ControlServer

/-!
# The control client

`control_server.cpp`, the client's side: what a GUI, a script or a test uses to
drive a running switch. A call waits on its socket in passes; what each pass
finds (`Wait`) is its input, and the list of passes ends where its deadline does.
Waiting to send has no deadline: where the list ends, the call does not return.

History variables, which nothing reads: `ControlClient.asked`, the requests that
were sent whole; `ControlClient.taken`, the messages that were taken off the
stream; and `ControlClient.acted`, the replies that queries returned, each as the
number of the request the query had sent and the number of the message.
-/

namespace WireLab

open Base

inductive ControlTransportError
  | socketCreationFailed
  | bindFailed
  | listenFailed
  | connectFailed
  | sendFailed
  | receiveFailed
  | addressResolutionFailed
  | invalidSocket
  | disconnected
  | timeout
  deriving DecidableEq, Repr

/-- What waiting for a socket finds before the deadline. -/
inductive Wait
  | ready
  | failed
  deriving DecidableEq, Repr

/-- A connection to a switch; `close` leaves none. -/
structure ControlClient (σ : Type) where
  socket : Option σ
  inbox : Bytes := []
  topologyRevision : UInt64 := 0
  asked : Nat := 0
  taken : Nat := 0
  acted : List (Nat × Nat) := []

/-- What a client learned by asking the switch to describe itself again. -/
structure ControlResync where
  topologyRevision : UInt64 := 0
  messages : List Bytes := []

/-- What a resynchronisation meets: what each query, by its number, finds while it
sends and in each of its calls of `receive`, and what the calls after the last
query find. -/
structure ResyncInput where
  writes : Nat → List Wait
  passes : Nat → List (List Wait)
  settle : List (List Wait)

/-- The first message of a buffer that starts with `line`, and what follows it;
lines without a message are skipped. -/
def takeMessageFrom (line : Bytes) : Bytes → Option Bytes × Bytes
  | [] => (none, line)
  | c :: rest =>
      if c = newline then
        let message := withoutReturn line
        if message.isEmpty then takeMessageFrom [] rest else (some message, rest)
      else takeMessageFrom (line ++ [c]) rest

/-- Take exactly one message, leaving what follows it buffered. -/
def takeMessage (buffer : Bytes) : Option Bytes × Bytes := takeMessageFrom [] buffer

namespace ControlClient

variable {σ : Type}

/-- The loop of `receive`: a buffered message, or more bytes until there is one.
A read takes at most `rounds` answers of the socket. -/
def await (platform : Platform σ) (rounds : Nat) (client : ControlClient σ) :
    List Wait → σ → Bytes → Except ControlTransportError (Option Bytes) × ControlClient σ
  | [], socket, inbox =>
      match takeMessage inbox with
      | (some message, inbox) =>
          (.ok (some message), { client with socket, inbox, taken := client.taken + 1 })
      | (none, inbox) => (.ok none, { client with socket, inbox })
  | wait :: waits, socket, inbox =>
      match takeMessage inbox, wait with
      | (some message, inbox), _ =>
          (.ok (some message), { client with socket, inbox, taken := client.taken + 1 })
      | (none, inbox), .failed => (.error .receiveFailed, { client with socket, inbox })
      | (none, inbox), .ready =>
          let (drained, socket, inbox) := drain platform none rounds socket inbox
          if drained.isOpen then await platform rounds client waits socket inbox
          else (.error .disconnected, { client with socket, inbox })

/-- The next complete message, or none if the deadline passes first. -/
def receive (platform : Platform σ) (rounds : Nat) (waits : List Wait)
    (client : ControlClient σ) :
    Except ControlTransportError (Option Bytes) × ControlClient σ :=
  match client.socket with
  | none => (.error .invalidSocket, client)
  | some socket => await platform rounds client waits socket client.inbox

/-! ## Sending -/

/-- Send what is left of a message, waiting where the socket takes nothing for
now. The flag is false if the connection failed. A round sends at least one byte
or ends a wait. -/
def sendRounds (platform : Platform σ) : Nat → List Wait → σ → Bytes → Option (Bool × σ)
  | _, _, socket, [] => some (true, socket)
  | 0, _, _, _ :: _ => none
  | rounds + 1, waits, socket, c :: rest =>
      match platform.send socket (c :: rest), waits with
      | (.taken more, socket), waits => sendRounds platform rounds waits socket (rest.drop more)
      | (.failed, socket), _ => some (false, socket)
      | (.blocked, _), [] => none
      | (.blocked, socket), .failed :: _ => some (false, socket)
      | (.blocked, socket), .ready :: waits =>
          sendRounds platform rounds waits socket (c :: rest)

def send (platform : Platform σ) (waits : List Wait) (json : Bytes) (client : ControlClient σ) :
    Option (Except ControlTransportError Unit × ControlClient σ) :=
  match client.socket with
  | none => some (.error .invalidSocket, client)
  | some socket =>
      let message := json ++ [newline]
      match sendRounds platform (message.length + waits.length) waits socket message with
      | none => none
      | some (false, socket) => some (.error .sendFailed, { client with socket })
      | some (true, socket) => some (.ok (), { client with socket, asked := client.asked + 1 })

/-! ## Asking the switch to describe itself -/

/-- The loop of `query`: whatever is not the answer is an event the caller still
wants. -/
def awaitReply (platform : Platform σ) (rounds : Nat) (requestId : Bytes) :
    List (List Wait) → List Bytes → ControlClient σ →
      Except ControlTransportError ControlReply × List Bytes × ControlClient σ
  | [], events, client => (.error .timeout, events, client)
  | waits :: passes, events, client =>
      match client.receive platform rounds waits with
      | (.error e, client) => (.error e, events, client)
      | (.ok none, client) => (.error .timeout, events, client)
      | (.ok (some message), client) =>
          match controlReplyFromJson message with
          | .error _ => awaitReply platform rounds requestId passes (events ++ [message]) client
          | .ok reply =>
              if reply.requestId ≠ requestId then
                awaitReply platform rounds requestId passes (events ++ [message]) client
              else
                let acted := client.acted ++ [(client.asked - 1, client.taken - 1)]
                (.ok reply, events, { client with acted })

def query (platform : Platform σ) (rounds : Nat) (writes : List Wait) (passes : List (List Wait))
    (command : ControlCommand) (requestId : Bytes) (events : List Bytes)
    (client : ControlClient σ) :
    Option (Except ControlTransportError ControlReply × List Bytes × ControlClient σ) :=
  let request : ControlRequest :=
    { requestId, command, topologyRevision := client.topologyRevision }
  match client.send platform writes request.toJson with
  | none => none
  | some (.error e, client) => some (.error e, events, client)
  | some (.ok (), client) => some (client.awaitReply platform rounds requestId passes events)

/-- One command of a resynchronisation: a rejection that carries another revision
is worth repeating, as long as there are attempts left. -/
def ask (platform : Platform σ) (rounds : Nat) (input : ResyncInput) (command : ControlCommand) :
    Nat → Nat → List Bytes → ControlClient σ →
      Option (Except ControlTransportError Nat × List Bytes × ControlClient σ)
  | 0, sequence, events, client => some (.ok sequence, events, client)
  | attempts + 1, sequence, events, client =>
      let sequence := sequence + 1
      match client.query platform rounds (input.writes sequence) (input.passes sequence) command
        (bytes "resync-" ++ decimal sequence) events with
      | none => none
      | some (.error e, events, client) => some (.error e, events, client)
      | some (.ok reply, events, client) =>
          let moved := decide (reply.topologyRevision ≠ client.topologyRevision)
          let client := { client with topologyRevision := reply.topologyRevision }
          if reply.accepted || !moved then some (.ok sequence, events, client)
          else client.ask platform rounds input command attempts sequence events

/-- The commands in order, two attempts each. -/
def askAll (platform : Platform σ) (rounds : Nat) (input : ResyncInput) :
    List ControlCommand → Nat → List Bytes → ControlClient σ →
      Option (Except ControlTransportError Unit × List Bytes × ControlClient σ)
  | [], _, events, client => some (.ok (), events, client)
  | command :: commands, sequence, events, client =>
      match client.ask platform rounds input command 2 sequence events with
      | none => none
      | some (.error e, events, client) => some (.error e, events, client)
      | some (.ok sequence, events, client) =>
          client.askAll platform rounds input commands sequence events

/-- Collect the events that follow the replies, until one call finds none. -/
def settle (platform : Platform σ) (rounds : Nat) :
    List (List Wait) → List Bytes → ControlClient σ →
      Except ControlTransportError (List Bytes) × ControlClient σ
  | [], messages, client => (.ok messages, client)
  | waits :: passes, messages, client =>
      match client.receive platform rounds waits with
      | (.error e, client) => (.error e, client)
      | (.ok none, client) => (.ok messages, client)
      | (.ok (some message), client) => settle platform rounds passes (messages ++ [message]) client

def resync (platform : Platform σ) (rounds : Nat) (input : ResyncInput)
    (client : ControlClient σ) :
    Option (Except ControlTransportError ControlResync × ControlClient σ) :=
  match client.askAll platform rounds input
    [.getSwitchState, .getActiveFaults, .getSupervisionState] 0 [] with
  | none => none
  | some (.error e, _, client) => some (.error e, client)
  | some (.ok (), events, client) =>
      match client.settle platform rounds input.settle events with
      | (.error e, client) => some (.error e, client)
      | (.ok messages, client) =>
          some (.ok { topologyRevision := client.topologyRevision, messages }, client)

end ControlClient
end WireLab
