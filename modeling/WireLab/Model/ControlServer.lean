import WireLab.Model.ControlService
import WireLab.Model.ControlJsonWriter

/-!
# The control server

`control_server.cpp`, the server's side: newline-delimited messages to and from
clients, one poll at a time. Sockets are of any type `σ`; `Platform` says how
they answer `recv` and `send`, so a socket may hold whatever script the network
follows. What else a poll depends on is in `PollInput`.

History variables, which nothing reads: `Client.log`, the messages enqueued to a
client; `Client.asked`, its requests that were dispatched; `Client.handed`, the
bytes its socket has taken; `Client.offered`, the bytes its socket has been given
at least once; `Client.drained`, how the last read from it ended; and
`ControlServer.departed`, the connections that were closed.
-/

namespace WireLab

open Base

structure ControlServerConfig where
  maxClients : Nat := 8
  maxRequestBytes : Nat := 64 * 1024
  maxPendingBytes : Nat := 1024 * 1024
  benchmarkPacketsPerPoll : UInt64 := 4096

/-- The answer of `recv`: some bytes, the end of the stream, an empty socket or
a failed one. -/
inductive Received
  | data (first : UInt8) (rest : Bytes)
  | closed
  | blocked
  | failed

/-- The answer of `send`: it took one byte and `more` others, none for now, or
it failed. -/
inductive Sent
  | taken (more : Nat)
  | blocked
  | failed

/-- Sockets, and how a finite double prints in fixed notation. -/
structure Platform (σ : Type) where
  receive : σ → Received × σ
  send : σ → Bytes → Sent × σ
  fixed : Float → Bytes

/-- What is sent to a client: the answer to a request, or an event. -/
inductive Message
  | answer (dispatch : ControlDispatch)
  | event (event : ControlEvent)

def Message.toJson (fixed : Float → Bytes) : Message → Bytes
  | .answer dispatch => dispatch.reply.toJson
  | .event published => published.toJson fixed

/-- How reading from a socket ended: nothing more for now, the end of the
stream, an error, or a buffer that has outgrown its cap. -/
inductive Drained
  | empty
  | closed
  | failed
  | outgrown
  deriving DecidableEq, Repr

/-- The flag `drain` returns. -/
def Drained.isOpen : Drained → Bool
  | .empty => true
  | .closed | .failed | .outgrown => false

structure Client (σ : Type) where
  socket : σ
  inbox : Bytes := []
  outbox : Bytes := []
  congested : Bool := false
  log : List Message := []
  asked : List Bytes := []
  handed : Bytes := []
  offered : Bytes := []
  drained : Drained := .empty

/-- What `poll` reported about a descriptor. -/
structure PollEvents where
  error : Bool := false
  readable : Bool := false
  writable : Bool := false
  hangup : Bool := false
  deriving DecidableEq, Repr

/-- A connection that is waiting to be accepted, and whether it can be made
non-blocking. -/
structure Incoming (σ : Type) where
  socket : σ
  nonBlocking : Bool := true

/-- What one poll meets: the measured times of a benchmark slice, whether any
descriptor is ready and which, the connections that are waiting, and what each
request served finds around the service. -/
structure PollInput (σ : Type) where
  latencyNs : Nat → UInt64 := fun _ => 0
  sliceNs : UInt64 := 0
  ready : Bool := true
  listener : Bool := false
  incoming : List (Incoming σ) := []
  revents : Nat → PollEvents := fun _ => {}
  env : Nat → Environment

/-- The server, with the service it refers to and that one's controller. -/
structure ControlServer (σ β τ : Type) where
  service : ControlService β τ
  controller : TopologyController := {}
  config : ControlServerConfig := {}
  listening : Bool := true
  clients : List (Client σ) := []
  departed : List (Client σ) := []

def newline : UInt8 := 0x0A

/-! ## Receiving -/

/-- Read until the socket is empty, the peer has closed, the connection failed,
or the buffer has outgrown `cap`; no cap stands for the largest size there is. A
round adds at least one byte, so `cap + 1` rounds are enough. -/
def drain {σ : Type} (platform : Platform σ) (cap : Option Nat) :
    Nat → σ → Bytes → Drained × σ × Bytes
  | 0, socket, buffer => (.outgrown, socket, buffer)
  | rounds + 1, socket, buffer =>
      match platform.receive socket with
      | (.closed, socket) => (.closed, socket, buffer)
      | (.blocked, socket) => (.empty, socket, buffer)
      | (.failed, socket) => (.failed, socket, buffer)
      | (.data first rest, socket) =>
          let buffer := buffer ++ first :: rest
          if cap.any fun cap => buffer.length > cap then (.outgrown, socket, buffer)
          else drain platform cap rounds socket buffer

/-- The lines of a buffer, and the partial one after them. -/
def splitLines : Bytes → List Bytes × Bytes
  | [] => ([], [])
  | c :: rest =>
      let (lines, tail) := splitLines rest
      if c = newline then ([] :: lines, tail)
      else
        match lines with
        | [] => ([], c :: tail)
        | line :: lines => ((c :: line) :: lines, tail)

/-- A line without the carriage return it may end in. -/
def withoutReturn (line : Bytes) : Bytes :=
  if line.getLast? = some 0x0D then line.dropLast else line

/-- The complete messages of a buffer, and what is left of it. -/
def takeMessages (buffer : Bytes) : List Bytes × Bytes :=
  let (lines, tail) := splitLines buffer
  ((lines.map withoutReturn).filter fun message => !message.isEmpty, tail)

/-! ## Sending -/

namespace Client

variable {σ : Type}

/-- Queue a message, or give up on a client that owes too much. -/
def enqueue (platform : Platform σ) (config : ControlServerConfig) (message : Message)
    (client : Client σ) : Client σ :=
  if client.congested then client
  else
    let text := message.toJson platform.fixed
    if client.outbox.length + text.length + 1 > config.maxPendingBytes then
      { client with congested := true, outbox := [] }
    else
      { client with
        outbox := client.outbox ++ text ++ [newline]
        log := client.log ++ [message] }

/-- Send what the socket takes. The flag is false if the connection failed; a
round sends at least one byte, so the outbox bounds the rounds. -/
def flushRounds (platform : Platform σ) : Nat → Client σ → Bool × Client σ
  | 0, client => (true, client)
  | rounds + 1, client =>
      if client.outbox.isEmpty then (true, client)
      else
        let client := { client with offered := client.handed ++ client.outbox }
        match platform.send client.socket client.outbox with
        | (.blocked, socket) => (true, { client with socket })
        | (.failed, socket) => (false, { client with socket })
        | (.taken more, socket) =>
            flushRounds platform rounds
              { client with
                socket
                outbox := client.outbox.drop (more + 1)
                handed := client.handed ++ client.outbox.take (more + 1) }

def flush (platform : Platform σ) (client : Client σ) : Bool × Client σ :=
  flushRounds platform client.outbox.length client

/-- Queue an event and push what can be pushed. -/
def push (platform : Platform σ) (config : ControlServerConfig) (event : ControlEvent)
    (client : Client σ) : Client σ :=
  let client := client.enqueue platform config (.event event)
  if client.outbox.isEmpty then client else (client.flush platform).2

end Client

namespace ControlServer

variable {σ β τ : Type}

/-- An event goes to every client. -/
def broadcast (platform : Platform σ) (server : ControlServer σ β τ) (event : ControlEvent) :
    ControlServer σ β τ :=
  { server with clients := server.clients.map (Client.push platform server.config event) }

/-- Every event, in order. -/
def broadcastAll (platform : Platform σ) (server : ControlServer σ β τ)
    (events : List ControlEvent) : ControlServer σ β τ :=
  events.foldl (broadcast platform) server

/-- Change the client at an index. -/
def modifyClient (server : ControlServer σ β τ) (index : Nat) (f : Client σ → Client σ) :
    ControlServer σ β τ :=
  { server with clients := server.clients.modify index f }

/-! ## Serving -/

/-- Dispatch one request of a client: the reply to it, then the events to all. -/
def handle (platform : Platform σ) (env : Environment) (server : ControlServer σ β τ)
    (index : Nat) (request : Bytes) : Option (ControlServer σ β τ) :=
  match server.service.dispatch server.controller env request with
  | none => none
  | some (dispatch, service, controller) =>
      let server := { server with service, controller }
      let server := server.modifyClient index fun client =>
        { client.enqueue platform server.config (.answer dispatch) with
          asked := client.asked ++ [request] }
      some (server.broadcastAll platform dispatch.events)

/-- Dispatch requests in order, counting them. -/
def handleAll (platform : Platform σ) (env : Nat → Environment) (index : Nat) :
    Nat → ControlServer σ β τ → List Bytes → Option (Nat × ControlServer σ β τ)
  | served, server, [] => some (served, server)
  | served, server, request :: requests =>
      match server.handle platform (env served) index request with
      | none => none
      | some server => handleAll platform env index (served + 1) server requests

/-- Read from a client and dispatch what has arrived whole. The flag says whether
its connection is open. -/
def serve (platform : Platform σ) (env : Nat → Environment) (served : Nat)
    (server : ControlServer σ β τ) (index : Nat) (client : Client σ) :
    Option (Bool × Nat × ControlServer σ β τ) :=
  let cap := server.config.maxRequestBytes
  let (drained, socket, inbox) := drain platform (some cap) (cap + 1) client.socket client.inbox
  let (messages, tail) := takeMessages inbox
  let server := server.modifyClient index fun client => { client with socket, inbox, drained }
  match handleAll platform env index served server messages with
  | none => none
  | some (served, server) =>
      some (drained.isOpen, served,
        server.modifyClient index fun client => { client with inbox := tail })

/-! ## Polling -/

/-- Accept what is waiting, up to the cap. -/
def acceptPending (server : ControlServer σ β τ) (incoming : List (Incoming σ)) :
    ControlServer σ β τ :=
  incoming.foldl (fun server connection =>
    if server.clients.length ≥ server.config.maxClients then server
    else if !connection.nonBlocking then server
    else { server with clients := server.clients ++ [{ socket := connection.socket }] }) server

/-- Flush a client; the flag says whether its connection is still alive. -/
def flushAt (platform : Platform σ) (server : ControlServer σ β τ) (index : Nat) :
    Bool × ControlServer σ β τ :=
  match server.clients[index]? with
  | none => (true, server)
  | some client =>
      if client.outbox.isEmpty then (true, server)
      else
        ((client.flush platform).1,
          server.modifyClient index fun client => (client.flush platform).2)

/-- Disconnect a client that is not alive, has hung up with nothing unread, or is
congested. -/
def settle (server : ControlServer σ β τ) (index : Nat) (alive hangup : Bool) :
    ControlServer σ β τ :=
  match server.clients[index]? with
  | none => server
  | some client =>
      if !alive || (hangup && client.inbox.isEmpty) || client.congested then
        { server with
          clients := server.clients.eraseIdx index
          departed := server.departed ++ [client] }
      else server

/-- What a poll does for one descriptor. -/
def pollClient (platform : Platform σ) (input : PollInput σ) (served : Nat)
    (server : ControlServer σ β τ) (index : Nat) : Option (Nat × ControlServer σ β τ) :=
  let revents := input.revents index
  match server.clients[index]? with
  | none => some (served, server)
  | some client =>
      if revents = {} then some (served, server)
      else if revents.error then some (served, server.settle index false revents.hangup)
      else
        match
          if revents.readable then server.serve platform input.env served index client
          else some (true, served, server) with
        | none => none
        | some (isOpen, served, server) =>
            let (alive, server) := if isOpen then server.flushAt platform index else (false, server)
            some (served, server.settle index alive revents.hangup)

/-- The descriptors that were polled, last to first. -/
def pollClients (platform : Platform σ) (input : PollInput σ) :
    Nat → Nat → ControlServer σ β τ → Option (Nat × ControlServer σ β τ)
  | 0, served, server => some (served, server)
  | index + 1, served, server =>
      match server.pollClient platform input served index with
      | none => none
      | some (served, server) => pollClients platform input index served server

/-- Advance the active benchmark by a slice and tell everyone. -/
def advanceBenchmark (platform : Platform σ) (input : PollInput σ)
    (server : ControlServer σ β τ) : ControlServer σ β τ :=
  if !server.service.benchmarkActive then server
  else
    let (dispatch, service) := server.service.advanceBenchmark server.controller input.latencyNs
      input.sliceNs server.config.benchmarkPacketsPerPoll
    { server with service }.broadcastAll platform dispatch.events

/-- Advance, drop, accept, read, dispatch and flush once. The count is of the
requests served; `none` is an exception out of a dispatch. -/
def poll (platform : Platform σ) (input : PollInput σ) (server : ControlServer σ β τ) :
    Option (Nat × ControlServer σ β τ) :=
  if !server.listening then some (0, server)
  else
    let server := server.advanceBenchmark platform input
    let server := { server with
      clients := server.clients.filter fun client => !client.congested
      departed := server.departed ++ server.clients.filter Client.congested }
    if !input.ready then some (0, server)
    else
      let polled := server.clients.length
      let server := if input.listener then server.acceptPending input.incoming else server
      pollClients platform input polled 0 server

/-! ## Publishing -/

/-- Tell the clients about an analysed batch. -/
def publishAnalysis (platform : Platform σ) (server : ControlServer σ β τ)
    (outcome : AnalysisOutcome) : ControlServer σ β τ :=
  if server.clients.isEmpty then server
  else
    let (dispatch, service) := server.service.analysisEvents server.controller outcome
    { server with service }.broadcastAll platform dispatch.events

/-- Tell the clients about the supervisor. -/
def publishSupervision (platform : Platform σ) (server : ControlServer σ β τ)
    (snapshot : SupervisionSnapshot) : ControlServer σ β τ :=
  if server.clients.isEmpty then server
  else
    let (event, service) := server.service.supervisionEvent server.controller snapshot
    { server with service }.broadcastAll platform [.supervisionState event]

end ControlServer
end WireLab
