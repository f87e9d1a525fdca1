import GameServers.Agenda
import GameServers.Frame

namespace GameServers

inductive ServerKind
  | datagram
  | stream
  | closed
  deriving DecidableEq, Repr

inductive Action
  /-- Answers, from its own socket or from that of another server. -/
  | send (bytes : Bytes) (via : Option Nat)
  /-- Waits until all is quiet. -/
  | flush
  /-- Waits until all is quiet, lets the clock jump, and waits again. -/
  | pass (length : Time)
  | close

structure Server where
  kind : ServerKind
  port : UInt16
  greeting : Bytes := []
  /-- Actions for each request to come. -/
  script : List (List Action) := []
  /-- The client sockets or connections that have sent requests, in order of appearance. -/
  peers : List Nat := []
  /-- The place of the sender among the peers, and the request. -/
  received : List (Nat × Bytes) := []

namespace Server

def host : IPv4 := ⟨127, 0, 0, 1⟩

def address (s : Server) : SocketAddress := .v4 host s.port

def note (s : Server) (peer : Nat) (request : Bytes) : Server :=
  let peers := if peer ∈ s.peers then s.peers else s.peers ++ [peer]
  { s with peers, received := s.received ++ [(peers.idxOf peer, request)] }

end Server

structure Socket where
  address : SocketAddress
  inbox : List (SocketAddress × Bytes) := []

inductive Ending
  | orderly
  | reset
  deriving DecidableEq, Repr

structure Connection where
  server : Nat
  /-- The client's end. -/
  address : SocketAddress
  /-- What the server has not read. -/
  toServer : Bytes := []
  /-- What the client has not read. -/
  toClient : Bytes := []
  ending : Option Ending := none

inductive Line
  | socket (n : Nat)
  | connection (n : Nat)
  deriving DecidableEq, Repr

def Line.number : Line → Nat
  | .socket n => n
  | .connection n => n

/-- Where something happens that somebody may wait for. -/
inductive Spot
  | client (line : Line)
  | server (a : Attendant)
  deriving DecidableEq, Repr

/-- A request that nobody has handled. -/
inductive Arrival
  | datagram (server socket : Nat) (bytes : Bytes)
  | frame (connection : Nat)

def Arrival.attendant : Arrival → Attendant
  | .datagram server .. => .server server
  | .frame connection => .connection connection

/-- What is left to do about a request after a pause. -/
structure Job where
  server : Nat
  line : Line
  actions : List Action
  /-- How far the clock moves before the job goes on. -/
  lapse : Time := 0

def Job.attendant (j : Job) : Attendant :=
  match j.line with
  | .socket _ => .server j.server
  | .connection c => .connection c

/-- A private network of one machine. Nothing takes time and nothing is lost on the way. -/
structure Network where
  up : Bool
  servers : List Server := []
  names : List (String × List IpAddress) := []
  /-- What servers do about requests after the end of their scripts. -/
  epilogue : List Action := []
  sockets : List Socket := []
  connections : List Connection := []
  arrivals : List Arrival := []
  /-- At most one for each attendant, in the order in which they paused. -/
  jobs : List Job := []
  /-- Where something has happened that nobody was told of, oldest first. -/
  news : List Spot := []

namespace Network

def isLocal : SocketAddress → Bool
  | .v4 ip _ => ip.isLoopback
  | .v6 .. => false

def serverAt? (n : Network) (kind : ServerKind) (a : SocketAddress) : Option Nat :=
  n.servers.findIdx? fun s ↦ s.kind = kind && s.address = a

def lookup (n : Network) (host : String) : Option (List IpAddress) :=
  if n.up then n.names.lookup host else none

def stir (n : Network) (s : Spot) : Network :=
  if s ∈ n.news then n else { n with news := n.news ++ [s] }

def tell (n : Network) : Network × List Spot := ({ n with news := [] }, n.news)

/-- A port for a client that asks for none, unlike all before. -/
def freePort (n : Network) : UInt16 :=
  UInt16.ofNat (32768 + n.sockets.length + n.connections.length)

/-- Whether a socket at the first address gets what is sent to the second. The unspecified address
of IPv4 covers all of IPv4, that of IPv6 covers everything. -/
def covers (a b : SocketAddress) : Bool :=
  a.port = b.port && (a.ip = b.ip || a.ip.isUnspecified && (!a.isIPv4 || b.isIPv4))

def clash (a b : SocketAddress) : Bool := covers a b || covers b a

def boundAddresses (n : Network) : List SocketAddress :=
  (n.servers.filter (·.kind = .datagram)).map Server.address ++ n.sockets.map Socket.address

def bindFault? (n : Network) (a : SocketAddress) : Option Fault :=
  if n.up && !isLocal a && !a.ip.isUnspecified then some .addressNotAvailable
  else if a.port ≠ 0 && n.boundAddresses.any (clash a) then some .addressInUse
  else none

/-- The number of the new socket is the number of sockets before. Port zero stands for any port. -/
def bind (n : Network) (a : SocketAddress) : Except Fault Network :=
  match n.bindFault? a with
  | some fault => .error fault
  | none =>
    let address := if a.port = 0 then a.withPort n.freePort else a
    let s := Spot.client (.socket n.sockets.length)
    .ok ({ n with sockets := n.sockets ++ [Socket.mk address []] }.stir s)

def maxDatagram : Nat := 65507

def datagramFault? (n : Network) (target : SocketAddress) (bytes : Bytes) : Option Fault :=
  if !n.up then some .networkUnreachable
  else if !target.isIPv4 then some .addressFamily
  else if target.port = 0 then some .invalidArgument
  else if !isLocal target then some .networkUnreachable
  else if maxDatagram < bytes.length then some .messageTooLong
  else none

def sourceOf (n : Network) (socket : Nat) : SocketAddress :=
  match n.sockets[socket]? with
  | some s => if s.address.ip.isUnspecified then .v4 Server.host s.address.port else s.address
  | none => .v4 Server.host 0

def deposit (n : Network) (socket : Nat) (sender : SocketAddress) (bytes : Bytes) : Network :=
  let put (s : Socket) : Socket := { s with inbox := s.inbox ++ [(sender, bytes)] }
  { n with sockets := n.sockets.modify socket put }.stir (.client (.socket socket))

def sendTo (n : Network) (socket : Nat) (target : SocketAddress) (bytes : Bytes) :
    Except Fault Network :=
  match n.datagramFault? target bytes with
  | some fault => .error fault
  | none => match n.serverAt? .datagram target with
    | some k =>
      let arrivals := n.arrivals ++ [.datagram k socket bytes]
      .ok ({ n with arrivals }.stir (.server (.server k)))
    | none => match n.sockets.findIdx? fun s ↦ covers s.address target with
      | some s => .ok (n.deposit s (n.sourceOf socket) bytes)
      | none => .ok n

def hasDatagrams (n : Network) (socket : Nat) : Bool :=
  match n.sockets[socket]? with
  | some s => !s.inbox.isEmpty
  | none => false

def takeDatagrams (n : Network) (socket : Nat) : Network × List (SocketAddress × Bytes) :=
  match n.sockets[socket]? with
  | none => (n, [])
  | some s => ({ n with sockets := n.sockets.set socket { s with inbox := [] } }, s.inbox)

def connect (n : Network) (a : SocketAddress) : Except Fault Network :=
  if !n.up || !isLocal a then .error .networkUnreachable
  else match n.serverAt? .stream a with
    | none => .error .connectionRefused
    | some k =>
      let greeting := match n.servers[k]? with
        | some s => s.greeting
        | none => []
      let c : Connection :=
        { server := k, address := .v4 Server.host n.freePort, toClient := greeting }
      let s := Spot.client (.connection n.connections.length)
      .ok ({ n with connections := n.connections ++ [c] }.stir s)

/-- Sizes that servers take for those of a request. -/
def requestLimit : Nat := Nat.pow 2 31

def countFrames (bs : Bytes) : Nat := (Frame.split requestLimit bs).1.length

def write (n : Network) (c : Nat) (bytes : Bytes) : Except Fault Network :=
  match n.connections[c]? with
  | none => .error .channelClosed
  | some x =>
    if x.ending.isSome then .error .brokenPipe
    else
      let toServer := x.toServer ++ bytes
      let fresh := countFrames toServer - countFrames x.toServer
      let connections := n.connections.set c { x with toServer }
      let arrivals := n.arrivals ++ List.replicate fresh (.frame c)
      .ok ({ n with connections, arrivals }.stir (.server (.connection c)))

def hasBytes (n : Network) (c : Nat) : Bool :=
  match n.connections[c]? with
  | some x => !x.toClient.isEmpty || x.ending.isSome
  | none => false

def takeBytes (n : Network) (c : Nat) : Network × Bytes × Option Ending :=
  match n.connections[c]? with
  | none => (n, [], none)
  | some x =>
    ({ n with connections := n.connections.set c { x with toClient := [] } }, x.toClient, x.ending)

def answer (n : Network) (k : Nat) (line : Line) (bytes : Bytes) (via : Option Nat) : Network :=
  match line with
  | .socket s => match n.servers[via.getD k]? with
    | some sender => n.deposit s sender.address bytes
    | none => n
  | .connection c => match n.connections[c]? with
    | none => n
    | some x =>
      if x.ending.isSome then n
      else
        let toClient := x.toClient ++ bytes
        { n with connections := n.connections.set c { x with toClient } }.stir (.client line)

/-- A server that hangs up with requests unread resets the connection. -/
def hangUp (n : Network) (line : Line) : Network :=
  match line with
  | .socket _ => n
  | .connection c => match n.connections[c]? with
    | none => n
    | some x =>
      if x.ending.isSome then n
      else
        let ending := if x.toServer.isEmpty then Ending.orderly else .reset
        let connections := n.connections.set c { x with ending := some ending }
        let arrivals := n.arrivals.filter (·.attendant ≠ .connection c)
        { n with connections, arrivals }.stir (.client line)

/-- The server, the client's end and the bytes of a request, once the server has read it. -/
def readArrival (n : Network) : Arrival → Option (Network × Nat × Line × Bytes)
  | .datagram k socket bytes => some (n, k, .socket socket, bytes)
  | .frame c => match n.connections[c]? with
    | none => none
    | some x => match Frame.front requestLimit x.toServer with
      | .frame request rest =>
        some ({ n with connections := n.connections.set c { x with toServer := rest } }, x.server,
          .connection c, request)
      | _ => none

def nextJob? (n : Network) (a : Attendant) : Option (Network × Job) :=
  match n.arrivals.find? (·.attendant = a) with
  | none => none
  | some arrival =>
    let arrivals := n.arrivals.eraseP (·.attendant = a)
    match { n with arrivals }.readArrival arrival with
    | none => none
    | some (n, server, line, request) => match n.servers[server]? with
      | none => none
      | some s =>
        let s' := { s.note line.number request with script := s.script.tail }
        let servers := n.servers.set server s'
        some ({ n with servers }, { server, line, actions := s.script.headD n.epilogue })

def pause (n : Network) (j : Job) (actions : List Action) (lapse : Time) : Network :=
  { n with jobs := n.jobs ++ [{ j with actions, lapse }] }

/-- Carries out actions up to a pause. -/
def perform (j : Job) : List Action → Network → Network
  | [], n => n
  | .send bytes via :: rest, n => perform j rest (n.answer j.server j.line bytes via)
  | .close :: rest, n => perform j rest (n.hangUp j.line)
  | .flush :: rest, n => n.pause j rest 0
  | .pass length :: rest, n => n.pause j rest length

def isBusy (n : Network) (a : Attendant) : Bool := n.jobs.any (·.attendant = a)

def attendFor (a : Attendant) : Nat → Network → Network
  | 0, n => n
  | fuel + 1, n =>
    if n.isBusy a then n
    else match n.nextJob? a with
      | none => n
      | some (n, j) => attendFor a fuel (perform j j.actions n)

def attend (n : Network) (a : Attendant) : Network := attendFor a n.arrivals.length n

def resumeJob (n : Network) (j : Job) : Network :=
  let jobs := n.jobs.filter (·.attendant ≠ j.attendant)
  (perform j j.actions { n with jobs }).attend j.attendant

def resume (n : Network) (jobs : List Job) : Network := jobs.foldl resumeJob n

def readyJobs (n : Network) : List Job := n.jobs.filter (·.lapse = 0)

def passLapse (n : Network) (j : Job) : Network :=
  { n with jobs := n.jobs.map fun k ↦ if k.attendant = j.attendant then { k with lapse := 0 } else k }

/-- How many actions and pauses are left at most, apart from requests after the end of a script. -/
def actionsLeft (n : Network) : Nat :=
  n.servers.foldr (fun s k ↦ s.script.flatten.length + s.script.length + k) 0 +
    n.jobs.foldr (fun j k ↦ j.actions.length + 1 + k) 0

end Network

end GameServers
