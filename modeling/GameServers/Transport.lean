import GameServers.Switchboard

namespace GameServers

/-- All requests through one socket, through sockets shared by requests of one kind, through a
connection for each request, or through connections kept for each server. -/
inductive Carrier (P : Protocol)
  /-- One socket for everything, bound when it is first needed. -/
  | shared (channel : Option Nat)
  | perKind (reserve : Reserve P.Kind)
  | perRequest (reserve : Reserve SocketAddress)
  | perServer (reserve : Reserve SocketAddress)

inductive ErrandState
  | dialing (connection : Nat) (server : SocketAddress)
  /-- Holds a channel, and waits until it takes bytes. -/
  | holding (channel : Nat)
  | finished (result : Except Failure Unit)

structure Errand (P : Protocol) where
  origin : Origin P
  bytes : Bytes
  state : ErrandState

/-- What happens to a channel, as those who watch it see it. -/
inductive ChannelEvent
  | created (channel : Nat)
  | acquired (channel : Nat)
  | released (channel : Nat)
  deriving DecidableEq, Repr

structure Transport (P : Protocol) where
  carrier : Carrier P
  bindAddress : SocketAddress := .v4 .unspecified 0
  board : Switchboard P
  /-- By the number of the write. -/
  errands : List (Nat × Errand P) := []
  /-- Oldest first. -/
  events : List ChannelEvent := []

namespace Transport

variable {P : Protocol}

def withBoard (t : Transport P) (board : Switchboard P) : Transport P := { t with board }

def withCarrier (t : Transport P) (carrier : Carrier P) : Transport P := { t with carrier }

def see (t : Transport P) (e : ChannelEvent) : Transport P := { t with events := t.events ++ [e] }

def setErrand (t : Transport P) (n : Nat) (e : Errand P) : Transport P :=
  { t with errands := (n, e) :: t.errands.filter (·.1 ≠ n) }

def errand? (t : Transport P) (n : Nat) : Option (Errand P) := t.errands.lookup n

def result? (t : Transport P) (n : Nat) : Option (Except Failure Unit) :=
  match t.errand? n with
  | some ⟨_, _, .finished result⟩ => some result
  | _ => none

def welcome (t : Transport P) : Transport P :=
  let c := t.board.channels.length - 1
  (t.withBoard (t.board.attachOwn c)).see (.created c)

def remark (t : Transport P) (level : Level) (text : String) : Transport P :=
  t.withBoard (t.board.remark level text)

def keep (t : Transport P) (request : P.Request) (c : Nat) : Transport P :=
  match t.carrier with
  | .shared _ => t.withCarrier (.shared (some c))
  | .perKind reserve =>
    let t := t.remark .trace ("created udp channel " ++ t.board.channelText c ++ " for " ++
      P.kindText (P.requestKind request))
    t.withCarrier (.perKind (reserve.remember t.board.isOpen c))
  | .perRequest reserve => t.withCarrier (.perRequest (reserve.remember t.board.isOpen c))
  | .perServer reserve => t.withCarrier (.perServer (reserve.remember t.board.isOpen c))

def giveBack (t : Transport P) (request : P.Request) (c : Nat) : Transport P :=
  match t.carrier with
  | .perKind reserve =>
    let (board, reserve) := t.board.putBack reserve (P.requestKind request) c
    (t.withBoard board).withCarrier (.perKind reserve)
  | .perServer reserve => match P.recipient request with
    | some server =>
      let board := t.board.remark .trace ("releasing channel " ++ t.board.channelText c)
      let (board, reserve) := board.putBack reserve server c
      (t.withBoard board).withCarrier (.perServer reserve)
    | none => t
  | _ => t

def finish (t : Transport P) (n : Nat) (e : Errand P) (result : Except Failure Unit) :
    Transport P :=
  t.setErrand n { e with state := .finished result }

def writeOut (t : Transport P) (n : Nat) (e : Errand P) (c : Nat) : Transport P :=
  let (board, result) := t.board.write c e.origin e.bytes
  (((t.withBoard board).see (.released c)).giveBack e.origin.request c).finish n e result

/-- Whether a write on a channel is decided at once: the channel takes bytes, or is dead. -/
def isPrompt (t : Transport P) (c : Nat) : Bool :=
  match t.board.channels[c]? with
  | some x => x.writable || !x.isOpen
  | none => true

def hold (t : Transport P) (n : Nat) (e : Errand P) (c : Nat) : Transport P :=
  let t := t.see (.acquired c)
  if t.isPrompt c then t.writeOut n e c else t.setErrand n { e with state := .holding c }

def bindFor (t : Transport P) (n : Nat) (e : Errand P) : Transport P :=
  match t.board.bind t.bindAddress with
  | .error failure => t.finish n e (.error failure)
  | .ok board =>
    let c := t.board.channels.length
    (((t.withBoard board).welcome).keep e.origin.request c).hold n e c

def dialFor (t : Transport P) (n : Nat) (e : Errand P) (server : SocketAddress) : Transport P :=
  match t.board.dial server with
  | .error failure => t.finish n e (.error failure)
  | .ok board =>
    let connection := t.board.net.connections.length
    (t.withBoard board).setErrand n { e with state := .dialing connection server }

def dispatch (t : Transport P) (n : Nat) (e : Errand P) : Transport P :=
  let request := e.origin.request
  match t.carrier, P.recipient request with
  | .shared (some c), _ => t.hold n e c
  | .shared none, _ => t.bindFor n e
  | .perKind reserve, _ =>
    let (board, found, reserve) := t.board.takeFrom reserve (P.requestKind request)
    let t := (t.withBoard board).withCarrier (.perKind reserve)
    match found with
    | some c => t.hold n e c
    | none => t.bindFor n e
  | .perRequest _, some server => t.dialFor n e server
  | .perServer reserve, some server =>
    let (board, found, reserve) := t.board.takeFrom reserve server
    let t := (t.withBoard board).withCarrier (.perServer reserve)
    match found with
    | some c => t.hold n e c
    | none => (t.remark .debug ("opening connection to " ++ server.text)).dialFor n e server
  | _, none => t

/-- Streams need the address of the server before anything else. -/
def needsAddress (t : Transport P) : Bool :=
  match t.carrier with
  | .perRequest _ | .perServer _ => true
  | _ => false

def begin (t : Transport P) (n : Nat) (origin : Origin P) : Transport P :=
  let e : Errand P := ⟨origin, [], .finished (.ok ())⟩
  let request := origin.request
  if t.needsAddress && (P.recipient request).isNone then
    t.finish n e (.error (.unresolvedAddress (P.requestText request)))
  else match P.encode request with
    | .error failure => t.finish n e (.error failure)
    | .ok bytes => t.dispatch n { e with bytes }

def resume (t : Transport P) (n : Nat) : Transport P :=
  match t.errand? n with
  | some e => match e.state with
    | .dialing connection server =>
      let c := t.board.channels.length
      let t := (t.withBoard (t.board.addStream connection server)).welcome
      (t.keep e.origin.request c).hold n e c
    | .holding c => t.writeOut n e c
    | .finished _ => t
  | none => t

def waitsOn (t : Transport P) (line : Line) (e : Errand P) : Bool :=
  match e.state with
  | .dialing connection _ => line = .connection connection
  | .holding c => match t.board.channels[c]? with
    | some x => x.line = line
    | none => false
  | .finished _ => false

/-- Those who wait for what has happened at a spot. Of the errands that wait for one socket, the
newest is told first. -/
def tasksAt (t : Transport P) (s : Spot) : List Task :=
  let errands := match s with
    | .client line => (t.errands.filter fun x ↦ t.waitsOn line x.2).map fun x ↦ .write x.1
    | .server _ => []
  errands ++ t.board.tasksAt s

/-- A turn of the network: every channel takes bytes, and those who wait for something that has
happened may go on. -/
def turn (t : Transport P) : Transport P × List Task :=
  let (net, spots) := t.board.net.tell
  let t := t.withBoard { t.board.makeWritable with net }
  (t, spots.flatMap t.tasksAt)

def close (t : Transport P) : Transport P :=
  match t.carrier with
  | .shared c => t.withBoard (t.board.closeAll c.toList)
  | .perKind reserve => (t.withBoard (t.board.closeReserve reserve)).withCarrier (.perKind {})
  | .perRequest reserve => (t.withBoard (t.board.closeReserve reserve)).withCarrier (.perRequest {})
  | .perServer reserve => (t.withBoard (t.board.closeReserve reserve)).withCarrier (.perServer {})

def kept (t : Transport P) : List Nat :=
  match t.carrier with
  | .shared c => c.toList
  | .perKind reserve => reserve.live
  | .perRequest reserve | .perServer reserve => reserve.live

/-- A dropped transport stops its readers, and nothing more. -/
def drop (t : Transport P) : Transport P :=
  t.withBoard (t.board.abortReaders t.kept)

end Transport

end GameServers
