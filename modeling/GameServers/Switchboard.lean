import GameServers.Courier
import GameServers.Network
import GameServers.Reserve

namespace GameServers

structure Channel (P : Protocol) where
  line : Line
  home : SocketAddress
  /-- The server at the other end of a stream. -/
  peer : Option SocketAddress
  isOpen : Bool := true
  /-- Whether the channel takes bytes yet. A new socket does so from the next turn on. -/
  writable : Bool
  /-- Requests written to a stream, newest first. -/
  written : List (Origin P) := []
  reader : Option Nat := none

namespace Channel

variable {P : Protocol}

def text (c : Channel P) : String :=
  match c.peer with
  | some peer => c.home.text ++ " -> " ++ peer.text
  | none => c.home.text

def lastRequest (c : Channel P) : Option (Origin P) := c.written.head?

def shut (c : Channel P) : Channel P := { c with isOpen := false }

def setReader (c : Channel P) (reader : Option Nat) : Channel P := { c with reader }

def note (c : Channel P) (origin : Origin P) : Channel P :=
  { c with written := origin :: c.written }

end Channel

structure Reader where
  channel : Nat
  /-- A reader without a source waits for ever. -/
  source : Option Line
  frames : Frames := {}
  running : Bool := true
  deriving DecidableEq, Repr

def Reader.fresh (channel : Nat) (source : Option Line) : Reader := { channel, source }

def Reader.stop (r : Reader) : Reader := { r with running := false }

inductive Signal (P : Protocol)
  | delivery (x : Delivery P)
  | report (e : Event P)

namespace Signal

variable {P : Protocol}

def delivery? : Signal P → Option (Delivery P)
  | delivery x => some x
  | report _ => none

def event? : Signal P → Option (Event P)
  | delivery _ => none
  | report e => some e

end Signal

structure Switchboard (P : Protocol) where
  net : Network
  /-- All channels ever made, by number. -/
  channels : List (Channel P) := []
  readers : List Reader := []
  /-- Oldest first. -/
  signals : List (Signal P) := []

namespace Switchboard

variable {P : Protocol}

def isOpen (b : Switchboard P) (c : Nat) : Bool :=
  match b.channels[c]? with
  | some x => x.isOpen
  | none => false

def peer? (b : Switchboard P) (c : Nat) : Option SocketAddress :=
  b.channels[c]?.bind (·.peer)

def modify (b : Switchboard P) (c : Nat) (f : Channel P → Channel P) : Switchboard P :=
  { b with channels := b.channels.modify c f }

def emit (b : Switchboard P) (x : Signal P) : Switchboard P :=
  { b with signals := b.signals ++ [x] }

def remark (b : Switchboard P) (level : Level) (text : String) : Switchboard P :=
  b.emit (.report (.remark level text))

def channelText (b : Switchboard P) (c : Nat) : String :=
  match b.channels[c]? with
  | some x => x.text
  | none => ""

def shut (b : Switchboard P) (c : Nat) : Switchboard P := b.modify c Channel.shut

def addChannel (b : Switchboard P) (x : Channel P) : Switchboard P :=
  { b with channels := b.channels ++ [x] }

def bind (b : Switchboard P) (a : SocketAddress) : Except Failure (Switchboard P) :=
  match b.net.bind a with
  | .error fault => .error (.sendError fault)
  | .ok net =>
    let line := Line.socket b.net.sockets.length
    let home := match net.sockets.getLast? with
      | some s => s.address
      | none => a
    let b := { b with net }.remark .trace ("bound udp channel on " ++ home.text)
    .ok (b.addChannel { line, home, peer := none, writable := false })

def dial (b : Switchboard P) (a : SocketAddress) : Except Failure (Switchboard P) :=
  match b.net.connect a with
  | .error fault => .error (.unreachableHost fault)
  | .ok net => .ok { b with net }

def addStream (b : Switchboard P) (connection : Nat) (peer : SocketAddress) : Switchboard P :=
  let home := match b.net.connections[connection]? with
    | some x => x.address
    | none => peer
  let x : Channel P :=
    { line := .connection connection, home, peer := some peer, writable := true }
  (b.remark .trace ("opened tcp stream " ++ x.text)).addChannel x

def stopReader (b : Switchboard P) (r : Nat) : Switchboard P :=
  { b with readers := b.readers.modify r Reader.stop }

def abortReader (b : Switchboard P) (c : Nat) : Switchboard P :=
  match b.channels[c]? with
  | none => b
  | some x =>
    let b := b.modify c (·.setReader none)
    match x.reader with
    | some r => b.stopReader r
    | none => b

/-- Gives a channel a reader in place of the one it has. The reader looks at its source first of
all. -/
def attach (b : Switchboard P) (c : Nat) (source : Option Line) : Switchboard P :=
  let b := b.abortReader c
  let r := b.readers.length
  let net := match source with
    | some line => b.net.stir (.client line)
    | none => b.net
  let b := { b with net, readers := b.readers ++ [Reader.fresh c source] }
  b.modify c (·.setReader (some r))

def attachOwn (b : Switchboard P) (c : Nat) : Switchboard P :=
  match b.channels[c]? with
  | some x => b.attach c (some x.line)
  | none => b

/-- A reader of a stream reads only for a channel that knows its server. -/
def hasInput (b : Switchboard P) (r : Reader) : Bool :=
  r.running && match r.source with
  | none => false
  | some (.socket s) => b.net.hasDatagrams s
  | some (.connection c) => match b.peer? r.channel with
    | some _ => b.net.hasBytes c
    | none => true

def deliver (b : Switchboard P) (x : Delivery P) : Switchboard P := b.emit (.delivery x)

/-- A failure on a stream is blamed on the last request. -/
def blame (b : Switchboard P) (c : Nat) (e : Failure) : Switchboard P :=
  match b.channels[c]? with
  | some x => b.deliver (.error ⟨x.lastRequest, e⟩)
  | none => b.deliver (.error ⟨none, e⟩)

def readDatagram (c : Nat) (b : Switchboard P) (x : SocketAddress × Bytes) : Switchboard P :=
  let b := b.remark .trace ("received " ++ Nat.repr x.2.length ++ " bytes from " ++ x.1.text ++
    " on " ++ b.channelText c)
  match P.decode x.2 x.1 with
  | .ok r => b.deliver (.ok r)
  | .error e => b.deliver (.error ⟨none, e⟩)

def readFrame (c : Nat) (peer : SocketAddress) (b : Switchboard P) (frame : Bytes) :
    Switchboard P :=
  let b := b.remark .trace ("received frame of " ++ Nat.repr frame.length ++ " bytes from " ++
    peer.text)
  match P.decode frame peer with
  | .ok r => b.deliver (.ok r)
  | .error e => b.blame c e

/-- What the end of a stream means, given what is left of it. An end between two frames, or within
a size, means nothing. -/
def endFailure? (frames : Frames) (ending : Ending) : Option Failure :=
  match frames.broken, ending with
  | some size, _ => some (.malformedPacket (.frameSize size))
  | none, .reset => some (.receiveError .connectionReset)
  | none, .orderly => if frames.buffer.length < 4 then none else some (.receiveError .earlyEnd)

/-- A reader that has come to its end takes its channel with it. -/
def endReader (b : Switchboard P) (r c : Nat) : Switchboard P :=
  ((b.stopReader r).shut c).remark .debug ("reader for channel " ++ b.channelText c ++ " stopped")

def readStream (b : Switchboard P) (r : Nat) (x : Reader) (connection : Nat)
    (peer : SocketAddress) : Switchboard P :=
  let (net, bytes, ending) := b.net.takeBytes connection
  let (frames, whole) := x.frames.feed bytes
  let b := { b with net, readers := b.readers.set r { x with frames } }
  let b := whole.foldl (readFrame x.channel peer) b
  let stop := if frames.broken.isSome then some .orderly else ending
  match stop with
  | none => b
  | some ending =>
    let b := match endFailure? frames ending with
      | some e => b.blame x.channel e
      | none => b.remark .debug (peer.text ++ " closed the connection")
    b.endReader r x.channel

def runReader (b : Switchboard P) (r : Nat) : Switchboard P :=
  match b.readers[r]? with
  | none => b
  | some x =>
    if !x.running then b
    else match x.source with
      | none => b
      | some (.socket s) =>
        let (net, datagrams) := b.net.takeDatagrams s
        datagrams.foldl (readDatagram x.channel) { b with net }
      | some (.connection connection) => match b.peer? x.channel with
        | some peer => b.readStream r x connection peer
        | none => b.endReader r x.channel

def writeDatagram (b : Switchboard P) (socket : Nat) (request : P.Request) (bytes : Bytes) :
    Switchboard P × Except Failure Unit :=
  match P.recipient request with
  | none => (b, .error (.unresolvedAddress (P.requestText request)))
  | some target => match b.net.sendTo socket target bytes with
    | .error fault => (b, .error (.sendError fault))
    | .ok net => ({ b with net }, .ok ())

def writeStream (b : Switchboard P) (c connection : Nat) (origin : Origin P) (bytes : Bytes) :
    Switchboard P × Except Failure Unit :=
  let b := b.modify c (·.note origin)
  match b.net.write connection bytes with
  | .error fault => (b.shut c, .error (.sendError fault))
  | .ok net => ({ b with net }, .ok ())

def noteWrite (c : Nat) (bytes : Bytes) :
    Switchboard P × Except Failure Unit → Switchboard P × Except Failure Unit
  | (b, .ok ()) =>
    let what := "wrote " ++ Nat.repr bytes.length ++ " bytes on "
    (b.remark .trace (what ++ b.channelText c), .ok ())
  | failed => failed

def write (b : Switchboard P) (c : Nat) (origin : Origin P) (bytes : Bytes) :
    Switchboard P × Except Failure Unit :=
  match b.channels[c]? with
  | none => (b, .error (.sendError .channelClosed))
  | some x =>
    if !x.isOpen then (b, .error (.sendError .channelClosed))
    else match x.line with
      | .socket s => noteWrite c bytes (b.writeDatagram s origin.request bytes)
      | .connection connection => noteWrite c bytes (b.writeStream c connection origin bytes)

def close (b : Switchboard P) (c : Nat) : Switchboard P := (b.shut c).abortReader c

def closeAll (b : Switchboard P) (channels : List Nat) : Switchboard P := channels.foldl close b

def abortReaders (b : Switchboard P) (channels : List Nat) : Switchboard P :=
  channels.foldl abortReader b

def makeWritable (b : Switchboard P) : Switchboard P :=
  { b with channels := b.channels.map fun x ↦ { x with writable := true } }

def readersAt (b : Switchboard P) (line : Line) : List Nat :=
  (List.range b.readers.length).filter fun r ↦ match b.readers[r]? with
    | some x => x.source = some line && b.hasInput x
    | none => false

def tasksAt (b : Switchboard P) : Spot → List Task
  | .client line => (b.readersAt line).map .reader
  | .server a => [.attend a]

variable {κ : Type} [DecidableEq κ]

def takeFrom (b : Switchboard P) (reserve : Reserve κ) (key : κ) :
    Switchboard P × Option Nat × Reserve κ :=
  let drop (b : Switchboard P) (c : Nat) : Switchboard P :=
    b.remark .debug ("dropping dead channel " ++ b.channelText c)
  let b := (reserve.deadOnTop b.isOpen key).foldl drop b
  match reserve.take b.isOpen key with
  | (some c, reserve) => (b.remark .trace ("reusing channel " ++ b.channelText c), some c, reserve)
  | (none, reserve) => (b, none, reserve)

def putBack (b : Switchboard P) (reserve : Reserve κ) (key : κ) (c : Nat) :
    Switchboard P × Reserve κ :=
  let b :=
    if b.isOpen c then b
    else b.remark .debug ("not returning closed channel " ++ b.channelText c ++ " to the pool")
  (b, reserve.putBack b.isOpen key c)

def closeReserve (b : Switchboard P) (reserve : Reserve κ) : Switchboard P :=
  let count := reserve.live.length
  let b := if count = 0 then b
    else b.remark .debug ("closing " ++ Nat.repr count ++ " channel(s)")
  b.closeAll reserve.live

end Switchboard

end GameServers
