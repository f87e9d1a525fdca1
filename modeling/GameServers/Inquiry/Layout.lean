import GameServers.Cursor
import GameServers.Inquiry.Server

namespace GameServers.Inquiry

def wholeHeader : Int32 := -1

def splitHeader : Int32 := -2

/-- The challenge number that asks for a real one. -/
def noChallenge : Int32 := -1

def infoQuery : UInt8 := 0x54
def playersQuery : UInt8 := 0x55
def rulesQuery : UInt8 := 0x56

def challengeReply : UInt8 := 0x41
def infoReply : UInt8 := 0x49
def playersReply : UInt8 := 0x44
def rulesReply : UInt8 := 0x45

def header (type : UInt8) : Bytes := Bytes.ofInt32 wholeHeader ++ [type]

def infoRequest : Bytes := header infoQuery ++ Text.toBytes "Source Engine Query" ++ [0]

def challengeRequest (type : UInt8) (challenge : Int32) : Bytes :=
  header type ++ Bytes.ofInt32 challenge

inductive Payload
  | challenge (number : Int32)
  | info (server : ServerInfo)
  | players (list : List Player)
  | rules (map : Rules)

/-- Bits of the byte that says which extras follow, in the order in which they follow. -/
def portBit : UInt8 := 0x80
def steamIdBit : UInt8 := 0x10
def spectatorsBit : UInt8 := 0x40
def keywordsBit : UInt8 := 0x20
def gameIdBit : UInt8 := 0x01

def hasBit (flags bit : UInt8) : Bool := flags &&& bit != 0

def extras (flags : UInt8) : Cursor Extras := do
  let port ← Cursor.optional (hasBit flags portBit) Cursor.uint16
  let steamId ← Cursor.optional (hasBit flags steamIdBit) Cursor.uint64
  let spectators ← Cursor.optional (hasBit flags spectatorsBit) do
    let port ← Cursor.uint16
    let name ← Cursor.string
    return ⟨port, name⟩
  let keywords ← Cursor.optional (hasBit flags keywordsBit) Cursor.string
  let gameId ← Cursor.optional (hasBit flags gameIdBit) Cursor.uint64
  return { port, steamId, spectators, keywords, gameId }

def details : Cursor ServerInfo := do
  let protocol ← Cursor.uint8
  let name ← Cursor.string
  let map ← Cursor.string
  let folder ← Cursor.string
  let game ← Cursor.string
  let appId ← Cursor.uint16
  let players ← Cursor.uint8
  let maxPlayers ← Cursor.uint8
  let bots ← Cursor.uint8
  let serverType ← Cursor.uint8
  let environment ← Cursor.uint8
  let isPrivate ← Cursor.uint8
  let isSecure ← Cursor.uint8
  let version ← Cursor.string
  return {
    protocol, name, map, folder, game, appId, players, maxPlayers, bots, serverType, environment
    isPrivate := isPrivate = 1, isSecure := isSecure = 1, version }

def serverInfo : Cursor ServerInfo := do
  let server ← details
  if ← Cursor.atEnd then
    return server
  let flags ← Cursor.uint8
  return { server with extras := ← extras flags }

def player : Cursor Player := do
  let index ← Cursor.uint8
  let name ← Cursor.string
  let score ← Cursor.int32
  let duration ← Cursor.uint32
  return { index, name, score, duration := ⟨duration⟩ }

def players : Cursor (List Player) := do
  let count ← Cursor.uint8
  Cursor.times player count.toNat

def rule : Cursor (String × String) := do
  let name ← Cursor.string
  let value ← Cursor.string
  return (name, value)

def rules : Cursor Rules := do
  let count ← Cursor.uint16
  return Rules.ofPairs (← Cursor.times rule count.toNat)

def body (type : UInt8) : Cursor Payload :=
  if type = challengeReply then Payload.challenge <$> Cursor.int32
  else if type = infoReply then Payload.info <$> serverInfo
  else if type = playersReply then Payload.players <$> players
  else if type = rulesReply then Payload.rules <$> rules
  else throw (.unknownPacketType (Int32.ofNat type.toNat))

def payload : Cursor Payload := do
  let header ← Cursor.int32
  if header = wholeHeader then body (← Cursor.uint8)
  else if header = splitHeader then throw .splitPacket
  else throw (.malformedPacket (.header header))

/-- Reads an answer; bytes after its end do not matter. -/
def decode (datagram : Bytes) : Except Failure Payload := Prod.fst <$> payload datagram

def stringBytes (s : String) : Bytes := Text.toBytes s ++ [0]

def optionalBytes {α : Type} (f : α → Bytes) : Option α → Bytes
  | none => []
  | some a => f a

namespace Extras

def bit {α : Type} (value : Option α) (b : UInt8) : UInt8 := if value.isSome then b else 0

def flags (e : Extras) : UInt8 :=
  bit e.port portBit ||| bit e.steamId steamIdBit ||| bit e.spectators spectatorsBit |||
    bit e.keywords keywordsBit ||| bit e.gameId gameIdBit

def body (e : Extras) : Bytes :=
  optionalBytes Bytes.ofUInt16 e.port ++ optionalBytes Bytes.ofUInt64 e.steamId ++
    optionalBytes (fun t ↦ Bytes.ofUInt16 t.port ++ stringBytes t.name) e.spectators ++
    optionalBytes stringBytes e.keywords ++ optionalBytes Bytes.ofUInt64 e.gameId

end Extras

namespace ServerInfo

def boolByte (b : Bool) : UInt8 := if b then 1 else 0

def detailsBody (s : ServerInfo) : Bytes :=
  s.protocol :: stringBytes s.name ++ stringBytes s.map ++ stringBytes s.folder ++
    stringBytes s.game ++ Bytes.ofUInt16 s.appId ++
    [s.players, s.maxPlayers, s.bots, s.serverType, s.environment, boolByte s.isPrivate,
      boolByte s.isSecure] ++ stringBytes s.version

/-- The whole answer. A server without extras may leave out the byte that announces them. -/
def datagram (s : ServerInfo) : Bytes :=
  header infoReply ++ s.detailsBody ++ s.extras.flags :: s.extras.body

def shortDatagram (s : ServerInfo) : Bytes := header infoReply ++ s.detailsBody

end ServerInfo

def Player.body (p : Player) : Bytes :=
  p.index :: stringBytes p.name ++ Bytes.ofInt32 p.score ++ Bytes.ofUInt32 p.duration.bits

def playersDatagram (list : List Player) : Bytes :=
  header playersReply ++ UInt8.ofNat list.length :: list.flatMap Player.body

def rulesDatagram (pairs : List (String × String)) : Bytes :=
  header rulesReply ++ Bytes.ofUInt16 (UInt16.ofNat pairs.length) ++
    pairs.flatMap fun p ↦ stringBytes p.1 ++ stringBytes p.2

end GameServers.Inquiry
