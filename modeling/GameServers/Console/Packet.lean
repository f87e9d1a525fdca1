import GameServers.Bytes
import GameServers.Failure

namespace GameServers.Console

inductive PacketType
  | auth
  | exec
  | authResponse
  | response
  deriving DecidableEq, Repr

namespace PacketType

def code : PacketType → Int32
  | auth => 3
  | exec => 2
  | authResponse => 2
  | response => 0

def ofCode (value : Int32) : Except Failure PacketType :=
  if value = 3 then .ok auth
  else if value = 2 then .ok authResponse
  else if value = 0 then .ok response
  else .error (.unknownPacketType value)

def describe : PacketType → String
  | auth => "Auth"
  | exec => "Exec"
  | authResponse => "AuthResponse"
  | response => "Response"

end PacketType

/-- A frame: a size, an id, a type, a body and two zero bytes. -/
structure Packet where
  id : Int32
  type : PacketType
  body : String
  deriving DecidableEq, Repr

namespace Packet

/-- The size of a packet with an empty body; the size field itself does not count. -/
def baseSize : Int32 := 10

def maxSize : Int32 := 4096

def size (p : Packet) : Int32 := Int32.ofNat p.body.utf8ByteSize + baseSize

def pack (p : Packet) : Bytes :=
  Bytes.ofInt32 p.size ++ Bytes.ofInt32 p.id ++ Bytes.ofInt32 p.type.code ++ Text.toBytes p.body ++
    [0, 0]

def field (frame : Bytes) (start : Nat) : Int32 := Bytes.toInt32 ((frame.drop start).take 4)

def unpack (frame : Bytes) : Except Failure Packet := do
  let length := frame.length
  if length < 14 then
    throw (.malformedPacket (.belowMinimum length 14))
  let size := field frame 0
  if maxSize < size then
    throw (.malformedPacket (.aboveLimit size maxSize))
  if size < baseSize ∨ size.toInt ≠ (length : Int) - 4 then
    throw (.malformedPacket (.sizeMismatch size (length - 4)))
  let id := field frame 4
  let type ← PacketType.ofCode (field frame 8)
  if frame.drop (length - 2) ≠ [0, 0] then
    throw (.malformedPacket .terminators)
  match Text.ofBytes? ((frame.drop 12).take (length - 14)) with
  | .error fault => throw (.malformedBody fault)
  | .ok body => return { id, type, body }

def describe (p : Packet) : String :=
  Text.record "Packet"
    [("id", intText p.id), ("packet_type", p.type.describe), ("body", Text.quoted p.body)]

end Packet

end GameServers.Console
