import GameServers.Console.Packet
import GameServers.Protocol

namespace GameServers.Console

inductive Kind
  | auth
  | command
  deriving DecidableEq, Repr

def Kind.text : Kind → String
  | auth => "AUTH"
  | command => "COMMAND"

structure Request where
  server : SocketAddress
  packet : Packet
  deriving DecidableEq, Repr

namespace Request

def auth (server : SocketAddress) (id : Int32) (password : String) : Request :=
  ⟨server, ⟨id, .auth, password⟩⟩

def command (server : SocketAddress) (id : Int32) (line : String) : Request :=
  ⟨server, ⟨id, .exec, line⟩⟩

def kind (r : Request) : Kind :=
  match r.packet.type with
  | .auth => .auth
  | _ => .command

def describe (r : Request) : String :=
  Text.record "RconRequest" [("address", r.server.text), ("packet", r.packet.describe)]

end Request

structure Response where
  server : SocketAddress
  packet : Packet
  deriving DecidableEq, Repr

namespace Response

def kind (r : Response) : Kind :=
  match r.packet.type with
  | .authResponse => .auth
  | _ => .command

def describe (r : Response) : String :=
  Text.record "RconResponse" [("address", r.server.text), ("packet", r.packet.describe)]

end Response

/-- A server answers a wrong password with the id -1. -/
def decode (frame : Bytes) (server : SocketAddress) : Except Failure Response := do
  let packet ← Packet.unpack frame
  if packet.type = .authResponse ∧ packet.id = -1 then
    throw .wrongPassword
  return ⟨server, packet⟩

abbrev protocol : Protocol where
  Kind := Kind
  Request := Request
  Response := Response
  kindEq := inferInstance
  kindText := Kind.text
  answers := [(.auth, .auth), (.command, .command)]
  requestKind := Request.kind
  responseKind := Response.kind
  recipient r := some r.server
  sender r := some r.server
  requestNumber r := some r.packet.id
  responseNumber r := some r.packet.id
  requestText := Request.describe
  responseText := Response.describe
  encode r := .ok r.packet.pack
  decode := decode

end GameServers.Console
