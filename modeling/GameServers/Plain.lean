import GameServers.Protocol

namespace GameServers.Plain

inductive Kind
  | info
  | ping
  /-- Answered by a `ping`. -/
  | cross
  /-- Answered by nothing. -/
  | orphan
  deriving DecidableEq, Repr

namespace Kind

def text : Kind → String
  | info => "INFO"
  | ping => "ping"
  | cross => "Cross"
  | orphan => "Orphan"

def describe : Kind → String
  | info => "Info"
  | ping => "Ping"
  | cross => "Cross"
  | orphan => "Orphan"

end Kind

structure Message where
  kind : Kind
  address : Option SocketAddress
  body : String
  deriving DecidableEq, Repr

namespace Message

def describe (m : Message) : String :=
  Text.record "TestMessage"
    [("kind", m.kind.describe), ("address", Text.option (m.address.map SocketAddress.text)),
     ("body", Text.quoted m.body)]

/-- A body that starts with an exclamation mark is refused, with the rest of it as the reason. -/
def encode (m : Message) : Except Failure Bytes :=
  match m.body.toList with
  | '!' :: reason => .error (.response (String.ofList reason))
  | _ => .ok (Text.toBytes m.body)

def decode (frame : Bytes) (sender : SocketAddress) : Except Failure Message :=
  match Text.ofBytes? frame with
  | .error fault => .error (.malformedBody fault)
  | .ok body => .ok ⟨.info, some sender, body⟩

end Message

/-- Messages of plain text whose every part can be chosen freely, also such as real protocols do not
have. -/
abbrev protocol : Protocol where
  Kind := Kind
  Request := Message
  Response := Message
  kindEq := inferInstance
  kindText := Kind.text
  answers := [(.info, .info), (.ping, .ping), (.cross, .ping)]
  requestKind := Message.kind
  responseKind := Message.kind
  recipient := Message.address
  sender := Message.address
  requestNumber _ := none
  responseNumber _ := none
  requestText := Message.describe
  responseText := Message.describe
  encode := Message.encode
  decode := Message.decode

end GameServers.Plain
