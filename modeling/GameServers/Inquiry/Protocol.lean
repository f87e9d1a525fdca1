import GameServers.Inquiry.Layout
import GameServers.Protocol

namespace GameServers.Inquiry

inductive Kind
  | info
  | challenge
  | players
  | rules
  deriving DecidableEq, Repr

def Kind.text : Kind → String
  | info => "INFO"
  | challenge => "CHALLENGE"
  | players => "PLAYERS"
  | rules => "RULES"

inductive Purpose
  | players
  | rules
  deriving DecidableEq, Repr

def Purpose.describe : Purpose → String
  | players => "Players"
  | rules => "Rules"

def Purpose.query : Purpose → UInt8
  | players => playersQuery
  | rules => rulesQuery

inductive Request
  | info (server : SocketAddress)
  | challenge (server : SocketAddress) (purpose : Purpose)
  | players (server : SocketAddress) (challenge : Int32)
  | rules (server : SocketAddress) (challenge : Int32)
  deriving DecidableEq, Repr

namespace Request

def kind : Request → Kind
  | info _ => .info
  | challenge .. => .challenge
  | players .. => .players
  | rules .. => .rules

def server : Request → SocketAddress
  | info a | challenge a _ | players a _ | rules a _ => a

def bytes : Request → Bytes
  | info _ => infoRequest
  | challenge _ purpose => challengeRequest purpose.query noChallenge
  | players _ number => challengeRequest playersQuery number
  | rules _ number => challengeRequest rulesQuery number

def describe : Request → String
  | info a => Text.tuple "Info" [a.text]
  | challenge a purpose => Text.tuple "Challenge" [a.text, purpose.describe]
  | players a number => Text.tuple "Players" [a.text, intText number]
  | rules a number => Text.tuple "Rules" [a.text, intText number]

end Request

structure Response where
  server : SocketAddress
  payload : Payload

namespace Response

def kind (r : Response) : Kind :=
  match r.payload with
  | .challenge _ => .challenge
  | .info _ => .info
  | .players _ => .players
  | .rules _ => .rules

def describe (r : Response) : String :=
  match r.payload with
  | .challenge number => Text.tuple "Challenge" [r.server.text, intText number]
  | .info server => Text.tuple "Info" [r.server.text, server.describe]
  | .players list => Text.tuple "Players" [r.server.text, Text.list (list.map Player.describe)]
  | .rules map => Text.tuple "Rules" [r.server.text, map.describe]

end Response

abbrev protocol : Protocol where
  Kind := Kind
  Request := Request
  Response := Response
  kindEq := inferInstance
  kindText := Kind.text
  answers := [(.info, .info), (.challenge, .challenge), (.players, .players), (.rules, .rules)]
  requestKind := Request.kind
  responseKind := Response.kind
  recipient r := some r.server
  sender r := some r.server
  requestNumber _ := none
  responseNumber _ := none
  requestText := Request.describe
  responseText := Response.describe
  encode r := .ok r.bytes
  decode frame server := (fun payload ↦ ⟨server, payload⟩) <$> decode frame

end GameServers.Inquiry
