import GameServers.Client
import GameServers.Inquiry.Protocol

namespace GameServers.Inquiry

inductive Call
  | info (server : SocketAddress)
  | challenge (server : SocketAddress) (purpose : Purpose)
  /-- With a challenge number, if the caller has one. -/
  | players (server : SocketAddress) (number : Option Int32)
  | rules (server : SocketAddress) (number : Option Int32)

inductive Pending
  | info
  /-- A challenge number, which is the result or is spent on the next request. -/
  | challenge (server : SocketAddress) (next : Option Purpose)
  | players
  | rules

abbrev Result := Except Failure Payload

abbrev CallMove := Move protocol Unit Pending Result

namespace Call

def ask (request : Request) (pending : Pending) (events : List (Event protocol)) : CallMove :=
  { state := (), events, turn := .ask request pending }

def answer (result : Result) (events : List (Event protocol)) : CallMove :=
  { state := (), events, turn := .answer result }

def begin : Call → CallMove
  | info a => ask (.info a) .info []
  | challenge a purpose => ask (.challenge a purpose) (.challenge a none) []
  | players a none => ask (.challenge a .players) (.challenge a (some .players)) []
  | players a (some n) => ask (.players a n) .players []
  | rules a none => ask (.challenge a .rules) (.challenge a (some .rules)) []
  | rules a (some n) => ask (.rules a n) .rules []

def unexpected (r : Response) : CallMove :=
  answer (.error (.malformedPacket (.unexpectedReply r.describe))) []

def resume (pending : Pending) : Outcome protocol → CallMove
  | .error e => answer (.error e) []
  | .ok r => match pending, r.payload with
    | .info, .info _ | .players, .players _ | .rules, .rules _ => answer (.ok r.payload) []
    | .challenge a next, .challenge n =>
      let note : Event protocol :=
        .remark .trace ("got challenge " ++ intText n ++ " from " ++ a.text)
      match next with
      | none => answer (.ok r.payload) [note]
      | some .players => ask (.players a n) .players [note]
      | some .rules => ask (.rules a n) .rules [note]
    | _, _ => unexpected r

end Call

abbrev client : Client where
  P := protocol
  State := Unit
  Call := Call
  Pending := Pending
  Result := Result
  begin _ call _ := call.begin
  resume pending outcome _ := Call.resume pending outcome
  forget := id
  patience _ := 2

def launch (config : Config) (net : Network) : World client where
  courier := Courier.make config
  transport := { carrier := .perKind {}, board := { net } }
  state := ()

end GameServers.Inquiry
