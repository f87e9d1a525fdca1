import GameServers.Client
import GameServers.Console.Protocol

namespace GameServers.Console

/-- The client remembers the servers that took its password, and sends commands to no others. -/
structure ClientState where
  /-- Ids below 100 are left alone, and -1 is what servers answer to a wrong password. -/
  nextId : Int32 := 100
  authenticated : List SocketAddress := []

namespace ClientState

def isAuthenticated (s : ClientState) (server : SocketAddress) : Bool :=
  s.authenticated.contains server

def remember (s : ClientState) (server : SocketAddress) : ClientState :=
  { s with authenticated := server :: s.authenticated }

def forget (s : ClientState) (server : SocketAddress) : ClientState :=
  { s with authenticated := s.authenticated.filter (· ≠ server) }

def forgetAll (s : ClientState) : ClientState := { s with authenticated := [] }

/-- The id after the largest is the smallest. -/
def spendId (s : ClientState) : ClientState := { s with nextId := s.nextId + 1 }

end ClientState

inductive Call
  | authenticate (server : SocketAddress) (password : String)
  | execute (server : SocketAddress) (line : String)
  | isAuthenticated (server : SocketAddress)

inductive Pending
  | authenticate (server : SocketAddress)
  | execute

inductive Result
  | authenticated (result : Except Failure Bool)
  | output (result : Except Failure String)
  | status (authenticated : Bool)

abbrev CallMove := Move protocol ClientState Pending Result

def remark (level : Level) (text : String) : List (Event protocol) := [.remark level text]

namespace Call

def sending (what : String) (id : Int32) (server : SocketAddress) : List (Event protocol) :=
  remark .trace ("sending " ++ what ++ " packet " ++ intText id ++ " to " ++ server.text)

def begin (call : Call) (s : ClientState) : CallMove :=
  match call with
  | authenticate server password =>
    { state := s.spendId
      events := sending "auth" s.nextId server
      turn := .ask (.auth server s.nextId password) (.authenticate server) }
  | execute server line =>
    if s.isAuthenticated server then
      { state := s.spendId
        events := sending "command" s.nextId server
        turn := .ask (.command server s.nextId line) .execute }
    else { state := s, turn := .answer (.output (.error (.notAuthenticated server))) }
  | isAuthenticated server => { state := s, turn := .answer (.status (s.isAuthenticated server)) }

def resume (pending : Pending) (outcome : Outcome protocol) (s : ClientState) : CallMove :=
  match pending, outcome with
  | .authenticate server, .ok _ =>
    { state := s.remember server
      events := remark .debug ("authenticated with " ++ server.text)
      turn := .answer (.authenticated (.ok true)) }
  | .authenticate server, .error .wrongPassword =>
    { state := s.forget server
      events := remark .debug (server.text ++ " rejected the password")
      turn := .answer (.authenticated (.ok false)) }
  | .authenticate _, .error e => { state := s, turn := .answer (.authenticated (.error e)) }
  | .execute, .ok (r : Response) =>
    { state := s, turn := .answer (.output (.ok r.packet.body)) }
  | .execute, .error e => { state := s, turn := .answer (.output (.error e)) }

end Call

abbrev client : Client where
  P := protocol
  State := ClientState
  Call := Call
  Pending := Pending
  Result := Result
  begin _ := Call.begin
  resume := Call.resume
  forget := ClientState.forgetAll
  patience _ := 1

def launch (config : Config) (net : Network) : World client where
  courier := Courier.make config
  transport := { carrier := .perServer {}, board := { net } }
  state := {}

end GameServers.Console
