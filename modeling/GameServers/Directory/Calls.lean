import GameServers.Client
import GameServers.Directory.Listing
import GameServers.Directory.Protocol

namespace GameServers.Directory

inductive Source
  | address (master : SocketAddress)
  /-- A public directory, by its name. -/
  | family (f : Family)

structure Call where
  source : Source
  region : Region
  filter : String

structure Pending where
  master : SocketAddress
  region : Region
  filter : String
  listing : Listing

structure Result where
  servers : Except Failure (List Endpoint)
  found : List Endpoint

/-- How often a page is asked for again. -/
structure ClientState where
  retries : Nat := 0

abbrev CallMove := Move protocol ClientState Pending Result

def resolve (net : Network) (f : Family) : Except Failure SocketAddress :=
  match net.lookup f.hostName with
  | none => .error (.unreachableHost .unknownHost)
  | some ips =>
    match ips.findSome? fun ip ↦ match ip with
      | .v4 ip => some ip
      | .v6 _ => none with
    | some ip => .ok (.v4 ip f.port)
    | none => .error (.unresolvedAddress f.host)

def locate (net : Network) : Source → Except Failure SocketAddress
  | .address a => .ok a
  | .family f => resolve net f

namespace Pending

def request (p : Pending) : Request :=
  { master := p.master, region := p.region, seed := p.listing.seed, filter := p.filter }

def asking (p : Pending) : Event protocol :=
  .remark .debug ("requesting servers after " ++ p.listing.seed.text ++ " from " ++ p.master.text ++
    " (filter: '" ++ p.filter ++ "')")

def retrying (e : Failure) (attempt limit : Nat) : Event protocol :=
  .remark .debug (e.message ++ ", retrying (" ++ Nat.repr attempt ++ "/" ++ Nat.repr limit ++ ")")

def givingUp (p : Pending) (e : Failure) : Event protocol :=
  .remark .warn ("master server " ++ p.master.text ++ " stopped answering after " ++
    Nat.repr p.listing.found.length ++ " server(s): " ++ e.message)

def summary (p : Pending) (found : List Endpoint) : Event protocol :=
  .remark .debug ("got " ++ Nat.repr found.length ++ " server(s) from " ++ p.master.text)

def next (p : Pending) (s : ClientState) (events : List (Event protocol)) : Listing.Next → CallMove
  | .ask listing =>
    let p := { p with listing }
    { state := s, events := events ++ [p.asking], turn := .ask p.request p }
  | .done found =>
    { state := s, events := events ++ [p.summary found], turn := .answer ⟨.ok found, found⟩ }

def onTimeout (p : Pending) (s : ClientState) (e : Failure) : CallMove :=
  match p.listing.onTimeout s.retries with
  | .ask listing => p.next s [retrying e listing.attempts s.retries] (.ask listing)
  | .done found => p.next s [p.givingUp e] (.done found)

def resume (p : Pending) (outcome : Outcome protocol) (s : ClientState) : CallMove :=
  match outcome with
  | .ok (r : Response) =>
    p.next s ((p.listing.fresh r.servers).map .heard) (p.listing.onPage r.servers)
  | .error (.readTimeout id elapsed) => p.onTimeout s (.readTimeout id elapsed)
  | .error e => { state := s, turn := .answer ⟨.error e, p.listing.found⟩ }

end Pending

def begin (net : Network) (call : Call) (s : ClientState) : CallMove :=
  match locate net call.source with
  | .error e => { state := s, turn := .answer ⟨.error e, []⟩ }
  | .ok master =>
    let p : Pending := { master, region := call.region, filter := call.filter, listing := {} }
    p.next s [] (.ask {})

abbrev client : Client where
  P := protocol
  State := ClientState
  Call := Call
  Pending := Pending
  Result := Result
  begin := begin
  resume := Pending.resume
  forget := id
  patience s := s.retries + 1

def pageTimeout : Time := .ofMillis 3000

def launch (config : Config) (retries : Nat) (net : Network) : World client where
  courier := Courier.make config
  transport := { carrier := .shared none, board := { net } }
  state := { retries }

end GameServers.Directory
