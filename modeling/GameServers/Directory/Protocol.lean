import GameServers.Directory.Page
import GameServers.Protocol

namespace GameServers.Directory

inductive Kind
  | serverList
  deriving DecidableEq, Repr

structure Request where
  master : SocketAddress
  region : Region
  /-- The last server of the page before. -/
  seed : Endpoint
  filter : String
  deriving DecidableEq, Repr

def Request.describe (r : Request) : String :=
  Text.record "MasterServerRequest"
    [("master", r.master.text), ("region", r.region.describe), ("seed", r.seed.text),
     ("filter", Text.quoted r.filter)]

structure Response where
  master : SocketAddress
  servers : List Endpoint
  deriving DecidableEq, Repr

def Response.describe (r : Response) : String :=
  Text.record "MasterServerResponse"
    [("master", r.master.text), ("servers", Text.list (r.servers.map Endpoint.text))]

/-- The public directories, one for each family of games. -/
inductive Family
  | source
  | goldSource
  deriving DecidableEq, Repr

namespace Family

def hostName : Family → String
  | source => "hl2master.steampowered.com"
  | goldSource => "hl1master.steampowered.com"

def port : Family → UInt16
  | source => 27011
  | goldSource => 27010

def host (f : Family) : String := f.hostName ++ ":" ++ Nat.repr f.port.toNat

end Family

abbrev protocol : Protocol where
  Kind := Kind
  Request := Request
  Response := Response
  kindEq := inferInstance
  kindText _ := "SERVER_LIST"
  answers := [(.serverList, .serverList)]
  requestKind _ := .serverList
  responseKind _ := .serverList
  recipient r := some r.master
  sender r := some r.master
  requestNumber _ := none
  responseNumber _ := none
  requestText := Request.describe
  responseText := Response.describe
  encode r := .ok (query r.region r.seed r.filter)
  decode frame master := (fun servers ↦ ⟨master, servers⟩) <$> decodePage frame

end GameServers.Directory
