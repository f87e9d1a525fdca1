import Std.Data.TreeMap
import GameServers.Address
import GameServers.Decimal.Binary32

namespace GameServers.Inquiry

structure Spectators where
  port : UInt16
  name : String
  deriving DecidableEq, Repr

structure Extras where
  port : Option UInt16 := none
  steamId : Option UInt64 := none
  spectators : Option Spectators := none
  keywords : Option String := none
  gameId : Option UInt64 := none
  deriving DecidableEq, Repr

structure ServerInfo where
  protocol : UInt8
  name : String
  map : String
  folder : String
  game : String
  appId : UInt16
  players : UInt8
  maxPlayers : UInt8
  bots : UInt8
  /-- The character of this code: `d` for dedicated, `l` for listen, `p` for a relay. -/
  serverType : UInt8
  /-- The character of this code: `l`, `w`, and `m` or `o`. -/
  environment : UInt8
  isPrivate : Bool
  isSecure : Bool
  version : String
  extras : Extras := {}
  deriving DecidableEq, Repr

structure Player where
  index : UInt8
  name : String
  score : Int32
  /-- Seconds since the player joined. -/
  duration : Binary32
  deriving DecidableEq, Repr

abbrev Rules := Std.TreeMap String String

def Rules.ofPairs (pairs : List (String × String)) : Rules :=
  pairs.foldl (fun rules p ↦ rules.insert p.1 p.2) ∅

namespace ServerInfo

def describe (s : ServerInfo) : String :=
  Text.record "SourceServer"
    [("protocol", Nat.repr s.protocol.toNat),
     ("name", Text.quoted s.name),
     ("map", Text.quoted s.map),
     ("folder", Text.quoted s.folder),
     ("game", Text.quoted s.game),
     ("app_id", Nat.repr s.appId.toNat),
     ("players", Nat.repr s.players.toNat),
     ("max_players", Nat.repr s.maxPlayers.toNat),
     ("bots", Nat.repr s.bots.toNat),
     ("server_type", Text.quotedChar (Char.ofNat s.serverType.toNat)),
     ("environment", Text.quotedChar (Char.ofNat s.environment.toNat)),
     ("private", toString s.isPrivate),
     ("secure", toString s.isSecure),
     ("version", Text.quoted s.version),
     ("port", Text.option (s.extras.port.map fun n ↦ Nat.repr n.toNat)),
     ("steam_id", Text.option (s.extras.steamId.map fun n ↦ Nat.repr n.toNat)),
     ("tv_port", Text.option (s.extras.spectators.map fun t ↦ Nat.repr t.port.toNat)),
     ("tv_name", Text.option (s.extras.spectators.map fun t ↦ Text.quoted t.name)),
     ("keywords", Text.option (s.extras.keywords.map Text.quoted)),
     ("game_id", Text.option (s.extras.gameId.map fun n ↦ Nat.repr n.toNat))]

end ServerInfo

def Player.describe (p : Player) : String :=
  Text.record "Player"
    [("index", Nat.repr p.index.toNat),
     ("name", Text.quoted p.name),
     ("score", toString p.score.toInt),
     ("duration", p.duration.describe)]

def Rules.describe (rules : Rules) : String :=
  Text.map (rules.toList.map fun e ↦ (Text.quoted e.1, Text.quoted e.2))

end GameServers.Inquiry
