import GameServers.CommandLine.Arguments
import GameServers.Console.Calls
import GameServers.Directory.Calls
import GameServers.Directory.Filter
import GameServers.Inquiry.Calls

namespace GameServers.CommandLine

structure Report where
  code : Nat := 0
  /-- Lines without their ends. -/
  output : List String := []
  errors : List String := []
  network : Network

def detail (verbosity : Nat) : Level :=
  match verbosity with
  | 0 => .info
  | 1 => .debug
  | _ => .trace

def logLine (level : Level) (text : String) : String := level.text ++ " - " ++ text

def journalLines {P : Protocol} (level : Level) (journal : List (Event P)) : List String :=
  journal.reverse.filterMap fun e ↦ match e with
    | .heard server => some server.text
    | e => (e.logLine? level).map fun line ↦ logLine line.1 line.2

def padLeft (width : Nat) (s : String) : String :=
  String.ofList (List.replicate (width - s.length) ' ') ++ s

def padRight (width : Nat) (s : String) : String :=
  s ++ String.ofList (List.replicate (width - s.length) ' ')

def infoLines (s : Inquiry.ServerInfo) : List String :=
  ["name:    " ++ s.name,
   "map:     " ++ s.map,
   "game:    " ++ s.game ++ " (" ++ Nat.repr s.appId.toNat ++ ")",
   "players: " ++ Nat.repr s.players.toNat ++ "/" ++ Nat.repr s.maxPlayers.toNat ++ " (" ++
     Nat.repr s.bots.toNat ++ " bots)",
   "version: " ++ s.version] ++
    match s.extras.keywords with
    | some keywords => ["tags:    " ++ keywords]
    | none => []

def playerLine (p : Inquiry.Player) : String :=
  padLeft 3 (Nat.repr p.index.toNat) ++ " " ++ padRight 32 p.name ++ " " ++
    padLeft 6 (intText p.score) ++ " " ++ padLeft 8 p.duration.wholeText ++ "s"

def payloadLines : Inquiry.Payload → List String
  | .challenge _ => []
  | .info s => infoLines s
  | .players list => list.map playerLine
  | .rules rules => rules.toList.map fun e ↦ e.1 ++ " = " ++ e.2

def report {c : Client} (level : Level) (w : World c) (result : Except Failure (List String)) :
    Report :=
  let lines := journalLines level w.courier.desk.journal
  let network := w.transport.board.net
  match result with
  | .ok more => { output := lines ++ more, network }
  | .error e => { code := 1, output := lines, errors := ["Error: " ++ e.describe], network }

def call {c : Client} (w : World c) (x : c.Call) : World c × Option c.Result :=
  let w := (w.start x).run
  match w.calls.getLast? with
  | some (.over result) => (w, some result)
  | _ => (w, none)

def close {c : Client} (w : World c) : World c := w.startClose.run

def runInquiry (level : Level) (net : Network) (x : Inquiry.Call) : Report :=
  let (w, result) := call (Inquiry.launch {} net) x
  report level (close w) ((result.getD (.error .closed)).map payloadLines)

/-- A command goes only to a server that took the password. -/
def console (w : World Console.client) (server : SocketAddress) (password line : String) :
    World Console.client × Except Failure String :=
  match call w (.authenticate server password) with
  | (w, some (.authenticated (.ok true))) => match call w (.execute server line) with
    | (w, some (.output result)) => (w, result)
    | (w, _) => (w, .error .closed)
  | (w, some (.authenticated (.ok false))) => (w, .error .wrongPassword)
  | (w, some (.authenticated (.error e))) => (w, .error e)
  | (w, _) => (w, .error .closed)

def runConsole (level : Level) (net : Network) (server : SocketAddress) (password line : String) :
    Report :=
  let config : Config := { mode := .synchronous }
  let (w, result) := console (Console.launch config net) server password line
  report level (close w) (result.map fun s ↦ [s])

def masterFilter : Option UInt32 → String
  | some app => (({} : Directory.Filter).add (.app app)).text
  | none => ({} : Directory.Filter).allServers.text

def runMaster (level : Level) (net : Network) (x : Directory.Call) (retries : Nat) : Report :=
  let config : Config := { readTimeout := Directory.pageTimeout }
  let (w, result) := call (Directory.launch config retries net) x
  let servers := match result with
    | some r => r.servers
    | none => .error .closed
  report level (close w) (servers.map fun found ↦
    [logLine .info (Nat.repr found.length ++ " server(s) listed")])

def Arguments.run (args : Arguments) (net : Network) : Report :=
  let level := detail args.verbosity
  match args.command with
  | .info server => runInquiry level net (.info server)
  | .players server => runInquiry level net (.players server none)
  | .rules server => runInquiry level net (.rules server none)
  | .rcon server password line => runConsole level net server password line
  | .master region app family retries =>
    runMaster level net ⟨.family family, region, masterFilter app⟩ retries

/-- Runs a command line; arguments that make no command only set the exit code. -/
def run (args : List String) (net : Network) : Report :=
  match Arguments.parse? args with
  | some args => args.run net
  | none => { code := 2, network := net }

end GameServers.CommandLine
