import GameServers.Address.Parser
import GameServers.Directory.Protocol

namespace GameServers.CommandLine

inductive Command
  | info (server : SocketAddress)
  | players (server : SocketAddress)
  | rules (server : SocketAddress)
  | rcon (server : SocketAddress) (password line : String)
  | master (region : Directory.Region) (app : Option UInt32) (family : Directory.Family)
      (retries : Nat)

/-- A command with its operands and options, in any order. Everything after `--` is an operand. -/
structure Arguments where
  verbosity : Nat
  command : Command

inductive Token
  | operand (text : String)
  | verbose (count : Nat)
  /-- An option such as `--region`, perhaps with a value after `=`. -/
  | option (name : String) (value : Option String)
  | unknown
  deriving DecidableEq, Repr

namespace Token

def cutAtEquals (cs : List Char) : String × Option String :=
  let name := String.ofList (cs.takeWhile (· ≠ '='))
  match cs.dropWhile (· ≠ '=') with
  | [] => (name, none)
  | _ :: value => (name, some (String.ofList value))

def ofArgument (s : String) : Token :=
  match s.toList with
  | '-' :: '-' :: cs =>
    let (name, value) := cutAtEquals cs
    if name = "verbose" ∧ value = none then .verbose 1 else .option name value
  | ['-'] => .operand s
  | '-' :: cs => if cs.all (· = 'v') then .verbose cs.length else .unknown
  | _ => .operand s

end Token

structure Reading where
  operands : List String := []
  options : List (String × String) := []
  flags : List String := []
  verbosity : Nat := 0

namespace Reading

def setOption (r : Reading) (name value : String) : Option Reading :=
  if (r.options.lookup name).isSome then none
  else some { r with options := r.options ++ [(name, value)] }

def setFlag (r : Reading) (name : String) : Option Reading :=
  if name ∈ r.flags then none else some { r with flags := name :: r.flags }

def nextValue : List String → Option (String × List String)
  | [] => none
  | s :: rest => match Token.ofArgument s with
    | .operand _ => some (s, rest)
    | _ => none

/-- Reads arguments, given the options that take a value and those that take none. -/
def read (valued plain : List String) : Nat → Reading → List String → Option Reading
  | 0, r, _ => some r
  | _ + 1, r, [] => some r
  | fuel + 1, r, s :: rest =>
    if s = "--" then some { r with operands := r.operands ++ rest }
    else match Token.ofArgument s with
      | .operand text => read valued plain fuel { r with operands := r.operands ++ [text] } rest
      | .verbose n => read valued plain fuel { r with verbosity := r.verbosity + n } rest
      | .unknown => none
      | .option name value => do
        if plain.contains name then
          guard value.isNone
          read valued plain fuel (← r.setFlag name) rest
        else
          guard (valued.contains name)
          let (v, rest) ← match value with
            | some v => some (v, rest)
            | none => nextValue rest
          read valued plain fuel (← r.setOption name v) rest

end Reading

def number (s : String) : Option UInt32 :=
  let (negative, digits) := match s.toList with
    | '+' :: cs => (false, cs)
    | '-' :: cs => (true, cs)
    | cs => (false, cs)
  if digits.isEmpty || !digits.all Char.isDigit then none
  else
    let n := digits.foldl (fun n c ↦ 10 * n + (c.toNat - '0'.toNat)) 0
    if Nat.pow 2 32 ≤ n || negative && n ≠ 0 then none else some (UInt32.ofNat n)

/-- The value of an option, or what stands for it. A value that cannot be read is refused. -/
def optionValue {α : Type} (r : Reading) (name : String) (parse : String → Option α) (default : α) :
    Option α :=
  match r.options.lookup name with
  | some s => parse s
  | none => some default

def readMaster (r : Reading) : Option Command := do
  guard r.operands.isEmpty
  let region ← optionValue r "region" (fun s ↦ (Directory.Region.parse s).toOption) .all
  let app ← optionValue r "app-id" (fun s ↦ (number s).map some) none
  let retries ← optionValue r "retries" number 2
  let family := if "goldsrc" ∈ r.flags then Directory.Family.goldSource else .source
  return .master region app family retries.toNat

def readCommand (name : String) (args : List String) : Option (Nat × Command) := do
  let isMaster := name = "master"
  let valued := if isMaster then ["region", "app-id", "retries"] else []
  let plain := if isMaster then ["goldsrc"] else []
  let r ← Reading.read valued plain args.length {} args
  let command ← match name, r.operands with
    | "info", [a] => (SocketAddress.parse? a).map .info
    | "players", [a] => (SocketAddress.parse? a).map .players
    | "rules", [a] => (SocketAddress.parse? a).map .rules
    | "rcon", [a, password, line] => (SocketAddress.parse? a).map (.rcon · password line)
    | "master", _ => readMaster r
    | _, _ => none
  return (r.verbosity, command)

/-- Reads all arguments; `none` if they make no command. If more output is asked for behind the
command, what stands before the command does not count. -/
def Arguments.parse? (args : List String) : Option Arguments :=
  go 0 args
where
  go (before : Nat) : List String → Option Arguments
    | [] => none
    | s :: rest => match Token.ofArgument s with
      | .verbose n => go (before + n) rest
      | .operand name => do
        let (behind, command) ← readCommand name rest
        return ⟨if behind = 0 then before else behind, command⟩
      | _ => none

end GameServers.CommandLine
