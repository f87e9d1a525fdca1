import GameServers.Text.Quoted

namespace GameServers.Text

def commas : List String → String
  | [] => ""
  | [s] => s
  | s :: ss => s ++ ", " ++ commas ss

def record (name : String) (parts : List (String × String)) : String :=
  name ++ " \x7b " ++ commas (parts.map fun p ↦ p.1 ++ ": " ++ p.2) ++ " \x7d"

def tuple (name : String) (parts : List String) : String :=
  name ++ "(" ++ commas parts ++ ")"

def list (items : List String) : String := "[" ++ commas items ++ "]"

def map (entries : List (String × String)) : String :=
  "\x7b" ++ commas (entries.map fun e ↦ e.1 ++ ": " ++ e.2) ++ "\x7d"

def option : Option String → String
  | none => "None"
  | some s => "Some(" ++ s ++ ")"

end GameServers.Text
