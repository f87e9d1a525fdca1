namespace GameServers.Directory

inductive Trait
  | proxy
  | full
  | nonempty
  | password
  | linux
  | secure
  | dedicated
  | deserted
  | onePerAddress
  | listed
  deriving DecidableEq, Repr

def Trait.key : Trait → String
  | proxy => "proxy"
  | full => "full"
  | nonempty => "empty"
  | password => "password"
  | linux => "linux"
  | secure => "secure"
  | dedicated => "dedicated"
  | deserted => "noplayers"
  | onePerAddress => "collapse_addr_hash"
  | listed => "white"

inductive Property
  | map
  | folder
  | hostName
  | version
  | address
  deriving DecidableEq, Repr

def Property.key : Property → String
  | map => "map"
  | folder => "gamedir"
  | hostName => "name_match"
  | version => "version_match"
  | address => "gameaddr"

/-- Lists of tags: all those that players see, all those that are hidden, any that are hidden. -/
inductive TagList
  | shown
  | hidden
  | anyHidden
  deriving DecidableEq, Repr

def TagList.key : TagList → String
  | shown => "gametype"
  | hidden => "gamedata"
  | anyHidden => "gamedataor"

inductive Condition
  | has (trait : Trait) (value : Bool)
  | matching (property : Property) (text : String)
  | tagged (list : TagList) (tags : List String)
  | app (id : UInt32)
  | notApp (id : UInt32)
  /-- Not all of the next `count` conditions hold. -/
  | nand (count : UInt32)
  /-- None of the next `count` conditions holds. -/
  | nor (count : UInt32)
  deriving DecidableEq, Repr

namespace Condition

def key : Condition → String
  | has trait _ => trait.key
  | matching property _ => property.key
  | tagged list _ => list.key
  | app _ => "appid"
  | notApp _ => "napp"
  | nand _ => "nand"
  | nor _ => "nor"

def value : Condition → String
  | has _ on => if on then "1" else "0"
  | matching _ text => text
  | tagged _ tags => ",".intercalate tags
  | app id | notApp id => Nat.repr id.toNat
  | nand count | nor count => Nat.repr count.toNat

/-- Whether a filter may hold the condition several times. -/
def repeats : Condition → Bool
  | notApp _ | nand _ | nor _ => true
  | _ => false

/-- Whether the condition says nothing: every server runs an app other than 0. -/
def isVoid (c : Condition) : Bool := c = app 0

def text (c : Condition) : String :=
  if c.value.isEmpty then "\\" ++ c.key else "\\" ++ c.key ++ "\\" ++ c.value

def replaceIn (c : Condition) : List Condition → List Condition
  | [] => [c]
  | d :: ds => if d.key = c.key then c :: ds else d :: replaceIn c ds

end Condition

/-- A condition that is set again takes its new value at its old place; exclusions and logical
operators add up. -/
structure Filter where
  conditions : List Condition := []
  /-- Everything is listed, whatever the conditions. -/
  everything : Bool := false
  deriving DecidableEq, Repr

namespace Filter

def add (f : Filter) (c : Condition) : Filter :=
  if c.isVoid then f
  else if c.repeats then { f with conditions := f.conditions ++ [c] }
  else { f with conditions := c.replaceIn f.conditions }

def allServers (f : Filter) : Filter := { f with everything := true }

def text (f : Filter) : String :=
  if f.everything then "" else String.join (f.conditions.map Condition.text)

end Filter

end GameServers.Directory
