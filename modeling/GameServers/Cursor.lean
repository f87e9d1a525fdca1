import GameServers.Bytes
import GameServers.Failure

namespace GameServers

/-- Takes a value from the front, or fails and takes nothing. -/
abbrev Cursor (α : Type) := StateT Bytes (Except Failure) α

namespace Cursor

def take (n : Nat) : Cursor Bytes := fun bs ↦
  if bs.length < n then .error (.malformedPacket (.short n bs.length))
  else .ok (bs.take n, bs.drop n)

def uint8 : Cursor UInt8 := fun bs ↦ match bs with
  | [] => .error (.malformedPacket (.short 1 0))
  | b :: rest => .ok (b, rest)

def uint16 : Cursor UInt16 := return Bytes.toUInt16 (← take 2)

def uint32 : Cursor UInt32 := return Bytes.toUInt32 (← take 4)

def int32 : Cursor Int32 := return Bytes.toInt32 (← take 4)

def uint64 : Cursor UInt64 := return Bytes.toUInt64 (← take 8)

/-- The bytes before the first zero byte and those after it. -/
def splitAtZero : Bytes → Option (Bytes × Bytes)
  | [] => none
  | b :: bs =>
    if b = 0 then some ([], bs)
    else match splitAtZero bs with
      | none => none
      | some (text, rest) => some (b :: text, rest)

/-- Text up to a zero byte, which is taken too. -/
def string : Cursor String := fun bs ↦ match splitAtZero bs with
  | none => .error (.malformedPacket .unterminated)
  | some (text, rest) => match Text.ofBytes? text with
    | .error fault => .error (.malformedBody fault)
    | .ok s => .ok (s, rest)

def atEnd : Cursor Bool := fun bs ↦ .ok (bs.isEmpty, bs)

def times {α : Type} (c : Cursor α) : Nat → Cursor (List α)
  | 0 => pure []
  | n + 1 => do
    let a ← c
    let rest ← times c n
    pure (a :: rest)

def optional {α : Type} (present : Bool) (c : Cursor α) : Cursor (Option α) :=
  if present then some <$> c else pure none

end Cursor

end GameServers
