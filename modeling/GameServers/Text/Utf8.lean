import GameServers.Bytes
import GameServers.Text.Record

namespace GameServers.Text

/-- Where text stops being valid: the bytes before, and the length of the bad sequence, unless the
bytes just end inside one. -/
structure Utf8Fault where
  validUpTo : Nat
  badLength : Option Nat
  deriving DecidableEq, Repr

def Utf8Fault.describe (f : Utf8Fault) : String :=
  record "Utf8Error" [("valid_up_to", Nat.repr f.validUpTo),
    ("error_len", option (f.badLength.map Nat.repr))]

/-- Lowest and highest second byte after a lead byte of a sequence of two to four bytes, with the
number of bytes that follow the second. -/
def secondByte (lead : UInt8) : Option (UInt8 × UInt8 × Nat) :=
  if lead < 0xc2 then none
  else if lead < 0xe0 then some (0x80, 0xbf, 0)
  else if lead = 0xe0 then some (0xa0, 0xbf, 1)
  else if lead = 0xed then some (0x80, 0x9f, 1)
  else if lead < 0xf0 then some (0x80, 0xbf, 1)
  else if lead = 0xf0 then some (0x90, 0xbf, 2)
  else if lead < 0xf4 then some (0x80, 0xbf, 2)
  else if lead = 0xf4 then some (0x80, 0x8f, 2)
  else none

/-- Drops `n` continuation bytes; on a refusal, the length of the bad sequence. `seen` bytes of it
came before. -/
def continuation (seen : Nat) : Nat → Bytes → Except (Option Nat) Bytes
  | 0, bs => .ok bs
  | _ + 1, [] => .error none
  | n + 1, b :: bs =>
    if 0x80 ≤ b ∧ b ≤ 0xbf then continuation (seen + 1) n bs else .error (some seen)

def dropCharacter (lead : UInt8) (rest : Bytes) : Except (Option Nat) Bytes :=
  if lead < 0x80 then .ok rest
  else match secondByte lead with
    | none => .error (some 1)
    | some (lo, hi, more) =>
      match rest with
      | [] => .error none
      | b :: bs => if lo ≤ b ∧ b ≤ hi then continuation 2 more bs else .error (some 1)

/-- Scans characters from the front, having passed `at` valid bytes. -/
def findFault : Nat → Nat → Bytes → Option Utf8Fault
  | 0, _, _ => none
  | _ + 1, _, [] => none
  | fuel + 1, pos, lead :: rest =>
    match dropCharacter lead rest with
    | .error len => some ⟨pos, len⟩
    | .ok bs => findFault fuel (pos + (rest.length + 1 - bs.length)) bs

def fault (bs : Bytes) : Utf8Fault :=
  (findFault bs.length 0 bs).getD ⟨0, none⟩

/-- Accepts exactly the valid byte strings; a refusal says how many bytes are valid and how long the
bad sequence is. -/
def ofBytes? (bs : Bytes) : Except Utf8Fault String :=
  match String.fromUTF8? bs.toByteArray with
  | some s => .ok s
  | none => .error (fault bs)

def toBytes (s : String) : Bytes := s.toUTF8.data.toList

end GameServers.Text
