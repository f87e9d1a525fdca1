import GameServers.Decimal.Rounding

namespace GameServers

/-- Nanoseconds, also of a clock that starts at zero. -/
abbrev Time := Nat

namespace Time

def ofMillis (ms : Nat) : Time := ms * 1000000

def toMillis (t : Time) : Nat := t / 1000000

end Time

structure Duration where
  nanos : Time
  deriving DecidableEq, Repr

namespace Duration

open Decimal

/-- The length in seconds as a number of 53 binary digits: whole seconds and the rest are rounded,
and then their sum. -/
def seconds (d : Duration) : Fraction :=
  nearest53 ((nearest53 ⟨d.nanos / 1000000000, 1⟩).add
    (nearest53 ⟨d.nanos % 1000000000, 1000000000⟩))

def secondsText (d : Duration) : String := thousandths d.seconds

def dropZeros (s : String) : String :=
  String.ofList (s.toList.reverse.dropWhile (· = '0')).reverse

/-- A count of units with the part of one that is left over, `places` digits long. -/
def withPlaces (whole part places : Nat) (unit : String) : String :=
  if part = 0 then Nat.repr whole ++ unit
  else Nat.repr whole ++ "." ++ dropZeros (padded places part) ++ unit

def describe (d : Duration) : String :=
  if 1000000000 ≤ d.nanos then
    withPlaces (d.nanos / 1000000000) (d.nanos % 1000000000) 9 "s"
  else if 1000000 ≤ d.nanos then withPlaces (d.nanos / 1000000) (d.nanos % 1000000) 6 "ms"
  else if 1000 ≤ d.nanos then withPlaces (d.nanos / 1000) (d.nanos % 1000) 3 "µs"
  else Nat.repr d.nanos ++ "ns"

end Duration

end GameServers
