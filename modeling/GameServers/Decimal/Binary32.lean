import GameServers.Decimal.Rounding

namespace GameServers

/-- A number in the 32-bit binary interchange format, by its bits. -/
structure Binary32 where
  bits : UInt32
  deriving DecidableEq, Repr

namespace Binary32

open Decimal

def negative (x : Binary32) : Bool := x.bits.toNat / Nat.pow 2 31 = 1

def exponentField (x : Binary32) : Nat := x.bits.toNat / Nat.pow 2 23 % Nat.pow 2 8

def fractionField (x : Binary32) : Nat := x.bits.toNat % Nat.pow 2 23

inductive Magnitude
  | notANumber
  | infinite
  /-- `digits * 2 ^ power`. -/
  | finite (digits : Nat) (power : Int)

def magnitude (x : Binary32) : Magnitude :=
  if x.exponentField = 255 then
    if x.fractionField = 0 then .infinite else .notANumber
  else if x.exponentField = 0 then .finite x.fractionField (-149)
  else .finite (Nat.pow 2 23 + x.fractionField) ((x.exponentField : Int) - 150)

def signed (x : Binary32) (s : String) : String := if x.negative then "-" ++ s else s

/-- The nearest whole number, ties to the even one; zero keeps its sign. -/
def wholeText (x : Binary32) : String :=
  match x.magnitude with
  | .notANumber => "NaN"
  | .infinite => x.signed "inf"
  | .finite m k =>
    let v := scale m k
    x.signed (Nat.repr (roundHalfEven v.num v.den))

def tenTo (k : Int) : Fraction := if 0 ≤ k then ⟨Nat.pow 10 k.toNat, 1⟩ else ⟨1, Nat.pow 10 (-k).toNat⟩

def Fraction.le (a b : Fraction) : Bool := a.num * b.den ≤ b.num * a.den

def Fraction.lt (a b : Fraction) : Bool := a.num * b.den < b.num * a.den

/-- The numbers that round to `m * 2 ^ k` lie between these two; the ends belong to them exactly if
`m` is even. -/
def neighbours (m : Nat) (k : Int) : Fraction × Fraction :=
  let below := if m = Nat.pow 2 23 ∧ -149 < k then 4 * m - 1 else 4 * m - 2
  (scale below (k - 2), scale (4 * m + 2) (k - 2))

def between (m : Nat) (bounds : Fraction × Fraction) (x : Fraction) : Bool :=
  if m % 2 = 0 then Fraction.le bounds.1 x && Fraction.le x bounds.2
  else Fraction.lt bounds.1 x && Fraction.lt x bounds.2

/-- The grid point of step `10 ^ e` that is nearest to `m * 2 ^ k`, the larger one of two, if it
reads back as that number. Where it does not, the point on the other side may. -/
def gridPoint? (m : Nat) (k : Int) (e : Int) : Option Nat :=
  let v := scale m k
  let step := tenTo e
  let num := v.num * step.den
  let den := v.den * step.num
  let low := num / den
  let at' (d : Nat) : Fraction := ⟨d * step.num, step.den⟩
  let bounds := neighbours m k
  let near := roundHalfUp num den
  let far := if near = low then low + 1 else low
  if between m bounds (at' near) then some near
  else if between m bounds (at' far) then some far
  else none

/-- The largest `e` with `10 ^ e ≤ v`, for `v` in the range of these numbers. -/
def decade (v : Fraction) : Int :=
  let rec go : Nat → Int → Int
    | 0, e => e
    | n + 1, e => if Fraction.le (tenTo e) v then e else go n (e - 1)
  go 90 39

/-- Shortest digits and the power of ten of the last of them. -/
def shortest (m : Nat) (k : Int) : Nat × Int :=
  let top := decade (scale m k)
  let rec go : Nat → Int → Nat × Int
    | 0, e => (0, e)
    | n + 1, e => match gridPoint? m k e with
      | some d => (d, e)
      | none => go n (e - 1)
  go 12 top

def positional (digits : List Char) (last : Int) : String :=
  if 0 ≤ last then
    String.ofList (digits ++ List.replicate last.toNat '0') ++ ".0"
  else
    let places := (-last).toNat
    if digits.length ≤ places then
      "0." ++ String.ofList (List.replicate (places - digits.length) '0' ++ digits)
    else
      String.ofList (digits.take (digits.length - places)) ++ "." ++
        String.ofList (digits.drop (digits.length - places))

def withExponent (digits : List Char) (last : Int) : String :=
  let e := last + (digits.length : Int) - 1
  let mantissa := match digits with
    | [] => "0"
    | [d] => String.ofList [d]
    | d :: ds => String.ofList (d :: '.' :: ds)
  mantissa ++ "e" ++ toString e

/-- The number of this format that is nearest to `10 ^ -4`. -/
def leastPositional : Fraction := scale 13743895 (-37)

/-- Shortest text: positional from what reads as `10 ^ -4` up to below `10 ^ 16`, with an exponent
outside. -/
def describe (x : Binary32) : String :=
  match x.magnitude with
  | .notANumber => "NaN"
  | .infinite => x.signed "inf"
  | .finite m k =>
    if m = 0 then x.signed "0.0"
    else
      let (d, e) := shortest m k
      let text := Nat.repr d
      let trimmed := (text.toList.reverse.dropWhile (· = '0')).reverse
      let last := e + ((text.length - trimmed.length : Nat) : Int)
      let v := scale m k
      if Fraction.lt v leastPositional || Fraction.le (tenTo 16) v then
        x.signed (withExponent trimmed last)
      else x.signed (positional trimmed last)

end Binary32

end GameServers
