namespace GameServers.Decimal

/-- The whole number nearest to `num / den`; of two, the even one. -/
def roundHalfEven (num den : Nat) : Nat :=
  let q := num / den
  let r := num % den
  if 2 * r < den then q
  else if den < 2 * r then q + 1
  else if q % 2 = 0 then q else q + 1

def roundHalfUp (num den : Nat) : Nat := (2 * num + den) / (2 * den)

structure Fraction where
  num : Nat
  den : Nat

def Fraction.add (a b : Fraction) : Fraction := ⟨a.num * b.den + b.num * a.den, a.den * b.den⟩

def scale (n : Nat) (k : Int) : Fraction :=
  if 0 ≤ k then ⟨n * Nat.pow 2 k.toNat, 1⟩ else ⟨n, Nat.pow 2 (-k).toNat⟩

/-- The nearest number with 53 binary digits, ties to the even one. -/
def nearest53 (x : Fraction) : Fraction :=
  if x.num = 0 then ⟨0, 1⟩
  else
    let guess : Int := (x.num.log2 : Int) - (x.den.log2 : Int) - 52
    let at' (k : Int) : Nat :=
      if 0 ≤ k then roundHalfEven x.num (x.den * Nat.pow 2 k.toNat)
      else roundHalfEven (x.num * Nat.pow 2 (-k).toNat) x.den
    let low := at' guess
    if low < Nat.pow 2 52 then scale (at' (guess - 1)) (guess - 1) else scale low guess

def padded (width n : Nat) : String :=
  let digits := Nat.repr n
  String.ofList (List.replicate (width - digits.length) '0') ++ digits

def thousandths (x : Fraction) : String :=
  let n := roundHalfEven (x.num * 1000) x.den
  Nat.repr (n / 1000) ++ "." ++ padded 3 (n % 1000)

end GameServers.Decimal
