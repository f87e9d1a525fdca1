import GameServers.Address

namespace GameServers

namespace AddressParser

abbrev Chars := List Char

def digitValue? (radix : Nat) (c : Char) : Option Nat :=
  let v? :=
    if '0' ≤ c ∧ c ≤ '9' then some (c.toNat - '0'.toNat)
    else if 'a' ≤ c ∧ c ≤ 'f' then some (c.toNat - 'a'.toNat + 10)
    else if 'A' ≤ c ∧ c ≤ 'F' then some (c.toNat - 'A'.toNat + 10)
    else none
  v?.filter (· < radix)

def digits (radix : Nat) : Chars → List Nat × Chars
  | [] => ([], [])
  | c :: cs => match digitValue? radix c with
    | none => ([], c :: cs)
    | some v => let (vs, rest) := digits radix cs; (v :: vs, rest)

/-- A number below `bound` of at most `maxDigits` digits. -/
def number (radix bound : Nat) (maxDigits : Option Nat) (leadingZero : Bool) (cs : Chars) :
    Option (Nat × Chars) :=
  let (ds, rest) := digits radix cs
  let value := ds.foldl (fun acc d ↦ acc * radix + d) 0
  let tooLong := match maxDigits with
    | none => false
    | some m => m < ds.length
  if ds.isEmpty || tooLong || bound ≤ value then none
  else if !leadingZero && ds.head? = some 0 && 1 < ds.length then none
  else some (value, rest)

def char (c : Char) : Chars → Option Chars
  | [] => none
  | d :: rest => if c = d then some rest else none

/-- Numbers have no leading zeros. -/
def ipv4 (cs : Chars) : Option (IPv4 × Chars) := do
  let (a, cs) ← number 10 256 (some 3) false cs
  let (b, cs) ← number 10 256 (some 3) false (← char '.' cs)
  let (c, cs) ← number 10 256 (some 3) false (← char '.' cs)
  let (d, cs) ← number 10 256 (some 3) false (← char '.' cs)
  pure (⟨UInt8.ofNat a, UInt8.ofNat b, UInt8.ofNat c, UInt8.ofNat d⟩, cs)

/-- Skips the colon before every group but the first. -/
def separator (first : Bool) (cs : Chars) : Option Chars :=
  if first then some cs else char ':' cs

/-- At most `limit` groups, with whether they end in a dotted IPv4 address. -/
def groups : Nat → Bool → Chars → List UInt16 × Bool × Chars
  | 0, _, cs => ([], false, cs)
  | limit + 1, first, cs =>
    let dotted := if 0 < limit then separator first cs >>= ipv4 else none
    match dotted with
    | some (ip, rest) =>
      ([UInt16.ofNat (ip.a.toNat * 256 + ip.b.toNat), UInt16.ofNat (ip.c.toNat * 256 + ip.d.toNat)],
        true, rest)
    | none =>
      match separator first cs >>= number 16 65536 (some 4) true with
      | none => ([], false, cs)
      | some (g, rest) =>
        let (gs, ended, rest) := groups limit false rest
        (UInt16.ofNat g :: gs, ended, rest)

/-- Groups have up to four digits. At most one gap stands for one or more zero groups, and the last
two groups may be a dotted IPv4 address. -/
def ipv6 (cs : Chars) : Option (IPv6 × Chars) := do
  let (head, dotted, rest) := groups 8 true cs
  if head.length = 8 then
    return (← IPv6.ofGroups? head, rest)
  if dotted then none
  let rest ← char ':' rest
  let rest ← char ':' rest
  let (tail, _, rest) := groups (8 - (head.length + 1)) true rest
  let zeros := List.replicate (8 - head.length - tail.length) 0
  pure (← IPv6.ofGroups? (head ++ zeros ++ tail), rest)

def port (cs : Chars) : Option (UInt16 × Chars) := do
  let cs ← char ':' cs
  let (n, rest) ← number 10 65536 none true cs
  pure (UInt16.ofNat n, rest)

def endpoint (cs : Chars) : Option (Endpoint × Chars) := do
  let (ip, cs) ← ipv4 cs
  let (p, cs) ← port cs
  pure (⟨ip, p⟩, cs)

def scope (cs : Chars) : UInt32 × Chars :=
  match char '%' cs >>= number 10 (Nat.pow 2 32) none true with
  | some (n, rest) => (UInt32.ofNat n, rest)
  | none => (0, cs)

def bracketed (cs : Chars) : Option (SocketAddress × Chars) := do
  let cs ← char '[' cs
  let (ip, cs) ← ipv6 cs
  let (zone, cs) := scope cs
  let cs ← char ']' cs
  let (p, cs) ← port cs
  pure (.v6 ip p 0 zone, cs)

def whole {α : Type} : Option (α × Chars) → Option α
  | some (a, []) => some a
  | _ => none

end AddressParser

open AddressParser

def Endpoint.parse? (s : String) : Option Endpoint := whole (endpoint s.toList)

def IpAddress.parse? (s : String) : Option IpAddress :=
  ((whole (ipv4 s.toList)).map .v4) <|> ((whole (ipv6 s.toList)).map .v6)

def SocketAddress.parse? (s : String) : Option SocketAddress :=
  ((whole (endpoint s.toList)).map .ofEndpoint) <|> whole (bracketed s.toList)

end GameServers
