import GameServers.Text.Record

namespace GameServers

structure IPv4 where
  a : UInt8
  b : UInt8
  c : UInt8
  d : UInt8
  deriving DecidableEq, Repr

structure IPv6 where
  g0 : UInt16
  g1 : UInt16
  g2 : UInt16
  g3 : UInt16
  g4 : UInt16
  g5 : UInt16
  g6 : UInt16
  g7 : UInt16
  deriving DecidableEq, Repr

inductive IpAddress
  | v4 (ip : IPv4)
  | v6 (ip : IPv6)
  deriving DecidableEq, Repr

structure Endpoint where
  ip : IPv4
  port : UInt16
  deriving DecidableEq, Repr

inductive SocketAddress
  | v4 (ip : IPv4) (port : UInt16)
  | v6 (ip : IPv6) (port : UInt16) (flow scope : UInt32)
  deriving DecidableEq, Repr

def decimal (n : Nat) : List Char := Nat.toDigits 10 n

namespace IPv4

def unspecified : IPv4 := ⟨0, 0, 0, 0⟩

def isLoopback (ip : IPv4) : Bool := ip.a = 127

def chars (ip : IPv4) : List Char :=
  decimal ip.a.toNat ++ '.' :: decimal ip.b.toNat ++ '.' :: decimal ip.c.toNat ++
    '.' :: decimal ip.d.toNat

end IPv4

namespace IPv6

def groups (ip : IPv6) : List UInt16 :=
  [ip.g0, ip.g1, ip.g2, ip.g3, ip.g4, ip.g5, ip.g6, ip.g7]

def ofGroups? : List UInt16 → Option IPv6
  | [a, b, c, d, e, f, g, h] => some ⟨a, b, c, d, e, f, g, h⟩
  | _ => none

def isLoopback (ip : IPv6) : Bool := ip = ⟨0, 0, 0, 0, 0, 0, 0, 1⟩

/-- The IPv4 address that an address of the form `::ffff:a.b.c.d` carries. -/
def mapped? (ip : IPv6) : Option IPv4 :=
  if ip.groups.take 6 = [0, 0, 0, 0, 0, 0xffff] then
    some ⟨UInt8.ofNat (ip.g6.toNat / 256), UInt8.ofNat ip.g6.toNat,
      UInt8.ofNat (ip.g7.toNat / 256), UInt8.ofNat ip.g7.toNat⟩
  else none

/-- Groups in hexadecimal with colons between them. -/
def joined : List UInt16 → List Char
  | [] => []
  | [g] => Text.hexDigits g.toNat
  | g :: gs => Text.hexDigits g.toNat ++ ':' :: joined gs

def zerosAt (gs : List UInt16) : Nat := (gs.takeWhile (· = 0)).length

/-- Start and length of the first longest run of zero groups from position `pos` on. -/
def longestZeros : Nat → List UInt16 → Nat × Nat
  | _, [] => (0, 0)
  | pos, g :: gs =>
    let here := zerosAt (g :: gs)
    let later := longestZeros (pos + 1) gs
    if later.2 ≤ here then (pos, here) else later

/-- The first longest run of two or more zero groups is left out, and a mapped IPv4 address is shown
in dotted form. -/
def chars (ip : IPv6) : List Char :=
  match ip.mapped? with
  | some inner => [':', ':', 'f', 'f', 'f', 'f', ':'] ++ inner.chars
  | none =>
    let (start, len) := longestZeros 0 ip.groups
    if 1 < len then
      joined (ip.groups.take start) ++ ':' :: ':' :: joined (ip.groups.drop (start + len))
    else joined ip.groups

end IPv6

namespace IpAddress

def chars : IpAddress → List Char
  | .v4 ip => ip.chars
  | .v6 ip => ip.chars

def isLoopback : IpAddress → Bool
  | .v4 ip => ip.isLoopback
  | .v6 ip => ip.isLoopback

def isUnspecified : IpAddress → Bool
  | .v4 ip => ip = .unspecified
  | .v6 ip => ip = ⟨0, 0, 0, 0, 0, 0, 0, 0⟩

end IpAddress

namespace Endpoint

def chars (e : Endpoint) : List Char := e.ip.chars ++ ':' :: decimal e.port.toNat

def text (e : Endpoint) : String := String.ofList e.chars

end Endpoint

namespace SocketAddress

def ofEndpoint (e : Endpoint) : SocketAddress := .v4 e.ip e.port

def ip : SocketAddress → IpAddress
  | .v4 ip _ => .v4 ip
  | .v6 ip _ _ _ => .v6 ip

def port : SocketAddress → UInt16
  | .v4 _ port => port
  | .v6 _ port _ _ => port

def isIPv4 : SocketAddress → Bool
  | .v4 .. => true
  | .v6 .. => false

def withPort (port : UInt16) : SocketAddress → SocketAddress
  | .v4 ip _ => .v4 ip port
  | .v6 ip _ flow scope => .v6 ip port flow scope

def chars : SocketAddress → List Char
  | .v4 ip port => ip.chars ++ ':' :: decimal port.toNat
  | .v6 ip port _ scope =>
    let zone := if scope = 0 then [] else '%' :: decimal scope.toNat
    '[' :: ip.chars ++ zone ++ ']' :: ':' :: decimal port.toNat

def text (a : SocketAddress) : String := String.ofList a.chars

end SocketAddress

end GameServers
