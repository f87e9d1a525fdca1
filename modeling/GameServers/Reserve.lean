namespace GameServers

/-- Channels are known by number, here and below. -/
structure Reserve (κ : Type) where
  /-- The channel put back last comes first. -/
  idle : List (κ × Nat) := []
  live : List Nat := []

namespace Reserve

variable {κ : Type} [DecidableEq κ]

/-- The first open channel under a key, with what is left. Dead channels on the way are dropped. -/
def takeFrom (isOpen : Nat → Bool) (key : κ) : List (κ × Nat) → Option Nat × List (κ × Nat)
  | [] => (none, [])
  | (k, c) :: rest =>
    if k = key then
      if isOpen c then (some c, rest) else takeFrom isOpen key rest
    else
      let (found, left) := takeFrom isOpen key rest
      (found, (k, c) :: left)

/-- The dead channels that are on top under a key, in order. -/
def deadOnTop (r : Reserve κ) (isOpen : Nat → Bool) (key : κ) : List Nat :=
  ((r.idle.filter (·.1 = key)).map (·.2)).takeWhile (!isOpen ·)

def take (r : Reserve κ) (isOpen : Nat → Bool) (key : κ) : Option Nat × Reserve κ :=
  let (found, idle) := takeFrom isOpen key r.idle
  (found, { r with idle })

def putBack (r : Reserve κ) (isOpen : Nat → Bool) (key : κ) (c : Nat) : Reserve κ :=
  if isOpen c then { r with idle := (key, c) :: r.idle } else r

def remember (r : Reserve κ) (isOpen : Nat → Bool) (c : Nat) : Reserve κ :=
  { r with live := r.live.filter isOpen ++ [c] }

def idleCount (r : Reserve κ) : Nat := r.idle.length

def liveCount (r : Reserve κ) (isOpen : Nat → Bool) : Nat := (r.live.filter isOpen).length

end Reserve

end GameServers
