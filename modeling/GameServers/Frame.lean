import GameServers.Failure

namespace GameServers

namespace Frame

def maxSize : Nat := Nat.pow 2 20

inductive Front
  | frame (whole rest : Bytes)
  | unfinished
  | oversized (size : Int32)

def isSize (limit : Nat) (size : Int32) : Bool := 0 ≤ size.toInt && size.toInt ≤ limit

def front (limit : Nat) (bs : Bytes) : Front :=
  if bs.length < 4 then .unfinished
  else
    let size := Bytes.toInt32 (bs.take 4)
    if isSize limit size then
      let length := 4 + size.toInt.toNat
      if bs.length < length then .unfinished else .frame (bs.take length) (bs.drop length)
    else .oversized size

theorem front_shorter {limit : Nat} {bs whole rest : Bytes}
    (h : front limit bs = .frame whole rest) : rest.length < bs.length := by
  unfold front at h
  split at h
  · cases h
  · dsimp only at h
    split at h
    · split at h
      · cases h
      · cases h
        simp only [List.length_drop]
        omega
    · cases h

/-- All whole frames at the front, and what follows them. -/
def split (limit : Nat) (bs : Bytes) : List Bytes × Front × Bytes :=
  match h : front limit bs with
  | .frame whole rest =>
    have := front_shorter h
    let (frames, stop, left) := split limit rest
    (whole :: frames, stop, left)
  | stop => ([], stop, bs)
termination_by bs.length

end Frame

/-- The frames of a stream that arrives in pieces. -/
structure Frames where
  /-- The start of a frame that has not come whole. -/
  buffer : Bytes := []
  /-- A size that no frame has. Nothing is read after it. -/
  broken : Option Int32 := none
  deriving DecidableEq, Repr

namespace Frames

def feed (f : Frames) (piece : Bytes) : Frames × List Bytes :=
  match f.broken with
  | some _ => (f, [])
  | none =>
    let (frames, stop, left) := Frame.split Frame.maxSize (f.buffer ++ piece)
    match stop with
    | .oversized size => (⟨[], some size⟩, frames)
    | _ => (⟨left, none⟩, frames)

end Frames

end GameServers
