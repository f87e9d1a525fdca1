import GameServers.Protocol

namespace GameServers

/-- Statuses only move forward, but for the way from `await` to `retry` when a write failed. -/
inductive Status
  | new
  /-- Taken off the queue. -/
  | accepted
  /-- Back in the queue after a failed write. -/
  | retry
  | registered
  /-- Handed to the transport. -/
  | await
  /-- Written; an answer or a timeout is to come. -/
  | sent
  | done
  deriving DecidableEq, Repr

namespace Status

def rank : Status → Nat
  | new => 0
  | accepted | retry => 1
  | registered => 2
  | await => 3
  | sent => 4
  | done => 5

def canAdvanceTo : Status → Status → Bool
  | done, _ => false
  | _, done => true
  | await, retry => true
  | _, retry => false
  | retry, next => next = accepted
  | current, next => current.rank < next.rank

def describe : Status → String
  | new => "New"
  | accepted => "Accepted"
  | retry => "Retry"
  | registered => "Registered"
  | await => "Await"
  | sent => "Sent"
  | done => "Done"

end Status

abbrev Outcome (P : Protocol) := Except Failure P.Response

structure Ticket (P : Protocol) where
  request : P.Request
  createdAt : Time
  status : Status := .new
  /-- How many failed writes were to be tried again. The program counts with 32 bits, and only while
  the count is below `Config.maxWriteRetries`, which has 32 bits too; so its counter never wraps. -/
  retries : Nat := 0
  outcome : Option (Outcome P) := none

namespace Ticket

variable {P : Protocol}

def isDone (t : Ticket P) : Bool := t.status = .done

def advance (t : Ticket P) (next : Status) : Ticket P :=
  if t.status.canAdvanceTo next then { t with status := next } else t

def incrementRetries (t : Ticket P) : Ticket P := { t with retries := t.retries + 1 }

def complete (t : Ticket P) (outcome : Outcome P) : Ticket P :=
  match t.outcome with
  | some _ => t
  | none => { t with status := .done, outcome := some outcome }

def describe (t : Ticket P) (now : Time) : String :=
  Text.record "RequestContext"
    [("request", P.requestText t.request), ("status", t.status.describe),
     ("retries", Nat.repr t.retries), ("age", (Duration.mk (now - t.createdAt)).describe)]

end Ticket

end GameServers
