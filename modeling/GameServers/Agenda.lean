import GameServers.Duration

namespace GameServers

/-- Who handles requests: for datagrams the server itself, for streams somebody at each
connection. -/
inductive Attendant
  | server (number : Nat)
  | connection (number : Nat)
  deriving DecidableEq, Repr

inductive Task
  /-- Takes requests off the queue. -/
  | worker
  /-- Waits for the read timeout of the session with this index. -/
  | timer (index : Nat)
  | write (number : Nat)
  | reader (number : Nat)
  | call (number : Nat)
  | attend (a : Attendant)
  deriving DecidableEq, Repr

structure Alarm where
  due : Nat
  task : Task
  deriving DecidableEq, Repr

/-- Tasks that are ready run in the order in which they became ready. Alarms make sleeping tasks
ready in the order of their times, and of their setting where the times agree. -/
structure Agenda where
  ready : List Task := []
  /-- Sorted by time. -/
  alarms : List Alarm := []
  deriving DecidableEq, Repr

namespace Agenda

def wake (a : Agenda) (t : Task) : Agenda :=
  if t ∈ a.ready then a else { a with ready := a.ready ++ [t] }

def insertAlarm (x : Alarm) : List Alarm → List Alarm
  | [] => [x]
  | y :: ys => if x.due < y.due then x :: y :: ys else y :: insertAlarm x ys

/-- No sleep is longer than thirty years. -/
def longestSleep : Nat := Time.ofMillis (30 * 365 * 24 * 60 * 60 * 1000)

/-- The first whole millisecond that does not come before a time. -/
@[irreducible] def wholeMillis (t : Nat) : Nat := Time.ofMillis ((999999 + t) / 1000000)

/-- When a sleep that begins at a time is over. Sleepers are woken at whole milliseconds only. -/
def dueAfter (start length : Nat) : Nat := wholeMillis (min length longestSleep + start)

def sleepUntil (a : Agenda) (due : Time) (t : Task) : Agenda :=
  { a with alarms := insertAlarm ⟨due, t⟩ a.alarms }

/-- The time of the first alarm, if that is not after `limit`. -/
def nextDue? (a : Agenda) (limit : Time) : Option Time :=
  match a.alarms with
  | [] => none
  | x :: _ => if x.due ≤ limit then some x.due else none

def ring (a : Agenda) (now : Time) : Agenda :=
  (a.alarms.takeWhile (·.due ≤ now)).foldl (fun b x ↦ b.wake x.task)
    { a with alarms := a.alarms.dropWhile (·.due ≤ now) }

end Agenda

end GameServers
