import GameServers.Agenda
import GameServers.Event

namespace GameServers

structure Timer where
  id : SessionId
  index : Nat
  deriving DecidableEq, Repr

def Session.timer (s : Session) : Timer := ⟨s.id, s.index⟩

/-- Where requests wait for their answers. Each session has a timer that rejects its ticket when no
answer comes in time. -/
structure Desk (P : Protocol) where
  readTimeout : Time
  now : Time := 0
  /-- All tickets ever made, by number. -/
  tickets : List (Ticket P) := []
  registry : Registry := {}
  /-- How many sessions were ever registered. -/
  counter : Nat := 0
  timers : List Timer := []
  /-- When the timers of sessions went to sleep, by index. A timer does so when its task first runs,
  which is some time after its session is registered. -/
  naps : Nat → Option Time := fun _ ↦ none
  closed : Bool := false
  /-- Newest first. -/
  journal : List (Event P) := []
  agenda : Agenda := {}

namespace Desk

variable {P : Protocol}

def log (d : Desk P) (e : Event P) : Desk P := { d with journal := e :: d.journal }

def wake (d : Desk P) (t : Task) : Desk P := { d with agenda := d.agenda.wake t }

def isDone (d : Desk P) (n : Nat) : Bool :=
  match d.tickets[n]? with
  | some t => t.isDone
  | none => false

def canAdvance (d : Desk P) (n : Nat) (next : Status) : Bool :=
  match d.tickets[n]? with
  | some t => t.status.canAdvanceTo next
  | none => false

def isSettled (d : Desk P) (n : Nat) : Bool :=
  match d.tickets[n]? with
  | some t => t.outcome.isSome
  | none => false

/-- Makes a ticket; its number is the number of tickets before. -/
def issue (d : Desk P) (request : P.Request) : Desk P :=
  { d with tickets := d.tickets ++ [{ request, createdAt := d.now }] }

def modify (d : Desk P) (n : Nat) (f : Ticket P → Ticket P) : Desk P :=
  { d with tickets := d.tickets.modify n f }

def logFor (d : Desk P) (n : Nat) (e : Ticket P → Event P) : Desk P :=
  match d.tickets[n]? with
  | some t => d.log (e t)
  | none => d

def advance (d : Desk P) (n : Nat) (next : Status) : Desk P :=
  if d.canAdvance n next then
    (d.logFor n fun t ↦ .moved t.request t.status next).modify n (·.advance next)
  else d

def complete (d : Desk P) (n : Nat) (outcome : Outcome P) : Desk P :=
  d.modify n (·.complete outcome)

def hasTimer (d : Desk P) (s : Session) : Bool := d.timers.any (·.index = s.index)

def isRegistered (d : Desk P) (s : Session) : Bool := (d.registry.find? s.id s.index).isSome

/-- The id under which a ticket can be registered, or the first reason against it. A number that
was never given out is turned away like all others when the desk is closed. -/
def idFor (d : Desk P) (n : Nat) (runtime : Bool) : Except Failure SessionId :=
  if d.closed then .error .closed
  else if !runtime then .error .noRuntime
  else match d.tickets[n]? with
    | none => .error .closed
    | some t => (Envelope.request t.request : Envelope P).sessionId

def nextSession (d : Desk P) (n : Nat) (id : SessionId) : Session :=
  { id, index := d.counter + 1, ticket := n, registeredAt := d.now }

/-- A ticket that is done gets no timer. -/
def arm (d : Desk P) (s : Session) : Desk P :=
  if d.isDone s.ticket then d
  else { d with timers := d.timers ++ [s.timer] }.wake (.timer s.index)

def register (d : Desk P) (s : Session) : Desk P :=
  let d := d.log (.registering s.id s.index)
  let d := { d with counter := s.index, registry := d.registry.file s }
  (d.arm s).advance s.ticket .registered

def create (d : Desk P) (n : Nat) (runtime : Bool) : Desk P × Except Failure Session :=
  match d.idFor n runtime with
  | .error e => (d, .error e)
  | .ok id => let s := d.nextSession n id; (d.register s, .ok s)

def cancelTimer (d : Desk P) (s : Session) : Desk P :=
  { d with timers := d.timers.filter (·.index ≠ s.index) }

def delete (d : Desk P) (s : Session) : Desk P :=
  let d := d.cancelTimer s
  if d.isRegistered s then
    { d with registry := d.registry.remove s }.log (.unregistered s.id s.index)
  else d

def deleteOldest (d : Desk P) (id : SessionId) : Desk P :=
  match d.registry.oldest? id with
  | some s => d.delete s
  | none => d

def settle (d : Desk P) (s : Session) (outcome : Outcome P) : Desk P :=
  (d.complete s.ticket outcome).delete s

def sessionFor (d : Desk P) (m : Envelope P) : Except Failure (Option Session) :=
  d.registry.oldest? <$> m.sessionId

/-- The session of this very ticket, and not of one with an equal request. -/
def sessionOf? (d : Desk P) (n : Nat) : Option Session :=
  match d.tickets[n]? with
  | none => none
  | some t =>
    match (Envelope.request t.request : Envelope P).sessionId with
    | .ok id => (d.registry.bucket id).find? (·.ticket = n)
    | .error _ => d.registry.entries.find? (·.ticket = n)

def keeps (d : Desk P) (n : Nat) : Bool := d.registry.entries.any (·.ticket = n)

/-- The outcome of a ticket, if it has one. A ticket that is neither held elsewhere nor kept by a
session can never be settled, and counts as closed. -/
def outcome? (d : Desk P) (held : Bool) (n : Nat) : Option (Outcome P) :=
  match d.tickets[n]? with
  | none => none
  | some t => match t.outcome with
    | some outcome => some outcome
    | none => if held || d.keeps n then none else some (.error .closed)

def timerAt? (d : Desk P) (index : Nat) : Option Timer := d.timers.find? (·.index = index)

def expire (d : Desk P) (t : Timer) : Desk P :=
  match d.registry.find? t.id t.index with
  | none => d.log (.timerMissed t.id)
  | some s =>
    let elapsed := d.now - s.registeredAt
    ((d.cancelTimer s).log (.timedOut s.id elapsed)).settle s
      (.error (.readTimeout s.id ⟨elapsed⟩))

/-- When the sleep of a timer began; one that is still to begin would begin now. -/
def asleepSince (d : Desk P) (index : Nat) : Time := (d.naps index).getD d.now

def dueAt (d : Desk P) (index : Nat) : Time := Agenda.dueAfter (d.asleepSince index) d.readTimeout

/-- A sleep that has begun goes on. -/
def doze (d : Desk P) (index : Nat) : Desk P :=
  let since := d.asleepSince index
  let naps := d.naps
  { d with naps := fun i ↦ if i = index then some since else naps i }

/-- What the task of a timer does when it runs: it fires, or sleeps until the timer is due. -/
def runTimer (d : Desk P) (index : Nat) : Desk P :=
  match d.timerAt? index with
  | none => d
  | some t =>
    if d.dueAt index ≤ d.now then d.expire t
    else { d.doze index with agenda := d.agenda.sleepUntil (d.dueAt index) (.timer index) }

def reportPending (d : Desk P) (s : Session) : Desk P :=
  d.logFor s.ticket fun t ↦ .pending s t.request (d.now - s.registeredAt)

/-- Reports the sessions that are left and takes them out; their tickets stay as they are. -/
def close (d : Desk P) : Desk P :=
  let left := d.registry.entries
  let d := { d with closed := true }
  let d := if left.isEmpty then d
    else left.foldl reportPending (d.log (.registryClosed left.length))
  { left.foldl cancelTimer d with registry := {} }

end Desk

end GameServers
