import GameServers.Agenda
import GameServers.Event

namespace GameServers

structure Exchange (P : Protocol) where
  ticket : Ticket P
  now : Time := 0
  /-- Newest first. -/
  journal : List (Event P) := []
  /-- Someone can still settle the ticket. -/
  ticketHeld : Bool := true
  callerWaits : Bool := true

namespace Exchange

variable {P : Protocol}

def start (request : P.Request) : Exchange P := { ticket := { request, createdAt := 0 } }

def modify (x : Exchange P) (f : Ticket P → Ticket P) : Exchange P :=
  { x with ticket := f x.ticket }

def advance (x : Exchange P) (next : Status) : Exchange P :=
  if x.ticket.status.canAdvanceTo next then
    { x.modify (·.advance next) with
      journal := .moved x.ticket.request x.ticket.status next :: x.journal }
  else x

def sleep (x : Exchange P) (length : Time) : Exchange P :=
  { x with now := Agenda.dueAfter x.now length }

def age (x : Exchange P) : Time := x.now - x.ticket.createdAt

/-- What the caller sees when it looks: nothing yet, or the outcome. A ticket that nobody holds any
more counts as closed. -/
def outcome? (x : Exchange P) : Option (Outcome P) :=
  match x.ticket.outcome with
  | some outcome => some outcome
  | none => if x.ticketHeld then none else some (.error .closed)

/-- Whether it is this call that settles the ticket. -/
def complete (x : Exchange P) (outcome : Outcome P) : Exchange P × Bool :=
  (x.modify (·.complete outcome), x.ticket.outcome.isNone)

def dropTicket (x : Exchange P) : Exchange P := { x with ticketHeld := false }

def dropCaller (x : Exchange P) : Exchange P := { x with callerWaits := false }

/-- The caller looks. One that sees the outcome takes it, and is gone. -/
def poll (x : Exchange P) : Exchange P × Option (Outcome P) :=
  if x.callerWaits then
    match x.outcome? with
    | some outcome => (x.dropCaller, some outcome)
    | none => (x, none)
  else (x, none)

end Exchange

end GameServers
