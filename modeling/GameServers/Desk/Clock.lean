import GameServers.Clockwork
import GameServers.Desk

namespace GameServers.Desk

variable {P : Protocol}

def runTask (t : Task) (d : Desk P) : Desk P :=
  match t with
  | .timer index => d.runTimer index
  | _ => d

def clockwork : Clockwork (Desk P) where
  agenda := Desk.agenda
  setAgenda a d := { d with agenda := a }
  setNow t d := { d with now := t }
  run := runTask

/-- Runs the timers that are ready; a timer never makes another task ready. -/
def settleDown (d : Desk P) : Desk P := clockwork.drain d.agenda.ready.length d

/-- Lets time pass; a timer that fires sets no alarm. -/
def sleep (d : Desk P) (length : Time) : Desk P :=
  clockwork.advance settleDown (d.agenda.alarms.length + 1) (Agenda.dueAfter d.now length) d

end GameServers.Desk
