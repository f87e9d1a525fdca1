import GameServers.Agenda

namespace GameServers

/-- The clock stands still while tasks run. It jumps when none is ready: to the next alarm, or past
alarms that then ring late. -/
structure Clockwork (σ : Type) where
  agenda : σ → Agenda
  setAgenda : Agenda → σ → σ
  setNow : Time → σ → σ
  run : Task → σ → σ

namespace Clockwork

variable {σ : Type} (c : Clockwork σ)

/-- Runs ready tasks until none is left, at most `fuel` of them. -/
def drain : Nat → σ → σ
  | 0, s => s
  | fuel + 1, s =>
    let a := c.agenda s
    match a.ready with
    | [] => s
    | t :: rest => drain fuel (c.run t (c.setAgenda { a with ready := rest } s))

def jump (time : Time) (s : σ) : σ :=
  c.setAgenda ((c.agenda s).ring time) (c.setNow time s)

/-- Jumps from alarm to alarm up to a time, at most `fuel` times, and settles after each jump. -/
def advance (settle : σ → σ) : Nat → Time → σ → σ
  | 0, time, s => c.setNow time s
  | fuel + 1, time, s => match (c.agenda s).nextDue? time with
    | none => c.setNow time s
    | some due => advance settle fuel time (settle (c.jump due s))

/-- Lets time pass up to a time after now, and wakes what is due at that very time without running
it. -/
def sleepTo (settle : σ → σ) (fuel : Nat) (time : Time) (s : σ) : σ :=
  c.jump time (c.advance settle fuel (time - 1) s)

end Clockwork

end GameServers
