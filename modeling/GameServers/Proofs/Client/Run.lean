import GameServers.Client
import GameServers.Proofs.Courier.Run

namespace GameServers.World

variable {c : Client}

/-- What can happen to a client. -/
inductive Act (c : Client)
  | start (call : c.Call)
  | close
  | task (t : Task)
  /-- Something comes from a channel. -/
  | signal (s : Signal c.P)
  /-- The transport takes its turn. -/
  | turn
  | network (net : Network)
  | clock (time : Time)
  | schedule (agenda : Agenda)

def takeTurn (w : World c) : World c :=
  let (transport, tasks) := w.transport.turn
  { w with transport }.mapCourier fun m ↦ tasks.foldl Courier.wake m

def act (w : World c) : Act c → World c
  | .start call => w.start call
  | .close => w.startClose
  | .task t => runTask t w
  | .signal s => w.hear s
  | .turn => w.takeTurn
  | .network net => w.setNet net
  | .clock time => clockwork.setNow (max w.now time) w
  | .schedule agenda => clockwork.setAgenda agenda w

def perform (w : World c) (as : List (Act c)) : World c := as.foldl act w

/-- Calls are as before, and the courier has gone on. -/
def Follows (w w' : World c) : Prop := w.courier.Runs w'.courier ∧ w'.calls = w.calls

namespace Follows

variable {w w' w'' : World c}

theorem refl (w : World c) : w.Follows w := ⟨.refl _, rfl⟩

theorem trans (h : w.Follows w') (h' : w'.Follows w'') : w.Follows w'' :=
  ⟨h.1.trans h'.1, h'.2.trans h.2⟩

theorem foldl {α : Type} {f : World c → α → World c} (h : ∀ w x, Follows w (f w x)) (xs : List α)
    (w : World c) : w.Follows (xs.foldl f w) := by
  induction xs generalizing w with
  | nil => exact refl w
  | cons x xs ih => exact (h w x).trans (ih (f w x))

theorem mapCourier (w : World c) (f : Courier c.P → Courier c.P)
    (h : w.courier.Runs (f w.courier)) : w.Follows (w.mapCourier f) := ⟨h, rfl⟩

theorem act (w : World c) (a : Courier.Act c.P) : w.Follows (w.mapCourier (·.act a)) :=
  mapCourier w _ (.act w.courier a)

theorem setNet (w : World c) (net : Network) : w.Follows (w.setNet net) := ⟨.refl _, rfl⟩

theorem refresh (w : World c) : w.Follows w.refresh := by
  refine ⟨?_, rfl⟩
  have hcalls (is : List Nat) (m : Courier c.P) :
      m.Runs (is.foldl (fun m i ↦ m.wake (.call i)) m) :=
    .foldl (fun m i ↦ .wake m (.call i)) is m
  exact (hcalls _ w.courier).trans (.wakeWorker _)

theorem hear (w : World c) (s : Signal c.P) : w.Follows (w.hear s) := by
  cases s with
  | delivery x => exact (act w (.accept x)).trans (refresh _)
  | report e => exact act w (.note e)

theorem mapTransport (w : World c) (f : Transport c.P → Transport c.P) :
    w.Follows (w.mapTransport f) := by
  let board := { (f w.transport).board with signals := [] }
  have hf : Follows { w with transport := (f w.transport).withBoard board } (w.mapTransport f) :=
    foldl hear _ _
  exact .trans ⟨.refl _, rfl⟩ hf

theorem report (w : World c) (events : List (Event c.P)) : w.Follows (w.report events) :=
  ⟨.foldl (fun m e ↦ .act m (.note e)) events w.courier, rfl⟩

theorem conclude (w : World c) (write : Nat) : w.Follows (w.conclude write) := by
  unfold World.conclude
  split
  · next result _ => exact act w (.finishWrite write result)
  · exact refl w

theorem runWrite (w : World c) (write : Nat) : w.Follows (w.runWrite write) := by
  unfold World.runWrite
  split
  · split
    · exact refl w
    · exact ((act w (.startWrite write)).trans (mapTransport _ _)).trans (conclude _ _)
  · exact (mapTransport w _).trans (conclude _ _)
  · exact refl w

theorem takeTurn (w : World c) : w.Follows w.takeTurn :=
  ⟨.foldl Courier.Runs.wake _ w.courier, rfl⟩

end Follows

end GameServers.World
