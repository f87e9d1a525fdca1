import GameServers.Clockwork
import GameServers.Courier

namespace GameServers

structure Plan where
  stalls : Bool := false
  delay : Option Time := none
  failure : Option Failure := none

/-- A courier over a transport that follows a script: each request takes the next plan, which says
whether and when its write ends, and how. -/
structure Rehearsal (P : Protocol) where
  courier : Courier P
  /-- For writes to come; after the last one, all go through. -/
  plans : List Plan := []
  /-- Tickets of the requests that the transport got, oldest first. -/
  sent : List Nat := []
  /-- Plans of the writes that wait for their time. -/
  delayed : List (Nat × Plan) := []
  stallsClose : Bool := false
  transportClosed : Bool := false

namespace Rehearsal

variable {P : Protocol}

def now (r : Rehearsal P) : Time := r.courier.desk.now

def mapCourier (r : Rehearsal P) (f : Courier P → Courier P) : Rehearsal P :=
  { r with courier := f r.courier }

def Plan.result (p : Plan) : Except Failure Unit :=
  match p.failure with
  | some e => .error e
  | none => .ok ()

def beginWrite (r : Rehearsal P) (w : Nat) : Rehearsal P :=
  let plan := r.plans.headD {}
  let r := { r.mapCourier (·.startWrite w) with
    plans := r.plans.tail
    sent := r.sent ++ [r.courier.writeTicket w] }
  if plan.stalls then r
  else match plan.delay.filter (0 < ·) with
    | none => r.mapCourier (·.finishWrite w (Plan.result plan))
    | some delay =>
      let due := Agenda.dueAfter r.now delay
      { r.mapCourier fun m ↦ m.mapDesk fun d ↦
          { d with agenda := d.agenda.sleepUntil due (.write w) } with
        delayed := (w, plan) :: r.delayed }

def runWrite (w : Nat) (r : Rehearsal P) : Rehearsal P :=
  match r.courier.writes[w]? with
  | some ⟨_, .spawned⟩ => r.beginWrite w
  | some ⟨_, .started⟩ => match r.delayed.lookup w with
    | some plan => r.mapCourier (·.finishWrite w (Plan.result plan))
    | none => r
  | _ => r

def runTask (t : Task) (r : Rehearsal P) : Rehearsal P :=
  let r := match t with
    | .worker => r.mapCourier Courier.runWorker
    | .timer index => r.mapCourier fun m ↦ m.mapDesk (·.runTimer index)
    | .write w => r.runWrite w
    | .reader _ | .call _ | .attend _ => r
  r.mapCourier Courier.wakeWorker

def clockwork : Clockwork (Rehearsal P) where
  agenda r := r.courier.desk.agenda
  setAgenda a r := r.mapCourier fun m ↦ m.mapDesk ({ · with agenda := a })
  setNow t r := r.mapCourier fun m ↦ m.mapDesk ({ · with now := t })
  run := runTask

/-- More tasks than can become ready before all of them wait: every write that is still to come
belongs to a request in the queue or follows a plan that fails. -/
def fuel (r : Rehearsal P) : Nat :=
  let m := r.courier
  16 * (m.desk.agenda.ready.length + m.queue.length + r.plans.length + m.desk.agenda.alarms.length +
    m.writes.length + 4)

def settleDown (r : Rehearsal P) : Rehearsal P := clockwork.drain r.fuel r

/-- Lets time pass, once all tasks wait; no time passes at once. Tasks that are due at the end have
not run yet. -/
def sleep (r : Rehearsal P) (length : Time) : Rehearsal P :=
  if length = 0 then r
  else
    let r := r.settleDown
    clockwork.sleepTo settleDown r.fuel (Agenda.dueAfter r.now length) r

def apply (r : Rehearsal P) (f : Courier P → Courier P) : Rehearsal P :=
  r.mapCourier fun m ↦ (f m).wakeWorker

def send (r : Rehearsal P) (request : P.Request) (runtime : Bool) :
    Rehearsal P × Except Failure Nat :=
  (r.apply fun m ↦ (m.send request runtime).1, (r.courier.send request runtime).2)

def waitForTransport (r : Rehearsal P) : Rehearsal P :=
  let timeout := r.courier.config.shutdownTimeout
  (r.sleep timeout).mapCourier (·.log (.transportStalled timeout))

/-- Closes the courier: first the worker, then the registry, then the transport. -/
def close (r : Rehearsal P) : Rehearsal P :=
  if r.courier.isClosed then r
  else
    let r := r.apply Courier.beginClose
    let r :=
      if r.courier.worker = .stopped then r
      else if r.courier.config.shutdownTimeout = 0 then r.apply Courier.abortWorker
      else r.settleDown
    let r := { r.mapCourier Courier.closeRegistry with transportClosed := true }
    (if r.stallsClose then r.waitForTransport else r).mapCourier Courier.endClose

end Rehearsal

end GameServers
