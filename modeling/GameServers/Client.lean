import GameServers.Clockwork
import GameServers.Transport

namespace GameServers

inductive Turn (P : Protocol) (Pending Result : Type)
  | ask (request : P.Request) (pending : Pending)
  | answer (result : Result)

structure Move (P : Protocol) (State Pending Result : Type) where
  state : State
  events : List (Event P) := []
  turn : Turn P Pending Result

structure Client where
  P : Protocol
  State : Type
  Call : Type
  /-- A call that waits for an answer. -/
  Pending : Type
  Result : Type
  begin : Network → Call → State → Move P State Pending Result
  resume : Pending → Outcome P → State → Move P State Pending Result
  /-- Closing the client makes it forget. -/
  forget : State → State
  /-- How often a call asks at most when nobody answers. -/
  patience : State → Nat

inductive CallState (c : Client)
  | waiting (ticket : Except Failure Nat) (pending : c.Pending)
  | over (result : c.Result)
  /-- Waits for the worker to stop. -/
  | closing
  | closed

/-- The calls of one client over a courier, a transport and the network. Each call sends requests
one after another until it has its result. -/
structure World (c : Client) where
  courier : Courier c.P
  transport : Transport c.P
  state : c.State
  calls : List (CallState c) := []

namespace World

variable {c : Client}

def mapCourier (w : World c) (f : Courier c.P → Courier c.P) : World c :=
  { w with courier := f w.courier }

def now (w : World c) : Time := w.courier.desk.now

def net (w : World c) : Network := w.transport.board.net

def setNet (w : World c) (net : Network) : World c :=
  { w with transport := w.transport.withBoard { w.transport.board with net } }

def setCall (w : World c) (i : Nat) (s : CallState c) : World c :=
  { w with calls := w.calls.set i s }

def report (w : World c) (events : List (Event c.P)) : World c :=
  w.mapCourier fun m ↦ events.foldl Courier.log m

def canResume (w : World c) (i : Nat) : Bool :=
  match w.calls[i]? with
  | some (.waiting ticket _) => (w.courier.outcomeOf? ticket).isSome
  | some .closing => w.courier.worker = .stopped
  | _ => false

/-- Wakes the calls that can go on, and then the worker if it can. -/
def refresh (w : World c) : World c :=
  let calls := (List.range w.calls.length).filter w.canResume
  w.mapCourier fun m ↦ (calls.foldl (fun m i ↦ m.wake (.call i)) m).wakeWorker

def hear (w : World c) : Signal c.P → World c
  | .delivery x => (w.mapCourier (·.accept x)).refresh
  | .report e => w.mapCourier (·.log e)

def mapTransport (w : World c) (f : Transport c.P → Transport c.P) : World c :=
  let transport := f w.transport
  let board := { transport.board with signals := [] }
  transport.board.signals.foldl hear { w with transport := transport.withBoard board }

def make (w : World c) (i : Nat) (move : Move c.P c.State c.Pending c.Result) : World c :=
  let w := { w with state := move.state }.report move.events
  match move.turn with
  | .answer result => w.setCall i (.over result)
  | .ask request pending =>
    let (m, ticket) := w.courier.send request true
    { w with courier := m }.setCall i (.waiting ticket pending)

def addCall (w : World c) (s : CallState c) : World c := { w with calls := w.calls ++ [s] }

def start (w : World c) (call : c.Call) : World c :=
  ((w.addCall .closed).make w.calls.length (c.begin w.net call w.state)).refresh

/-- The rest of closing, once the worker has stopped. -/
def endClose (w : World c) (i : Nat) : World c :=
  let w := (w.mapCourier Courier.closeRegistry).mapTransport Transport.close
  (w.mapCourier Courier.endClose).setCall i .closed

def startClose (w : World c) : World c :=
  let i := w.calls.length
  let w := { w with state := c.forget w.state }
  if w.courier.isClosed then w.addCall .closed
  else
    let w := (w.addCall .closing).mapCourier Courier.beginClose
    let w :=
      if w.courier.worker = .stopped then w.endClose i
      else if w.courier.config.shutdownTimeout = 0 then
        (w.mapCourier Courier.abortWorker).endClose i
      else w
    w.refresh

def resumeCall (w : World c) (i : Nat) : World c :=
  match w.calls[i]? with
  | some (.waiting ticket pending) => match w.courier.outcomeOf? ticket with
    | some outcome => w.make i (c.resume pending outcome w.state)
    | none => w
  | some .closing => if w.courier.worker = .stopped then w.endClose i else w
  | _ => w

def isOver : CallState c → Bool
  | .over _ | .closed => true
  | _ => false

def originOf? (w : World c) (write : Nat) : Option (Origin c.P) :=
  match w.courier.writes[write]? with
  | none => none
  | some x => match w.courier.desk.tickets[x.ticket]? with
    | none => none
    | some t => some ⟨some x.ticket, t.request⟩

def conclude (w : World c) (write : Nat) : World c :=
  match w.transport.result? write with
  | some result => w.mapCourier (·.finishWrite write result)
  | none => w

def runWrite (w : World c) (write : Nat) : World c :=
  match w.courier.writes[write]? with
  | some ⟨_, .spawned⟩ => match w.originOf? write with
    | none => w
    | some origin =>
      ((w.mapCourier (·.startWrite write)).mapTransport (·.begin write origin)).conclude write
  | some ⟨_, .started⟩ => (w.mapTransport (·.resume write)).conclude write
  | _ => w

def runReader (w : World c) (r : Nat) : World c :=
  w.mapTransport fun t ↦ t.withBoard (t.board.runReader r)

def runTask (t : Task) (w : World c) : World c :=
  refresh (match t with
    | .worker => w.mapCourier Courier.runWorker
    | .timer index => w.mapCourier fun m ↦ m.mapDesk (·.runTimer index)
    | .write n => w.runWrite n
    | .reader r => w.runReader r
    | .call i => w.resumeCall i
    | .attend a => w.setNet (w.net.attend a))

def clockwork : Clockwork (World c) where
  agenda w := w.courier.desk.agenda
  setAgenda a w := w.mapCourier fun m ↦ m.mapDesk ({ · with agenda := a })
  setNow t w := w.mapCourier fun m ↦ m.mapDesk ({ · with now := t })
  run := runTask

/-- More rounds, and more tasks in a round, than the work at hand can need. -/
def fuel (w : World c) : Nat :=
  let m := w.courier
  16 * (m.desk.agenda.ready.length + m.queue.length + m.desk.agenda.alarms.length +
    m.writes.length + w.calls.length + m.config.maxWriteRetries + c.patience w.state +
    w.transport.board.readers.length + w.net.actionsLeft + 8)

/-- All tasks run and the network takes a turn, until nothing is ready. -/
def settleFor (w : World c) : Nat → World c
  | 0 => w
  | fuel + 1 =>
    let w := clockwork.drain w.fuel w
    let (transport, tasks) := w.transport.turn
    let w := { w with transport }.mapCourier fun m ↦ tasks.foldl Courier.wake m
    if w.courier.desk.agenda.ready.isEmpty then w else w.settleFor fuel

def settle (w : World c) : World c := w.settleFor w.fuel

/-- What happens next when all is quiet: servers go on with their jobs, or let the clock jump; else
the clock moves to the next alarm, as long as a call waits for something. -/
def next? (w : World c) : Option (World c) :=
  match w.net.readyJobs, w.net.jobs with
  | [], [] =>
    if w.calls.all isOver then none
    else (w.courier.desk.agenda.alarms.map Alarm.due).min?.map fun time ↦ clockwork.jump time w
  | [], j :: _ => some (clockwork.jump (w.now + j.lapse) (w.setNet (w.net.passLapse j)))
  | jobs, _ => some (w.setNet (w.net.resume jobs))

def runFor (w : World c) : Nat → World c
  | 0 => w.settle
  | fuel + 1 =>
    let w := w.settle
    match w.next? with
    | none => w
    | some w => w.runFor fuel

/-- Runs until all calls are over and the servers have nothing left to do. -/
def run (w : World c) : World c :=
  let patience := c.patience w.state + 4
  let requests := (w.calls.length + 1) * patience + w.net.actionsLeft
  w.runFor (4 * patience * (requests + w.courier.desk.agenda.alarms.length + 4))

end World

end GameServers
