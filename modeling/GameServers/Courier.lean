import GameServers.Desk

namespace GameServers

/-- What the worker waits for. -/
inductive Worker
  /-- The first request. -/
  | unstarted
  /-- The next request in the queue. -/
  | waiting
  /-- The end of a write. Only in synchronous mode. -/
  | writing (write : Nat)
  /-- The outcome of a ticket. Only in synchronous mode. -/
  | settling (ticket : Nat)
  /-- Nothing: it was given up, and goes when it would run next. It keeps the ticket that it was at
  until then. -/
  | givenUp (ticket : Option Nat)
  | stopped
  deriving DecidableEq, Repr

inductive WriteState
  | spawned
  /-- The transport has the request. -/
  | started
  /-- The transport has answered; `written` says whether an answer to the request can come. -/
  | finished (written : Bool)
  | aborted
  deriving DecidableEq, Repr

/-- One attempt to hand a request to the transport. -/
structure Write where
  session : Session
  state : WriteState
  deriving DecidableEq, Repr

namespace Write

def ticket (w : Write) : Nat := w.session.ticket

def setState (w : Write) (state : WriteState) : Write := { w with state }

def isLive (w : Write) : Bool :=
  match w.state with
  | .spawned | .started => true
  | _ => false

end Write

inductive Phase
  | running
  /-- The worker was told to stop. -/
  | stopping
  /-- The registry is closed, and the transport was told to close. -/
  | closing
  | closed
  deriving DecidableEq, Repr

/-- The engine that pairs requests with answers: a bounded queue, a worker that takes requests off
it and registers them, and writes that hand them to a transport. Every operation below is what the
program does between two points where a task gives way. On one thread nothing comes in between, and
the operations may come in any order; on several threads the parts of two of them may mix, which is
not described here. -/
structure Courier (P : Protocol) where
  config : Config
  desk : Desk P
  /-- Numbers of tickets. -/
  queue : List Nat := []
  worker : Worker := .unstarted
  /-- All attempts ever made, by number. -/
  writes : List Write := []
  shutdown : Bool := false
  phase : Phase := .running

/-- The request that a failure is about. An equal request that is not this ticket's does not
count. -/
structure Origin (P : Protocol) where
  ticket : Option Nat
  request : P.Request

/-- What reaches the courier from a channel. -/
abbrev Delivery (P : Protocol) := Except (Rejection (Origin P)) P.Response

namespace Courier

variable {P : Protocol}

def make (config : Config) : Courier P :=
  { config, desk := { readTimeout := config.readTimeout } }

def mapDesk (m : Courier P) (f : Desk P → Desk P) : Courier P := { m with desk := f m.desk }

def log (m : Courier P) (e : Event P) : Courier P := m.mapDesk (·.log e)

def wake (m : Courier P) (t : Task) : Courier P := m.mapDesk (·.wake t)

def isClosed (m : Courier P) : Bool := m.phase ≠ .running

def capacity (m : Courier P) : Nat := max 1 m.config.queueCapacity

def queueOpen (m : Courier P) : Bool := m.worker ≠ .stopped

def queueHasRoom (m : Courier P) : Bool := m.queue.length < m.capacity

def refusal? (m : Courier P) (runtime : Bool) : Option Failure :=
  if m.isClosed then some .closed
  else if m.worker = .unstarted && !m.config.ownRuntime && !runtime then some .noRuntime
  else if !m.queueOpen then some .closed
  else if !m.queueHasRoom then some (.queueFull m.config.queueCapacity)
  else none

def setWorker (m : Courier P) (worker : Worker) : Courier P := { m with worker }

def startWorker (m : Courier P) : Courier P :=
  if m.worker = .unstarted then
    ((m.setWorker .waiting).log (.workerStarted m.config.mode)).wake .worker
  else m

def enqueue (m : Courier P) (request : P.Request) : Courier P :=
  let n := m.desk.tickets.length
  let m := m.startWorker.mapDesk (·.issue request)
  let m := { m with queue := m.queue ++ [n] }
  m.log (.queued request)

/-- The number of the ticket, or why there is none. -/
def send (m : Courier P) (request : P.Request) (runtime : Bool) :
    Courier P × Except Failure Nat :=
  match m.refusal? runtime with
  | none => (m.enqueue request, .ok m.desk.tickets.length)
  | some e =>
    let m := match e with
      | .queueFull _ => m.log (.queueFull request)
      | _ => m
    (m, .error e)

/-- Settles the ticket that a delivery belongs to. What belongs to none is reported and dropped. -/
def correlate (d : Desk P) : Delivery P → Desk P
  | .ok r =>
    match d.sessionFor (.response r) with
    | .ok (some s) => (d.log (.matched s.id s.index)).settle s (.ok r)
    | .ok none => d.log (.unmatched r)
    | .error e => d.log (.uncorrelated r e)
  | .error ⟨some origin, e⟩ =>
    match origin.ticket.bind d.sessionOf? with
    | some s => (d.log (.routed s.id e)).settle s (.error e)
    | none => d.log (.unrouted origin.request e)
  | .error ⟨none, e⟩ => d.log (.untied e)

def accept (m : Courier P) (x : Delivery P) : Courier P := m.mapDesk (correlate · x)

def reportOrphan (m : Courier P) (n : Nat) : Courier P :=
  m.mapDesk fun d ↦ d.logFor n fun t ↦ .orphaned n t d.now

def reportOrphans (m : Courier P) : Courier P :=
  let left := m.queue
  let m := { m with queue := [] }
  if left.isEmpty then m
  else left.foldl reportOrphan (m.log (.orphans left.length))

def stop (m : Courier P) : Courier P :=
  ((m.log .workerStopping).setWorker .stopped).reportOrphans

def setWrite (m : Courier P) (w : Nat) (state : WriteState) : Courier P :=
  { m with writes := m.writes.modify w (·.setState state) }

/-- A write that has come to its end cannot be aborted any more. -/
def abortWrite (m : Courier P) (w : Nat) : Courier P :=
  match m.writes[w]? with
  | some x => if x.isLive then m.setWrite w .aborted else m
  | none => m

def spawnWrite (m : Courier P) (s : Session) : Courier P :=
  let w := m.writes.length
  let m := { m with writes := m.writes ++ [Write.mk s .spawned] }
  let m := if m.config.mode = .synchronous then m.setWorker (.writing w) else m
  m.wake (.write w)

def takeUp (m : Courier P) (n : Nat) : Courier P :=
  if m.desk.canAdvance n .accepted then
    let m := m.mapDesk (·.advance n .accepted)
    match m.desk.create n true with
    | (d, .ok s) => ({ m with desk := d.advance n .await }).spawnWrite s
    | (d, .error e) =>
      { m with desk := (d.logFor n fun t ↦ .unregistrable t.request e).complete n (.error e) }
  else m.mapDesk fun d ↦ d.logFor n fun t ↦ .skipped t.request t.status

def writeTicket (m : Courier P) (w : Nat) : Nat :=
  match m.writes[w]? with
  | some x => x.ticket
  | none => 0

def writeResult? (m : Courier P) (w : Nat) : Option Bool :=
  match m.writes[w]? with
  | some ⟨_, .finished written⟩ => some written
  | _ => none

def canWork (m : Courier P) : Bool :=
  match m.worker with
  | .waiting => m.shutdown || !m.queue.isEmpty
  | .writing w => m.shutdown || m.desk.isDone (m.writeTicket w) || (m.writeResult? w).isSome
  | .settling n => m.shutdown || m.desk.isDone n
  | .givenUp _ => true
  | _ => false

/-- One step of the worker. Being told to stop comes first, then the outcome of the request at
hand, then the end of its write. A write whose task panics, and so ends with no result at all, is
left out; the worker would go on as after a write that failed. -/
def work (m : Courier P) : Courier P :=
  match m.worker with
  | .waiting =>
    if m.shutdown then m.stop
    else match m.queue with
      | [] => m
      | n :: rest => let m := { m with queue := rest }; m.takeUp n
  | .writing w =>
    let n := m.writeTicket w
    if m.shutdown then (m.abortWrite w).stop
    else if m.desk.isDone n then
      (m.setWorker .waiting).mapDesk (·.logFor n fun t ↦ .settledEarly t.request)
    else match m.writeResult? w with
      | none => m
      | some written => m.setWorker (if written then .settling n else .waiting)
  | .settling n =>
    if m.shutdown then m.stop
    else if m.desk.isDone n then
      (m.setWorker .waiting).mapDesk (·.logFor n fun t ↦ .settled t.request)
    else m
  | .givenUp _ => { m with worker := .stopped, queue := [] }
  | _ => m

def workFor (m : Courier P) : Nat → Courier P
  | 0 => m
  | fuel + 1 => if m.canWork then m.work.workFor fuel else m

/-- How many steps the worker takes in a row before it lets other tasks run. -/
def workBudget : Nat := 128

def runWorker (m : Courier P) : Courier P := m.workFor workBudget

def wakeWorker (m : Courier P) : Courier P := if m.canWork then m.wake .worker else m

def startWrite (m : Courier P) (w : Nat) : Courier P :=
  match m.writes[w]? with
  | some ⟨_, .spawned⟩ => m.setWrite w .started
  | _ => m

def requeue (m : Courier P) (n : Nat) (e : Failure) : Courier P :=
  if m.queueOpen && m.queueHasRoom then { m with queue := m.queue ++ [n] }
  else m.mapDesk fun d ↦
    (d.logFor n fun t ↦ .notRequeued t.request e).complete n (.error e)

def canRetry (m : Courier P) (n : Nat) : Bool :=
  match m.desk.tickets[n]? with
  | some t => t.retries < m.config.maxWriteRetries && t.status.canAdvanceTo .retry
  | none => false

def retry (m : Courier P) (s : Session) (e : Failure) : Courier P :=
  let n := s.ticket
  let m := m.mapDesk fun d ↦
    (((d.advance n .retry).modify n Ticket.incrementRetries).logFor n fun t ↦
      .retrying t.request e t.retries m.config.maxWriteRetries).delete s
  m.requeue n e

def finishWrite (m : Courier P) (w : Nat) (result : Except Failure Unit) : Courier P :=
  match m.writes[w]? with
  | some ⟨s, .started⟩ =>
    let n := s.ticket
    match result with
    | .ok () =>
      (m.mapDesk fun d ↦ (d.advance n .sent).logFor n fun t ↦ .written t.request).setWrite w
        (.finished true)
    | .error e =>
      if m.canRetry n then (m.retry s e).setWrite w (.finished false)
      else
        (m.mapDesk fun d ↦
          (d.logFor n fun t ↦ .notSent t.request e).settle s (.error e)).setWrite w
            (.finished false)
  | _ => m

/-- Tells the worker to stop; a worker that never started has nothing to stop. -/
def beginClose (m : Courier P) : Courier P :=
  if m.isClosed then m
  else
    let m := { m.log .closing with phase := .stopping, shutdown := true }
    if m.worker = .unstarted then (m.setWorker .stopped).reportOrphans else m

def workerTicket? (m : Courier P) : Option Nat :=
  match m.worker with
  | .writing w => some (m.writeTicket w)
  | .settling n => some n
  | .givenUp n => n
  | _ => none

/-- The worker is given up; its queue will go with it. -/
def abortWorker (m : Courier P) : Courier P :=
  (m.log (.workerAborted m.config.shutdownTimeout)).setWorker (.givenUp m.workerTicket?)

def closeRegistry (m : Courier P) : Courier P :=
  { m.mapDesk Desk.close with phase := .closing }

def endClose (m : Courier P) : Courier P := { m with phase := .closed }

def drop (m : Courier P) : Courier P := { m with shutdown := true }

/-- Whether the queue, a write or the worker can still settle a ticket. -/
def isHeld (m : Courier P) (n : Nat) : Bool :=
  m.queue.contains n || m.writes.any (fun w ↦ w.isLive && w.ticket = n) ||
    m.workerTicket? = some n

/-- The outcome of a ticket, if it has one. A ticket that nothing can settle any more counts as
closed. -/
def outcome? (m : Courier P) (n : Nat) : Option (Outcome P) := m.desk.outcome? (m.isHeld n) n

def outcomeOf? (m : Courier P) : Except Failure Nat → Option (Outcome P)
  | .ok n => m.outcome? n
  | .error e => some (.error e)

end Courier

end GameServers
