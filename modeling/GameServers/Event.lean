import GameServers.Courier.Config
import GameServers.Registry
import GameServers.Ticket

namespace GameServers

inductive Level
  | error
  | warn
  | info
  | debug
  | trace
  deriving DecidableEq, Repr

namespace Level

def rank : Level → Nat
  | error => 0
  | warn => 1
  | info => 2
  | debug => 3
  | trace => 4

def text : Level → String
  | error => "ERROR"
  | warn => "WARN"
  | info => "INFO"
  | debug => "DEBUG"
  | trace => "TRACE"

end Level

inductive Event (P : Protocol)
  | moved (request : P.Request) (before after : Status)
  | registering (id : SessionId) (index : Nat)
  | unregistered (id : SessionId) (index : Nat)
  | timedOut (id : SessionId) (elapsed : Time)
  /-- A timer found no session. -/
  | timerMissed (id : SessionId)
  | registryClosed (pending : Nat)
  /-- A session that was registered when the registry closed. -/
  | pending (session : Session) (request : P.Request) (age : Time)
  | queued (request : P.Request)
  | queueFull (request : P.Request)
  | workerStarted (mode : Mode)
  | workerStopping
  | workerAborted (timeout : Time)
  | orphans (count : Nat)
  /-- A request that was in the queue when the worker stopped. -/
  | orphaned (number : Nat) (ticket : Ticket P) (now : Time)
  | closing
  | transportStalled (timeout : Time)
  | matched (id : SessionId) (index : Nat)
  | unmatched (response : P.Response)
  | uncorrelated (response : P.Response) (failure : Failure)
  | routed (id : SessionId) (failure : Failure)
  | unrouted (request : P.Request) (failure : Failure)
  | untied (failure : Failure)
  | skipped (request : P.Request) (status : Status)
  | unregistrable (request : P.Request) (failure : Failure)
  | written (request : P.Request)
  | settled (request : P.Request)
  /-- An answer came before its request was written. -/
  | settledEarly (request : P.Request)
  | retrying (request : P.Request) (failure : Failure) (attempt limit : Nat)
  | notRequeued (request : P.Request) (failure : Failure)
  | notSent (request : P.Request) (failure : Failure)
  | remark (level : Level) (text : String)
  /-- A caller hears of a server. This is no matter for a log. -/
  | heard (server : Endpoint)

namespace Event

variable {P : Protocol}

def level? : Event P → Option Level
  | moved .. | written .. | settled .. => some .trace
  | registryClosed .. | pending .. | workerAborted .. | orphans .. | orphaned ..
  | transportStalled .. | untied .. => some .warn
  | closing => some .info
  | unregistrable .. | notRequeued .. | notSent .. => some .error
  | remark level _ => some level
  | heard _ => none
  | _ => some .debug

def timeText (t : Time) : String := (Duration.mk t).describe

def sessionText (s : Session) (request : P.Request) (age : Time) : String :=
  Text.record "SessionValue"
    [("id", s.id.describe), ("index", Nat.repr s.index), ("request", P.requestText request),
     ("registered", timeText age)]

def text : Event P → String
  | moved request before after =>
    "request " ++ P.requestText request ++ ": " ++ before.describe ++ " -> " ++ after.describe
  | registering id index =>
    "registering session with id '" ++ id.text ++ "' (index: " ++ Nat.repr index ++ ")"
  | unregistered id index =>
    "unregistered session '" ++ id.text ++ "' (index: " ++ Nat.repr index ++ ")"
  | timedOut id elapsed =>
    "timeout occurred for session '" ++ id.text ++ "' after " ++ timeText elapsed
  | timerMissed id => "timer fired for '" ++ id.text ++ "' but the session is already gone"
  | registryClosed count =>
    "session manager closed with " ++ Nat.repr count ++ " pending session(s)"
  | pending session request age => "\tpending: " ++ sessionText session request age
  | queued request => "queued request " ++ P.requestText request
  | queueFull request => "queue full, rejecting request " ++ P.requestText request
  | workerStarted mode => "starting dispatch worker (" ++ mode.describe ++ ")"
  | workerStopping => "dispatch worker stopping"
  | workerAborted timeout =>
    "dispatch worker did not stop within " ++ timeText timeout ++ ", aborting it"
  | orphans count => Nat.repr count ++ " request(s) left in the queue"
  | orphaned _ ticket now => "\torphaned: " ++ ticket.describe now
  | closing => "closing messenger"
  | transportStalled timeout => "transport did not close within " ++ timeText timeout
  | matched id index =>
    "matched response with session '" ++ id.text ++ "' (index: " ++ Nat.repr index ++ ")"
  | unmatched response =>
    "no session found for response " ++ P.responseText response ++ ", discarding"
  | uncorrelated response failure =>
    "cannot correlate response " ++ P.responseText response ++ ": " ++ failure.message
  | routed id failure => "routing error to session '" ++ id.text ++ "': " ++ failure.message
  | unrouted request failure =>
    "request " ++ P.requestText request ++ " is no longer pending, dropping error: " ++
      failure.message
  | untied failure => "discarding error not tied to any request: " ++ failure.message
  | skipped request status =>
    "skipping request " ++ P.requestText request ++ " (" ++ status.describe ++ ")"
  | unregistrable request failure =>
    "cannot register request " ++ P.requestText request ++ ": " ++ failure.message
  | written request => "request " ++ P.requestText request ++ " written"
  | settled request => "request " ++ P.requestText request ++ " settled"
  | settledEarly request =>
    "request " ++ P.requestText request ++ " settled before its write finished"
  | retrying request failure attempt limit =>
    "write of " ++ P.requestText request ++ " failed (" ++ failure.message ++ "), retry " ++
      Nat.repr attempt ++ "/" ++ Nat.repr limit
  | notRequeued request failure =>
    "cannot requeue " ++ P.requestText request ++ " for retry: " ++ failure.message
  | notSent request failure =>
    "failed to send request " ++ P.requestText request ++ ": " ++ failure.message
  | remark _ text => text
  | heard server => server.text

def logLine? (detail : Level) (e : Event P) : Option (Level × String) :=
  match e.level? with
  | some level => if level.rank ≤ detail.rank then some (level, e.text) else none
  | none => none

end Event

end GameServers
