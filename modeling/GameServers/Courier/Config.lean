import GameServers.Duration

namespace GameServers

inductive Mode
  /-- One request at a time: the next one waits until the one before has settled. -/
  | synchronous
  /-- Requests are written as they come. -/
  | asynchronous
  deriving DecidableEq, Repr

def Mode.describe : Mode → String
  | synchronous => "Synchronous"
  | asynchronous => "Asynchronous"

structure Config where
  mode : Mode := .asynchronous
  queueCapacity : Nat := 30
  readTimeout : Time := .ofMillis 5000
  shutdownTimeout : Time := .ofMillis 10000
  /-- Attempts to write on top of the first one. -/
  maxWriteRetries : Nat := 0
  /-- The courier was given a runtime of its own. -/
  ownRuntime : Bool := false
  deriving DecidableEq, Repr

end GameServers
