import GameServers.Network

namespace GameServers

/-- Servers and their clients together, where no time passes. -/
structure Stage (σ : Type) where
  net : σ → Network
  setNet : Network → σ → σ
  /-- What clients and servers do about the news, in order. -/
  turn : σ → σ × List Task
  run : Task → σ → σ

namespace Stage

variable {σ : Type} (stage : Stage σ)

def runTask (s : σ) : Task → σ
  | .attend a => stage.setNet ((stage.net s).attend a) s
  | t => stage.run t s

def playFor : Nat → σ → σ
  | 0, s => s
  | fuel + 1, s =>
    let (s, tasks) := stage.turn s
    let net := stage.net s
    if !tasks.isEmpty then playFor fuel (tasks.foldl stage.runTask s)
    else if net.jobs.isEmpty then s
    else playFor fuel (stage.setNet (net.resume net.jobs) s)

/-- A request takes a few turns, and each pause of a server a few more. -/
def play (s : σ) : σ := stage.playFor (4 * (stage.net s).actionsLeft + 16) s

end Stage

end GameServers
