import GameServers.Stage
import GameServers.Transport

namespace GameServers

variable {P : Protocol}

namespace Switchboard

def turn (b : Switchboard P) : Switchboard P × List Task :=
  let (net, spots) := b.net.tell
  let b := { b with net }
  (b, spots.flatMap b.tasksAt)

def stage : Stage (Switchboard P) where
  net b := b.net
  setNet net b := { b with net }
  turn := turn
  run t b := match t with
    | .reader r => b.runReader r
    | _ => b

def play (b : Switchboard P) : Switchboard P := stage.play b

def connect (b : Switchboard P) (a : SocketAddress) : Except Failure (Switchboard P) :=
  (b.dial a).map fun b ↦ b.addStream (b.net.connections.length - 1) a

end Switchboard

namespace Transport

def stage : Stage (Transport P) where
  net t := t.board.net
  setNet net t := t.withBoard { t.board with net }
  turn := turn
  run task t := match task with
    | .write n => t.resume n
    | .reader r => t.withBoard (t.board.runReader r)
    | _ => t

def play (t : Transport P) : Transport P := stage.play t

def send (t : Transport P) (request : P.Request) : Transport P × Except Failure Unit :=
  let n := t.errands.length
  let t := (t.begin n ⟨none, request⟩).play
  (t, (t.result? n).getD (.ok ()))

end Transport

end GameServers
