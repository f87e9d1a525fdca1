import GameServers.Proofs.Desk
import GameServers.Transport

namespace GameServers

variable {P : Protocol}

namespace Switchboard

def deliveries (b : Switchboard P) : List (Delivery P) := b.signals.filterMap Signal.delivery?

variable (b : Switchboard P) (c r : Nat)

@[simp] theorem deliveries_remark (level : Level) (text : String) :
    (b.remark level text).deliveries = b.deliveries := by
  simp [deliveries, remark, emit, Signal.delivery?]

@[simp] theorem deliveries_modify (f : Channel P → Channel P) :
    (b.modify c f).deliveries = b.deliveries := rfl

@[simp] theorem deliveries_shut : (b.shut c).deliveries = b.deliveries := rfl

theorem deliveries_bind {b b' : Switchboard P} {a : SocketAddress} (h : b.bind a = .ok b') :
    b'.deliveries = b.deliveries := by
  unfold bind at h
  split at h
  · cases h
  · obtain rfl := Except.ok.inj h
    exact deliveries_remark { b with net := _ } .trace _

theorem deliveries_dial {b b' : Switchboard P} {a : SocketAddress} (h : b.dial a = .ok b') :
    b'.deliveries = b.deliveries := by
  unfold dial at h
  split at h
  · cases h
  · obtain rfl := Except.ok.inj h
    rfl

@[simp] theorem deliveries_addStream (connection : Nat) (peer : SocketAddress) :
    (b.addStream connection peer).deliveries = b.deliveries := deliveries_remark b .trace _

@[simp] theorem deliveries_abortReader : (b.abortReader c).deliveries = b.deliveries := by
  simp only [abortReader]
  split
  · rfl
  · split <;> rfl

@[simp] theorem deliveries_attachOwn : (b.attachOwn c).deliveries = b.deliveries := by
  unfold attachOwn
  split
  · exact b.deliveries_abortReader c
  · rfl

theorem deliveries_noteWrite (bytes : Bytes) (x : Switchboard P × Except Failure Unit) :
    (noteWrite c bytes x).1.deliveries = x.1.deliveries := by
  unfold noteWrite
  split
  · exact deliveries_remark _ .trace _
  · rfl

@[simp] theorem deliveries_write (origin : Origin P) (bytes : Bytes) :
    (b.write c origin bytes).1.deliveries = b.deliveries := by
  unfold write
  split
  · rfl
  · split
    · rfl
    · split
      · rw [deliveries_noteWrite]
        unfold writeDatagram
        split
        · rfl
        · split <;> rfl
      · rw [deliveries_noteWrite]
        simp only [writeStream]
        split <;> rfl

@[simp] theorem deliveries_closeAll (cs : List Nat) : (b.closeAll cs).deliveries = b.deliveries :=
  foldl_keeps deliveries (fun b c ↦ (b.shut c).deliveries_abortReader c) cs b

variable {κ : Type} (reserve : Reserve κ) (key : κ)

@[simp] theorem deliveries_putBack : (b.putBack reserve key c).1.deliveries = b.deliveries := by
  simp only [putBack]
  split
  · rfl
  · exact b.deliveries_remark .debug _

@[simp] theorem deliveries_closeReserve : (b.closeReserve reserve).deliveries = b.deliveries := by
  simp only [closeReserve, deliveries_closeAll]
  split
  · rfl
  · exact b.deliveries_remark .debug _

@[simp] theorem deliveries_takeFrom [DecidableEq κ] :
    (b.takeFrom reserve key).1.deliveries = b.deliveries := by
  have hd (cs : List Nat) : (cs.foldl (fun b c ↦
      b.remark .debug ("dropping dead channel " ++ b.channelText c)) b).deliveries = b.deliveries :=
    foldl_keeps deliveries (fun b c ↦ b.deliveries_remark .debug _) cs b
  simp only [takeFrom]
  split
  · exact (deliveries_remark _ .trace _).trans (hd _)
  · exact hd _

end Switchboard

namespace Transport

variable (t : Transport P) (n c : Nat) (e : Errand P) (request : P.Request)

@[simp] theorem deliveries_welcome : t.welcome.board.deliveries = t.board.deliveries :=
  t.board.deliveries_attachOwn _

@[simp] theorem deliveries_keep : (t.keep request c).board.deliveries = t.board.deliveries := by
  unfold keep
  split
  · rfl
  · exact t.board.deliveries_remark .trace _
  · rfl
  · rfl

@[simp] theorem deliveries_giveBack :
    (t.giveBack request c).board.deliveries = t.board.deliveries := by
  unfold giveBack
  split
  · next reserve _ => exact t.board.deliveries_putBack c reserve (P.requestKind request)
  · next reserve _ =>
    split
    · next server _ =>
      exact (Switchboard.deliveries_putBack _ c reserve server).trans
        (t.board.deliveries_remark .trace _)
    · rfl
  · rfl

@[simp] theorem deliveries_writeOut : (t.writeOut n e c).board.deliveries = t.board.deliveries :=
  (deliveries_giveBack _ c e.origin.request).trans (t.board.deliveries_write c e.origin e.bytes)

@[simp] theorem deliveries_hold : (t.hold n e c).board.deliveries = t.board.deliveries := by
  simp only [hold]
  split
  · exact deliveries_writeOut (t.see (.acquired c)) n c e
  · rfl

@[simp] theorem deliveries_bindFor : (t.bindFor n e).board.deliveries = t.board.deliveries := by
  unfold bindFor
  split
  · rfl
  · next board hb =>
    rw [deliveries_hold, deliveries_keep, deliveries_welcome]
    exact Switchboard.deliveries_bind hb

@[simp] theorem deliveries_dialFor (server : SocketAddress) :
    (t.dialFor n e server).board.deliveries = t.board.deliveries := by
  unfold dialFor
  split
  · rfl
  · next board hb => exact Switchboard.deliveries_dial hb

theorem deliveries_dispatch : (t.dispatch n e).board.deliveries = t.board.deliveries := by
  simp only [dispatch]
  split
  · exact t.deliveries_hold n _ e
  · exact t.deliveries_bindFor n e
  · next reserve _ =>
    have ht := t.board.deliveries_takeFrom reserve (P.requestKind e.origin.request)
    split
    · exact (deliveries_hold _ n _ e).trans ht
    · exact (deliveries_bindFor _ n e).trans ht
  · exact t.deliveries_dialFor n e _
  · next reserve server _ _ =>
    have ht := t.board.deliveries_takeFrom reserve server
    split
    · exact (deliveries_hold _ n _ e).trans ht
    · rw [deliveries_dialFor]
      exact (Switchboard.deliveries_remark _ .debug _).trans ht
  · rfl

theorem deliveries_begin (origin : Origin P) :
    (t.begin n origin).board.deliveries = t.board.deliveries := by
  simp only [begin]
  split
  · rfl
  · split
    · rfl
    · exact t.deliveries_dispatch n _

theorem deliveries_resume : (t.resume n).board.deliveries = t.board.deliveries := by
  unfold resume
  split
  · split
    · next connection server _ =>
      rw [deliveries_hold, deliveries_keep, deliveries_welcome]
      exact t.board.deliveries_addStream connection server
    · exact t.deliveries_writeOut n _ _
    · rfl
  · rfl

theorem deliveries_close : t.close.board.deliveries = t.board.deliveries := by
  unfold close
  split
  · exact t.board.deliveries_closeAll _
  · next reserve _ => exact t.board.deliveries_closeReserve reserve
  · next reserve _ => exact t.board.deliveries_closeReserve reserve
  · next reserve _ => exact t.board.deliveries_closeReserve reserve

end Transport

end GameServers
