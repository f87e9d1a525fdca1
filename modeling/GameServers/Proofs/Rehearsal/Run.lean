import GameServers.Proofs.Courier.Closing
import GameServers.Proofs.Desk.Sleep
import GameServers.Rehearsal

namespace GameServers

variable {P : Protocol}

namespace Rehearsal

open Courier

variable {r r' r'' : Rehearsal P}

def Sorted (r : Rehearsal P) : Prop :=
  r.courier.desk.agenda.alarms.Pairwise fun x y ↦ x.due ≤ y.due

structure Timely (r : Rehearsal P) : Prop where
  sorted : r.Sorted
  ahead : ∀ x ∈ r.courier.desk.agenda.alarms, r.now ≤ x.due

structure Waits (r : Rehearsal P) : Prop extends Timely r where
  ready : r.courier.desk.agenda.ready = []

theorem Timely.congr (h : r.Timely)
    (ha : r'.courier.desk.agenda.alarms = r.courier.desk.agenda.alarms) (hn : r'.now = r.now) :
    r'.Timely :=
  ⟨by rw [Sorted, ha]; exact h.sorted, ha ▸ hn ▸ h.ahead⟩

structure Proceeds (r r' : Rehearsal P) : Prop where
  courier : r.courier.Proceeds r'.courier
  now : r'.now = r.now
  timely : r.Timely → r'.Timely

namespace Proceeds

theorem refl (r : Rehearsal P) : r.Proceeds r := ⟨.refl _, rfl, id⟩

theorem trans (h : r.Proceeds r') (h' : r'.Proceeds r'') : r.Proceeds r'' :=
  ⟨h.courier.trans h'.courier, h'.now.trans h.now, h'.timely ∘ h.timely⟩

theorem of_still (hp : r.courier.Proceeds r'.courier) (hs : r.courier.desk.Still r'.courier.desk) :
    r.Proceeds r' := ⟨hp, hs.now, fun ht ↦ ht.congr hs.alarms hs.now⟩

theorem wakeWorker (r : Rehearsal P) : r.Proceeds (r.mapCourier Courier.wakeWorker) :=
  of_still (.wakeWorker _) (still_wakeWorker _)

theorem apply {f : Courier P → Courier P} (hp : r.courier.Proceeds (f r.courier))
    (hs : r.courier.desk.Still (f r.courier).desk) : r.Proceeds (r.apply f) := by
  have hmap : r.Proceeds (r.mapCourier f) := of_still hp hs
  exact hmap.trans (wakeWorker _)

theorem finishWrite (r : Rehearsal P) (w : Nat) (result : Except Failure Unit) :
    r.Proceeds (r.mapCourier (·.finishWrite w result)) :=
  of_still (.act _ (.finishWrite w result) (by simp)) (still_finishWrite _ w result)

theorem sleepUntil (r : Rehearsal P) {due : Time} (hd : r.now ≤ due) (t : Task) :
    r.Proceeds (r.mapCourier fun m ↦ m.mapDesk fun d ↦
      { d with agenda := d.agenda.sleepUntil due t }) := by
  refine ⟨.schedule r.courier _, rfl, fun ht ↦ ⟨?_, fun x hx ↦ ?_⟩⟩
  · exact Agenda.pairwise_insertAlarm ht.sorted
  · rcases Agenda.mem_insertAlarm.1 hx with rfl | hx
    · exact hd
    · exact ht.ahead x hx

theorem beginWrite (r : Rehearsal P) (w : Nat) : r.Proceeds (r.beginWrite w) := by
  let r₁ : Rehearsal P := { r.mapCourier (·.startWrite w) with
    plans := r.plans.tail
    sent := r.sent ++ [r.courier.writeTicket w] }
  have hstart : r.Proceeds r₁ := of_still (.act _ (.startWrite w) (by simp)) (still_startWrite _ w)
  unfold Rehearsal.beginWrite
  simp only
  split
  · exact hstart
  · split
    · exact hstart.trans (finishWrite r₁ w _)
    · obtain ⟨hc, hn, ht⟩ := hstart.trans (sleepUntil r₁ Agenda.le_dueAfter (.write w))
      exact ⟨hc, hn, fun h ↦ (ht h).congr rfl rfl⟩

theorem runWrite (r : Rehearsal P) (w : Nat) : r.Proceeds (r.runWrite w) := by
  unfold Rehearsal.runWrite
  split
  · exact beginWrite r w
  · split
    · exact finishWrite r w _
    · exact refl r
  · exact refl r

theorem runTimer (r : Rehearsal P) (i : Nat) :
    r.Proceeds (r.mapCourier fun m ↦ m.mapDesk (·.runTimer i)) := by
  have hp : r.courier.Proceeds (r.courier.mapDesk (·.runTimer i)) :=
    .act r.courier (.runTimer i) (by simp)
  simp only [mapCourier, mapDesk, Desk.runTimer] at hp ⊢
  split at hp
  · next hn => simpa only [hn] using refl r
  · next τ hτ =>
    split at hp
    · next hd =>
      simp only [if_pos hd]
      exact of_still hp
        (.of_agenda (Desk.agenda_expire _ τ) (Desk.now_expire _ τ) (Desk.naps_expire _ τ))
    · next hd =>
      simp only [if_neg hd]
      obtain ⟨-, -, ht⟩ := sleepUntil r (Nat.le_of_not_le hd) (.timer i)
      exact ⟨hp, rfl, fun h ↦ (ht h).congr rfl rfl⟩

theorem runTask (r : Rehearsal P) (t : Task) : r.Proceeds (r.runTask t) := by
  unfold Rehearsal.runTask
  simp only
  refine .trans ?_ (wakeWorker _)
  cases t with
  | worker => exact of_still (.workFor _ _) (still_workFor _ _)
  | timer index => exact runTimer r index
  | write w => exact runWrite r w
  | reader | call | attend => exact refl r

end Proceeds

theorem proceeds_drain (r : Rehearsal P) (fuel : Nat) : r.Proceeds (clockwork.drain fuel r) := by
  induction fuel generalizing r with
  | zero => exact .refl r
  | succ fuel ih =>
    simp only [Clockwork.drain]
    split
    · exact .refl r
    · next t rest hr =>
      have hset : r.Proceeds (clockwork.setAgenda { r.courier.desk.agenda with ready := rest } r) :=
        .of_still (.schedule _ _) ⟨rfl, rfl, rfl⟩
      exact (hset.trans (.runTask _ t)).trans (ih _)

theorem proceeds_settleDown (r : Rehearsal P) : r.Proceeds r.settleDown := proceeds_drain r r.fuel

theorem proceeds_setNow {time : Time} (ht : r.now ≤ time) :
    r.courier.Proceeds (clockwork.setNow time r).courier := by
  have hact : r.courier.act (.clock time) = (clockwork.setNow time r).courier := by
    have hmax : max r.courier.desk.now time = time := max_eq_right ht
    simp only [Courier.act, mapDesk, hmax]
    rfl
  exact hact ▸ .act _ (.clock time) (by simp)

theorem proceeds_jump {time : Time} (ht : r.now ≤ time) :
    r.courier.Proceeds (clockwork.jump time r).courier :=
  (proceeds_setNow ht).trans (.schedule _ _)

theorem timely_jump (hs : r.Sorted) (time : Time) : (clockwork.jump time r).Timely := by
  have ha : (clockwork.jump time r).courier.desk.agenda.alarms =
      r.courier.desk.agenda.alarms.dropWhile (·.due ≤ time) := Agenda.alarms_ring
  refine ⟨?_, fun x hx ↦ ?_⟩
  · unfold Sorted
    rw [ha]
    exact List.Pairwise.sublist (List.dropWhile_sublist _) hs
  · rw [ha] at hx
    exact (Agenda.lt_of_mem_dropWhile hs hx).le

theorem proceeds_advance (ht : r.Timely) {time : Time} (hn : r.now ≤ time) (fuel : Nat) :
    r.courier.Proceeds (clockwork.advance settleDown fuel time r).courier ∧
      (clockwork.advance settleDown fuel time r).now = time ∧
      (clockwork.advance settleDown fuel time r).Sorted := by
  induction fuel generalizing r with
  | zero => exact ⟨proceeds_setNow hn, rfl, ht.sorted⟩
  | succ fuel ih =>
    simp only [Clockwork.advance]
    split
    · exact ⟨proceeds_setNow hn, rfl, ht.sorted⟩
    · next due hdue =>
      obtain ⟨hle, -, ⟨x, hx, rfl⟩, -⟩ := Agenda.nextDue?_eq_some ht.sorted hdue
      have hjump := proceeds_jump (ht.ahead x hx)
      have hsettle := proceeds_settleDown (clockwork.jump x.due r)
      have hnow : (clockwork.jump x.due r).settleDown.now = x.due := hsettle.now
      obtain ⟨hrest, htime, hsorted⟩ :=
        ih (hsettle.timely (timely_jump ht.sorted x.due)) (hnow.trans_le hle)
      exact ⟨(hjump.trans hsettle.courier).trans hrest, htime, hsorted⟩

theorem proceeds_sleep (ht : r.Timely) (length : Time) :
    r.courier.Proceeds (r.sleep length).courier ∧ (r.sleep length).Timely := by
  unfold sleep
  split
  · exact ⟨.refl _, ht⟩
  · next hlength =>
    have hsettle := proceeds_settleDown r
    have hpos : 0 < min length Agenda.longestSleep :=
      lt_min (Nat.pos_of_ne_zero hlength) (by decide)
    have hlt : r.settleDown.now < Agenda.dueAfter r.settleDown.now length :=
      (Nat.lt_add_of_pos_left hpos).trans_le Agenda.le_wholeMillis
    obtain ⟨hadvance, htime, hsorted⟩ := proceeds_advance (hsettle.timely ht)
      (Nat.le_sub_one_of_lt hlt) r.settleDown.fuel
    refine ⟨(hsettle.courier.trans hadvance).trans (proceeds_jump ?_), timely_jump hsorted _⟩
    rw [htime]
    exact Nat.sub_le _ _

/-- The worker is told to stop, and has done so unless it was given no time. -/
def stopWorker (r : Rehearsal P) : Rehearsal P :=
  let r := r.apply Courier.beginClose
  if r.courier.worker = .stopped then r
  else if r.courier.config.shutdownTimeout = 0 then r.apply Courier.abortWorker
  else r.settleDown

/-- All of closing but the wait for the transport. -/
def shutDown (r : Rehearsal P) : Rehearsal P :=
  { r.stopWorker.mapCourier Courier.closeRegistry with transportClosed := true }

theorem close_of_closed (hc : r.courier.isClosed = true) : r.close = r := if_pos hc

theorem close_of_running (hc : r.courier.isClosed = false) : r.close =
    (if r.shutDown.stallsClose then r.shutDown.waitForTransport else r.shutDown).mapCourier
      Courier.endClose := by
  unfold close
  rw [hc]
  rfl

theorem proceeds_stopWorker (h : Sound r.courier) :
    r.Proceeds r.stopWorker ∧ r.stopWorker.courier.isClosed = true := by
  let r₁ := r.apply Courier.beginClose
  have hbegin : r.Proceeds r₁ := .apply (.act _ .beginClose (by simp)) (still_beginClose _)
  have hclosed : r₁.courier.isClosed = true := by
    have hw (m : Courier P) : m.wakeWorker.isClosed = m.isClosed := by
      unfold wakeWorker
      split <;> rfl
    exact (hw _).trans (isClosed_beginClose r.courier)
  have hstop : r₁.Proceeds r.stopWorker := by
    unfold stopWorker
    simp only
    split
    · exact .refl r₁
    · next hw =>
      split
      · have hguard : r₁.courier.act .abortWorker = r₁.courier.abortWorker := if_pos ⟨hclosed, hw⟩
        exact .apply (hguard ▸ .act _ .abortWorker (by simp)) (.log r₁.courier.desk _)
      · exact proceeds_settleDown r₁
  refine ⟨hbegin.trans hstop, ?_⟩
  exact hstop.courier.runs.isClosed (hbegin.courier.runs.sound h) hclosed

theorem proceeds_shutDown (h : Sound r.courier) :
    r.Proceeds r.shutDown ∧ r.shutDown.courier.isClosed = true := by
  obtain ⟨hp, hc⟩ := proceeds_stopWorker h
  have hguard : r.stopWorker.courier.act .closeRegistry = r.shutDown.courier := if_pos hc
  have hclose : r.stopWorker.Proceeds r.shutDown := by
    refine .of_still (hguard ▸ .act _ .closeRegistry (by simp)) (.of_agenda ?_ ?_ ?_)
    · exact r.stopWorker.courier.desk.agenda_close
    · exact (congrArg Desk.now r.stopWorker.courier.desk.bare_close :)
    · exact (congrArg Desk.naps r.stopWorker.courier.desk.bare_close :)
  exact ⟨hp.trans hclose, rfl⟩

/-- The second courier follows from the first, and nobody else reports anything but that the
transport stalls. -/
def Winds (m m' : Courier P) : Prop :=
  ∃ as, m.run as = m' ∧ ∀ e, .note e ∈ as → ∃ timeout, e = .transportStalled timeout

theorem winds_waitForTransport (ht : r.Timely) :
    Winds r.courier r.waitForTransport.courier ∧ r.waitForTransport.Timely := by
  let timeout := r.courier.config.shutdownTimeout
  obtain ⟨⟨as, hno, has⟩, ht'⟩ := proceeds_sleep ht timeout
  refine ⟨⟨as ++ [.note (.transportStalled timeout)], ?_, ?_⟩, ht'.congr rfl rfl⟩
  · rw [run_concat, has]
    rfl
  · intro e he
    rcases List.mem_append.1 he with he | he
    · exact absurd he (hno e)
    · exact ⟨timeout, by simpa using he⟩

theorem winds_close (hc : r.courier.isClosed = false) (h : Sound r.courier) (ht : r.Timely) :
    Winds r.shutDown.courier r.close.courier ∧ r.close.Timely := by
  obtain ⟨hp, hclosed⟩ := proceeds_shutDown h
  let r' := if r.shutDown.stallsClose then r.shutDown.waitForTransport else r.shutDown
  have hwait : Winds r.shutDown.courier r'.courier ∧ r'.Timely := by
    unfold r'
    split
    · exact winds_waitForTransport (hp.timely ht)
    · exact ⟨⟨[], rfl, by simp⟩, hp.timely ht⟩
  obtain ⟨⟨as, has, hnote⟩, ht'⟩ := hwait
  have hc' : r'.courier.isClosed = true :=
    Runs.isClosed ⟨as, has⟩ (hp.courier.runs.sound h) hclosed
  rw [close_of_running hc]
  refine ⟨⟨as ++ [.endClose], ?_, ?_⟩, ht'.congr rfl rfl⟩
  · rw [run_concat, has]
    exact if_pos hc'
  · intro e he
    apply hnote
    simpa using he

/-- What can become of a rehearsal in which callers send, close and drop, channels deliver, tasks run
and time passes. -/
inductive Reached (config : Config) : Rehearsal P → Prop
  | start (plans : List Plan) (stallsClose : Bool) :
    Reached config { courier := make config, plans, stallsClose }
  | send {r : Rehearsal P} (h : Reached config r) (q : P.Request) (runtime : Bool) :
    Reached config (r.send q runtime).1
  | accept {r : Rehearsal P} (h : Reached config r) (x : Delivery P) :
    Reached config (r.apply (·.accept x))
  | settleDown {r : Rehearsal P} (h : Reached config r) : Reached config r.settleDown
  | sleep {r : Rehearsal P} (h : Reached config r) (ms : Time) : Reached config (r.sleep ms)
  | close {r : Rehearsal P} (h : Reached config r) : Reached config r.close
  | drop {r : Rehearsal P} (h : Reached config r) : Reached config (r.apply Courier.drop)

/-- A rehearsal is a run of its courier, and stays on time. -/
theorem Reached.timely {config : Config} (h : Reached config r) :
    (make config : Courier P).Runs r.courier ∧ r.Timely := by
  have hproceed {r r' : Rehearsal P} (hp : r.Proceeds r')
      (ih : (make config : Courier P).Runs r.courier ∧ r.Timely) :
      (make config : Courier P).Runs r'.courier ∧ r'.Timely :=
    ⟨ih.1.trans hp.courier.runs, hp.timely ih.2⟩
  induction h with
  | start => exact ⟨.refl _, ⟨.nil, by simp [make]⟩⟩
  | @send r _ q runtime ih =>
    have hsend : r.Proceeds (r.apply fun m ↦ (m.send q runtime).1) :=
      .apply (.act _ (.send q runtime) (by simp)) (still_send _ q runtime)
    exact hproceed hsend ih
  | accept _ x ih => exact hproceed (.apply (.act _ (.accept x) (by simp)) (still_accept _ x)) ih
  | settleDown _ ih => exact hproceed (proceeds_settleDown _) ih
  | sleep _ ms ih =>
    obtain ⟨hp, ht⟩ := proceeds_sleep ih.2 ms
    exact ⟨ih.1.trans hp.runs, ht⟩
  | @close r _ ih =>
    cases hc : r.courier.isClosed with
    | true => rwa [close_of_closed hc]
    | false =>
      have hs := ih.1.sound (.make config)
      obtain ⟨⟨as, has, -⟩, ht⟩ := winds_close hc hs ih.2
      exact ⟨(ih.1.trans (proceeds_shutDown hs).1.courier.runs).trans ⟨as, has⟩, ht⟩
  | drop _ ih => exact hproceed (.apply (.act _ .drop (by simp)) (.refl _)) ih

end Rehearsal

end GameServers
