import GameServers.Plain
import GameServers.Proofs.Courier.Aftermath
import GameServers.Proofs.Courier.Answers
import GameServers.Proofs.Rehearsal.Run

namespace GameServers

variable {P : Protocol}

namespace Courier

variable {m k : Courier P}

theorem Halted.wake (h : Halted m k) (t : Task) : Halted m (k.wake t) := { h with }

theorem wake_wake (m : Courier P) (t : Task) : (m.wake t).wake t = m.wake t := by
  have ht : t ∈ (m.desk.agenda.wake t).ready := Agenda.mem_ready_wake.2 (.inr rfl)
  have ha : (m.desk.agenda.wake t).wake t = m.desk.agenda.wake t := if_pos ht
  simp only [Courier.wake, mapDesk, Desk.wake, ha]

theorem canWork_of_told (hd : m.shutdown = true) (hu : m.worker ≠ .unstarted)
    (hs : m.worker ≠ .stopped) : m.canWork = true := by
  unfold canWork
  cases hw : m.worker with
  | unstarted => exact absurd hw hu
  | stopped => exact absurd hw hs
  | givenUp n => rfl
  | _ => simp [hd]

theorem wakeWorker_of_stopped (hw : m.worker = .stopped) : m.wakeWorker = m := by
  simp [wakeWorker, canWork, hw]

theorem runWorker_of_stopped (hc : m.canWork = true) (hw : m.work.worker = .stopped) :
    m.runWorker = m.work := by
  have hn : m.work.canWork = false := by simp [canWork, hw]
  have hrest (fuel : Nat) : m.work.workFor fuel = m.work := by
    cases fuel with
    | zero => rfl
    | succ fuel =>
      unfold workFor
      rw [hn]
      rfl
  exact (if_pos hc).trans (hrest _)

end Courier

namespace Rehearsal

open Courier

variable {r r' : Rehearsal P}

theorem fuel_ne_zero (r : Rehearsal P) : r.fuel ≠ 0 := by
  simp [fuel]

theorem drain_of_ready {fuel : Nat} (hr : r.courier.desk.agenda.ready = []) :
    clockwork.drain fuel r = r := by
  cases fuel with
  | zero => rfl
  | succ fuel =>
    have hr' : (clockwork.agenda r).ready = [] := hr
    simp only [Clockwork.drain, hr']

def unready (r : Rehearsal P) : Rehearsal P :=
  clockwork.setAgenda { clockwork.agenda r with ready := [] } r

theorem unready_wake {m : Courier P} (hm : r.courier = m.wake .worker)
    (ha : m.desk.agenda.ready = []) : r.unready.courier = m := by
  have he : { r.courier.desk.agenda with ready := [] } = m.desk.agenda := by
    rw [hm, ← ha]
    exact congrArg (Agenda.mk m.desk.agenda.ready) Agenda.alarms_wake
  change r.courier.mapDesk ({ · with agenda := { r.courier.desk.agenda with ready := [] } }) = m
  rw [he, hm]
  rfl

theorem settleDown_of_worker (hr : r.courier.desk.agenda.ready = [.worker])
    (hc : r.unready.courier.canWork = true) (hw : r.unready.courier.work.worker = .stopped)
    (hready : r.unready.courier.work.desk.agenda.ready = []) :
    r.settleDown.courier = r.unready.courier.work := by
  obtain ⟨n, hn⟩ := Nat.exists_eq_succ_of_ne_zero r.fuel_ne_zero
  have hrun : (r.unready.runTask .worker).courier = r.unready.courier.work := by
    change r.unready.courier.runWorker.wakeWorker = _
    rw [runWorker_of_stopped hc hw, wakeWorker_of_stopped hw]
  have hdrain : r.settleDown = clockwork.drain n (r.unready.runTask .worker) := by
    rw [settleDown, hn]
    exact clockwork.drain_cons hr
  rw [hdrain, drain_of_ready (by rw [hrun, hready]), hrun]

theorem gone_of_givenUp (h : Sound r.courier) (hz : Shut r.courier) {n : Option Nat}
    (hn : r.courier.worker = .givenUp n) (hr : r.courier.desk.agenda.ready = [.worker]) :
    Sound r.settleDown.courier ∧ Gone r.settleDown.courier ∧
      r.settleDown.courier.desk.tickets = r.courier.desk.tickets := by
  have hn' : r.unready.courier.worker = .givenUp n := hn
  have hwork : r.unready.courier.work =
      { r.unready.courier with worker := .stopped, queue := [] } := by
    simp [Courier.work, hn']
  have hrun : r.settleDown.courier = r.unready.courier.work :=
    settleDown_of_worker hr (by simp [canWork, hn']) (by rw [hwork]) (by rw [hwork]; rfl)
  rw [hrun]
  refine ⟨?_, ?_, congrArg (·.desk.tickets) hwork⟩
  · exact ((Courier.Runs.act r.courier (.schedule _)).trans (.act _ .work)).sound h
  · have hz' : Shut r.unready.courier := { hz with }
    exact hz'.gone_work fun hs ↦ by simp [hn'] at hs

theorem Waits.stopWorker (hw : r.Waits) (h : Sound r.courier) (hf : Fresh r.courier)
    (ho : r.courier.isOpen = true) : r.stopWorker.courier =
      if r.courier.givesUp then r.courier.halt.wake .worker else r.courier.halt := by
  have hc := h.isClosed_of_open ho
  have hidle := h.worker_of_open ho
  let r₁ := r.apply Courier.beginClose
  by_cases hu : r.courier.worker = .unstarted
  · obtain ⟨hq, -⟩ := hf hu
    have hhalt := halt_of_unstarted hc hu hq
    have hbegin : r₁.courier = r.courier.halt := by
      simp only [r₁, apply, mapCourier, beginClose_of_unstarted hc hu hq, hhalt]
      exact wakeWorker_of_stopped rfl
    have he : r.stopWorker = r₁ := if_pos (by rw [hbegin, hhalt]; rfl)
    rw [he, hbegin, if_neg (by simp [givesUp, hu])]
  · have hs : r.courier.warned.worker ≠ .stopped := fun hs ↦ hidle (.inl hs)
    have hcan : r.courier.warned.canWork = true := canWork_of_told rfl hu hs
    have hbegin : r₁.courier = r.courier.warned.wake .worker := by
      simp only [r₁, apply, mapCourier, beginClose_of_started hc hu, Courier.wakeWorker, hcan,
        if_true]
    have hs₁ : r₁.courier.worker ≠ .stopped := by
      rw [hbegin]
      exact hs
    by_cases hT : r.courier.config.shutdownTimeout = 0
    · have hT₁ : r₁.courier.config.shutdownTimeout = 0 := by
        rw [hbegin]
        exact hT
      have he : r.stopWorker = r₁.apply Courier.abortWorker := (if_neg hs₁).trans (if_pos hT₁)
      rw [he, if_pos (by simp [givesUp, hT, hu]), halt_of_no_time hc hu hidle hT, ← wake_wake]
      simp only [apply, mapCourier, hbegin]
      rfl
    · have hT₁ : ¬ r₁.courier.config.shutdownTimeout = 0 := by
        rw [hbegin]
        exact hT
      have he : r.stopWorker = r₁.settleDown := (if_neg hs₁).trans (if_neg hT₁)
      have hgive : r.courier.givesUp = false := by simp [givesUp, hT]
      have hun : r₁.unready.courier = r.courier.warned := unready_wake hbegin hw.ready
      have hr₁ : r₁.courier.desk.agenda.ready = [.worker] := by
        have hwr : r.courier.warned.desk.agenda.ready = [] := hw.ready
        simp [hbegin, Courier.wake, mapDesk, Desk.wake, Agenda.wake, hwr]
      have hrun := settleDown_of_worker hr₁
      rw [hun, ← halt_of_time hc hu hidle hT, h.agenda_halt hf ho] at hrun
      rw [he, hgive]
      exact hrun hcan (h.worker_halt hf ho hgive) hw.ready

theorem close_of_no_time (hc : r.courier.isClosed = false)
    (hT : r.shutDown.courier.config.shutdownTimeout = 0) : ∃ k : Courier P,
      r.close.courier = k.endClose ∧ k.bare = r.shutDown.courier.bare ∧
        k.desk.agenda = r.shutDown.courier.desk.agenda := by
  rw [close_of_running hc]
  split
  · refine ⟨r.shutDown.waitForTransport.courier, rfl, ?_, ?_⟩ <;>
    · unfold waitForTransport
      simp only [hT]
      rfl
  · exact ⟨_, rfl, rfl, rfl⟩

namespace Waits

variable (hw : r.Waits) (h : Sound r.courier) (hf : Fresh r.courier)
  (ho : r.courier.isOpen = true)

include hw h hf ho

theorem halted : Halted r.courier r.stopWorker.courier := by
  have hh := h.halted hf ho
  rw [hw.stopWorker h hf ho]
  split
  · exact hh.wake .worker
  · exact hh

theorem closes : Sound r.shutDown.courier ∧ Shut r.shutDown.courier ∧
    ∃ as, r.shutDown.courier.run as = r.close.courier ∧
      ∀ e, .note e ∈ as → e.report? = none := by
  obtain ⟨⟨as, has, hnote⟩, -⟩ := winds_close (h.isClosed_of_open ho) h hw.toTimely
  refine ⟨(proceeds_shutDown h).1.courier.runs.sound h, (hw.halted h hf ho).shut, as, has, ?_⟩
  intro e he
  obtain ⟨timeout, rfl⟩ := hnote e he
  rfl

theorem shut_close : Sound r.close.courier ∧ Shut r.close.courier := by
  obtain ⟨hs, hz, as, has, -⟩ := hw.closes h hf ho
  rw [← has]
  exact ⟨hs.run as, hs.shut_run hz as⟩

theorem reports_close : r.close.courier.reports = r.courier.reports ++
    (if r.courier.config.shutdownTimeout = 0 then [] else r.courier.queue.map .orphan) ++
      r.courier.desk.registry.entries.map .pending := by
  obtain ⟨hs, hz, as, has, hquiet⟩ := hw.closes h hf ho
  rw [← has, hs.reports_run hz hquiet]
  exact (hw.halted h hf ho).reports_closeRegistry h

theorem unanswered {n : Nat} {t : Ticket P} (ht : r.courier.desk.tickets[n]? = some t)
    (hno : t.outcome = none) (after : List (Act P)) (a : P.Response) :
    (r.close.courier.run after).outcome? n ≠ some (.ok a) := by
  obtain ⟨hs, hz, as, has, -⟩ := hw.closes h hf ho
  intro ha
  obtain ⟨t', ht', ho'⟩ := outcome_of_outcome? ha
  rw [← has, ← run_append] at ht'
  have ht₀ : r.shutDown.courier.desk.tickets[n]? = some t :=
    (congrArg (·[n]?) (hw.halted h hf ho).tickets_closeRegistry).trans ht
  exact hs.never_answered hz ht₀ hno (as ++ after) ht' ho'

theorem gone : ∃ k : Courier P, Sound k ∧ Gone k ∧ k.desk.tickets = r.courier.desk.tickets ∧
    k.Runs r.close.settleDown.courier ∧
    (r.courier.config.shutdownTimeout ≠ 0 →
      k.Runs r.close.courier ∧ k.writes = r.courier.halt.writes) := by
  obtain ⟨hs, hz, as, has, -⟩ := hw.closes h hf ho
  have htickets : r.shutDown.courier.desk.tickets = r.courier.desk.tickets :=
    (hw.halted h hf ho).tickets_closeRegistry
  have hstop := hw.stopWorker h hf ho
  cases hg : r.courier.givesUp with
  | false =>
    simp only [hg, Bool.false_eq_true, if_false] at hstop
    have hworker : r.shutDown.courier.worker = .stopped := by
      rw [← h.worker_halt hf ho hg]
      exact (congrArg worker hstop :)
    have hruns : r.shutDown.courier.Runs r.close.courier := ⟨as, has⟩
    refine ⟨r.shutDown.courier, hs, ⟨hz, hworker, (hw.halted h hf ho).unqueued hworker⟩, htickets,
      ?_, fun _ ↦ ⟨hruns, (congrArg writes hstop :)⟩⟩
    exact hruns.trans (proceeds_settleDown r.close).courier.runs
  | true =>
    simp only [hg, if_true] at hstop
    obtain ⟨hT, -⟩ : r.courier.config.shutdownTimeout = 0 ∧ r.courier.worker ≠ .unstarted := by
      simpa [givesUp] using hg
    obtain ⟨n, hn⟩ := h.worker_halt_of_givesUp ho hg
    have hconfig : r.shutDown.courier.config = r.courier.config := by
      obtain ⟨bs, hbs⟩ := (proceeds_shutDown h).1.courier.runs
      rw [← hbs, config_run _ _ h]
    obtain ⟨k, hk, hb, ha⟩ := close_of_no_time (h.isClosed_of_open ho) (hconfig ▸ hT)
    have hworker : r.close.courier.worker = .givenUp n := by
      rw [hk, ← hn]
      exact (congrArg worker hb :).trans (congrArg worker hstop :)
    have hready : r.close.courier.desk.agenda.ready = [.worker] := by
      have hagenda : r.close.courier.desk.agenda = r.courier.desk.agenda.wake .worker := by
        rw [hk, ← h.agenda_halt hf ho]
        have hclose := r.stopWorker.courier.desk.agenda_close
        exact ha.trans (hclose.trans (congrArg (·.desk.agenda) hstop))
      simp [hagenda, Agenda.wake, hw.ready]
    obtain ⟨hsc, hzc⟩ := hw.shut_close h hf ho
    obtain ⟨hsound, hgone, hsame⟩ := gone_of_givenUp hsc hzc hworker hready
    refine ⟨_, hsound, hgone, hsame.trans ?_, .refl _, fun h ↦ absurd hT h⟩
    rw [hk, ← htickets]
    exact (congrArg (fun k : Courier P ↦ k.desk.tickets) hb :)

end Waits

end Rehearsal

end GameServers
