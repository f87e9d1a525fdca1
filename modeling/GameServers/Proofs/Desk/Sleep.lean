import GameServers.Proofs.Desk.Clock
import Mathlib.Data.List.TakeWhile

namespace GameServers

variable {P : Protocol}

theorem Agenda.ring_of_lt {a : Agenda} {n : Nat} (h : ∀ x ∈ a.alarms, n < x.due) : a.ring n = a := by
  obtain ⟨ready, alarms⟩ := a
  cases alarms with
  | nil => rfl
  | cons x l =>
    have hx : ¬ x.due ≤ n := Nat.not_le_of_lt (h x (.head _))
    simp [ring, hx]

theorem Agenda.lt_of_nextDue?_eq_none {a : Agenda} {n : Nat}
    (hs : a.alarms.Pairwise fun x y ↦ x.due ≤ y.due) (hn : a.nextDue? n = none) :
    ∀ x ∈ a.alarms, n < x.due := by
  obtain ⟨ready, alarms⟩ := a
  cases alarms with
  | nil => simp
  | cons y l =>
    have hy : n < y.due := by simpa [nextDue?] using hn
    intro x hx
    rcases List.mem_cons.1 hx with rfl | hx
    · exact hy
    · exact hy.trans_le (List.rel_of_pairwise_cons hs hx)

theorem Agenda.nextDue?_eq_some {a : Agenda} {n due : Nat}
    (hs : a.alarms.Pairwise fun x y ↦ x.due ≤ y.due) (hn : a.nextDue? n = some due) :
    due ≤ n ∧ (∀ x ∈ a.alarms, due ≤ x.due) ∧ (∃ x ∈ a.alarms, x.due = due) ∧
      (a.ring due).alarms.length < a.alarms.length := by
  obtain ⟨ready, alarms⟩ := a
  cases alarms with
  | nil => cases hn
  | cons y l =>
    obtain ⟨hle, rfl⟩ : y.due ≤ n ∧ y.due = due := by simpa [nextDue?] using hn
    refine ⟨hle, fun x hx ↦ ?_, ⟨y, .head _, rfl⟩, ?_⟩
    · rcases List.mem_cons.1 hx with rfl | hx
      · exact le_rfl
      · exact List.rel_of_pairwise_cons hs hx
    · have hpos : decide (y.due ≤ y.due) = true := decide_eq_true le_rfl
      rw [alarms_ring, List.dropWhile_cons, if_pos hpos]
      exact Nat.lt_succ_of_le (List.dropWhile_sublist _).length_le

theorem Clockwork.drain_cons {σ : Type} (c : Clockwork σ) {n : Nat} {s : σ} {t : Task}
    {rest : List Task} (hr : (c.agenda s).ready = t :: rest) :
    c.drain (n + 1) s = c.drain n (c.run t (c.setAgenda { c.agenda s with ready := rest } s)) := by
  simp only [drain, hr]

namespace Desk

@[simp] theorem ready_runTimer (d : Desk P) (i : Nat) :
    (d.runTimer i).agenda.ready = d.agenda.ready := by
  unfold runTimer
  split
  · rfl
  · split
    · rw [agenda_expire]
    · rfl

/-- Every timer whose task is ready is due. -/
def RingsDue (d : Desk P) : Prop :=
  ∀ τ ∈ d.timers, .timer τ.index ∈ d.agenda.ready → d.dueAt τ.index ≤ d.now

end Desk

namespace Shift

variable {h : Shift P} {as : List (Act P)}

/-- What a desk does by itself is a run on the clock, after which nothing is ready. -/
structure Rests (h : Shift P) (d : Desk P) (as : List (Act P)) : Prop where
  run : h.run as = { h with desk := d }
  onClock : h.OnClock as
  ready : d.agenda.ready = []

theorem runReady_of_head {i : Nat} {rest : List Task}
    (hr : h.desk.agenda.ready = .timer i :: rest) : h.desk.runReady i =
      ({ h.desk with agenda := { h.desk.agenda with ready := rest } } : Desk P).runTimer i := by
  have hm : .timer i ∈ h.desk.agenda.ready := by rw [hr]; exact .head _
  have he : h.desk.agenda.ready.erase (.timer i) = rest := by rw [hr, List.erase_cons_head]
  simp only [Desk.runReady, if_pos hm, he]

theorem OnTime.runReady_of_due (h₀ : OnTime h) (hd : h.desk.RingsDue) (i : Nat) :
    (h.desk.runReady i).agenda.alarms = h.desk.agenda.alarms ∧ (h.desk.runReady i).RingsDue := by
  have ho := h₀.steady.orderly
  have hcalm := calm_runReady ho i
  unfold Desk.runReady at hcalm ⊢
  split at hcalm
  case isFalse hm =>
    rw [if_neg hm]
    exact ⟨rfl, hd⟩
  case isTrue hm =>
    rw [if_pos hm]
    refine ⟨?_, fun τ hτ hr ↦ ?_⟩
    · unfold Desk.runTimer
      split
      · rfl
      · next υ hυ =>
        obtain ⟨hmem, rfl⟩ := Desk.timerAt?_eq_some hυ
        have hdue := hd υ hmem hm
        split
        · rw [Desk.agenda_expire]
        · next hno => exact absurd hdue hno
    · rw [Desk.ready_runTimer] at hr
      rw [hcalm.dueAt, hcalm.now]
      exact hd τ (hcalm.timers hτ) (List.mem_of_mem_erase hr)

theorem drain_rests (h₀ : OnTime h) {n : Nat} (hn : h.desk.agenda.ready.length = n) :
    ∃ as, h.Rests (Desk.clockwork.drain n h.desk) as ∧
      (Desk.clockwork.drain n h.desk).now = h.desk.now ∧
      (h.desk.RingsDue → (Desk.clockwork.drain n h.desk).agenda.alarms = h.desk.agenda.alarms) := by
  induction n generalizing h with
  | zero => exact ⟨[], ⟨rfl, trivial, List.length_eq_zero_iff.1 hn⟩, rfl, fun _ ↦ rfl⟩
  | succ n ih =>
    obtain ⟨t, rest, hr⟩ := List.exists_cons_of_length_eq_add_one hn
    obtain ⟨i, rfl⟩ := h₀.steady.scheduled.tasks t (by rw [hr]; exact .head _)
    have hact : (h.act (.runTimer i)).desk = _ := runReady_of_head hr
    have hdrain : Desk.clockwork.drain (n + 1) h.desk =
        Desk.clockwork.drain n (h.act (.runTimer i)).desk := by
      rw [hact]
      exact Desk.clockwork.drain_cons hr
    have hlen : (h.act (.runTimer i)).desk.agenda.ready.length = n := by
      rw [hact, Desk.ready_runTimer]
      rw [hr] at hn
      exact Nat.succ.inj hn
    obtain ⟨as, hrest, hnow, halarms⟩ := ih (h₀.act (a := .runTimer i) trivial) hlen
    rw [hdrain]
    refine ⟨.runTimer i :: as, ⟨hrest.run, ⟨trivial, hrest.onClock⟩, hrest.ready⟩, ?_, fun hd ↦ ?_⟩
    · exact hnow.trans (calm_runReady h₀.steady.orderly i).now
    · obtain ⟨hsame, hd'⟩ := h₀.runReady_of_due hd i
      exact (halarms hd').trans hsame

theorem settleDown_is_run (h₀ : OnTime h) : ∃ as, h.Rests h.desk.settleDown as := by
  obtain ⟨as, hr, -⟩ := drain_rests h₀ rfl
  exact ⟨as, hr⟩

theorem OnTime.ringsDue (h₀ : OnTime h) (hr : h.desk.agenda.ready = []) (time : Time) :
    (Desk.clockwork.jump time h.desk).RingsDue := by
  intro τ hτ hm
  have hs := h₀.steady.scheduled
  have hm' : .timer τ.index ∈ (h.desk.agenda.ring time).ready := hm
  rw [Agenda.mem_ready_ring, hr] at hm'
  obtain ⟨x, hx, he⟩ := hm'.resolve_left (by simp)
  have hmem := (List.takeWhile_sublist _).subset hx
  have hx' := List.mem_takeWhile_imp (p := fun x : Alarm ↦ decide (x.due ≤ time)) hx
  obtain ⟨i, he', hslept⟩ := hs.known x hmem
  rw [Task.timer.inj (he'.symm.trans he)] at hslept
  rw [Desk.dueAt_jump hslept]
  exact (hs.due_le x hmem τ hτ he).trans (of_decide_eq_true hx')

theorem sleep_rests (h₀ : OnTime h) (hr : h.desk.agenda.ready = []) {fuel : Nat} {time : Time}
    (hfuel : h.desk.agenda.alarms.length < fuel) (ht : h.desk.now ≤ time)
    (hw : 1000000 ∣ time) :
    ∃ as, h.Rests (Desk.clockwork.advance Desk.settleDown fuel time h.desk) as ∧
      (Desk.clockwork.advance Desk.settleDown fuel time h.desk).now = time := by
  induction fuel generalizing h with
  | zero => exact absurd hfuel (Nat.not_lt_zero _)
  | succ fuel ih =>
    simp only [Clockwork.advance]
    split
    · next hnone =>
      have hlt := Agenda.lt_of_nextDue?_eq_none h₀.steady.scheduled.sorted hnone
      have hjump : Desk.clockwork.jump time h.desk = Desk.clockwork.setNow time h.desk :=
        congrArg (fun a ↦ ({ h.desk with now := time, agenda := a } : Desk P))
          (Agenda.ring_of_lt hlt)
      refine ⟨[.clock time], ⟨?_, ⟨⟨hr, fun x hx ↦ (hlt x hx).le, hw⟩, trivial⟩, hr⟩, rfl⟩
      change h.act (.clock time) = _
      simp only [Shift.act, mapDesk, max_eq_right ht, hjump]
    · next due hsome =>
      obtain ⟨hle, hall, ⟨x, hx, hdue⟩, hshort⟩ :=
        Agenda.nextDue?_eq_some h₀.steady.scheduled.sorted hsome
      have hnow : h.desk.now ≤ due := (hdue ▸ h₀.steady.scheduled.ahead x hx).le
      have hact : (h.act (.clock due)).desk = Desk.clockwork.jump due h.desk := by
        simp only [Shift.act, mapDesk, max_eq_right hnow]
      have hwhole : 1000000 ∣ due := hdue ▸ h₀.steady.scheduled.whole x hx
      have h₁ : OnTime (h.act (.clock due)) := h₀.act ⟨hr, hall, hwhole⟩
      have hrings : (h.act (.clock due)).desk.RingsDue := hact ▸ h₀.ringsDue hr due
      -- After the timers have run, as many alarms are left as after the jump.
      obtain ⟨as, hrest, hnow', halarms⟩ := drain_rests h₁ rfl
      have h₂ := h₁.run hrest.onClock
      rw [hrest.run] at h₂
      have hfuel' : (h.act (.clock due)).desk.agenda.alarms.length < fuel := by
        rw [hact]
        exact hshort.trans_le (Nat.le_of_lt_succ hfuel)
      have ht' : (h.act (.clock due)).desk.now ≤ time := hact ▸ hle
      obtain ⟨bs, hrest', hnow''⟩ := ih h₂ hrest.ready
        ((congrArg List.length (halarms hrings)).trans_lt hfuel') (hnow'.trans_le ht')
      rw [← hact]
      refine ⟨.clock due :: (as ++ bs), ⟨?_, ⟨⟨hr, hall, hwhole⟩, onClock_append.2 ⟨hrest.onClock, ?_⟩⟩,
        hrest'.ready⟩, hnow''⟩
      · change (h.act (.clock due)).run (as ++ bs) = _
        rw [run_append, hrest.run, hrest'.run]
        rfl
      · rw [hrest.run]
        exact hrest'.onClock

/-- Sleeping is a run on the clock, up to the time at which the sleep is over. -/
theorem sleep_is_run (h₀ : OnTime h) (hr : h.desk.agenda.ready = []) (length : Time) :
    ∃ as, h.Rests (h.desk.sleep length) as ∧
      (h.desk.sleep length).now = Agenda.dueAfter h.desk.now length :=
  sleep_rests h₀ hr (Nat.lt_succ_self _) Agenda.le_dueAfter Agenda.dvd_dueAfter

end Shift

end GameServers
