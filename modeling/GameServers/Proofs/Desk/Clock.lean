import GameServers.Proofs.Desk.Schedule

namespace GameServers.Shift

variable {P : Protocol}

/-- The clock shows whole milliseconds, stands still while a task is ready, and stops at every
alarm. -/
def Prompt (h : Shift P) : Act P → Prop
  | .clock time =>
    h.desk.agenda.ready = [] ∧ (∀ x ∈ h.desk.agenda.alarms, time ≤ x.due) ∧ 1000000 ∣ time
  | _ => True

instance (h : Shift P) (a : Act P) : Decidable (h.Prompt a) :=
  match a with
  | .clock time => inferInstanceAs (Decidable
      (h.desk.agenda.ready = [] ∧ (∀ x ∈ h.desk.agenda.alarms, time ≤ x.due) ∧ 1000000 ∣ time))
  | .issue _ | .create _ _ | .settle _ _ | .delete _ | .deleteOldest _ | .complete _ _
  | .advance _ _ | .runTimer _ | .close => .isTrue trivial

def OnClock (h : Shift P) : List (Act P) → Prop
  | [] => True
  | a :: as => h.Prompt a ∧ (h.act a).OnClock as

instance decidableOnClock (h : Shift P) : (as : List (Act P)) → Decidable (h.OnClock as)
  | [] => .isTrue trivial
  | a :: as =>
    have := decidableOnClock (h.act a) as
    inferInstanceAs (Decidable (h.Prompt a ∧ (h.act a).OnClock as))

variable {h h' : Shift P} {s : Session} {a : Act P} {as bs : List (Act P)}

theorem onClock_append : h.OnClock (as ++ bs) ↔ h.OnClock as ∧ (h.run as).OnClock bs := by
  induction as generalizing h with
  | nil => simp [OnClock, run]
  | cons a as ih =>
    rw [List.cons_append, OnClock, OnClock, ih, and_assoc]
    rfl

theorem Orderly.of_timerAt? (h₀ : Orderly h) {i : Nat} {τ : Timer}
    (hτ : h.desk.timerAt? i = some τ) :
    ∃ s ∈ h.desk.registry.entries, s.index = i ∧ τ = s.timer ∧
      h.desk.registry.find? τ.id τ.index = some s := by
  obtain ⟨hmem, hi⟩ := Desk.timerAt?_eq_some hτ
  obtain ⟨s, hs, rfl⟩ := h₀.owned hmem
  exact ⟨s, hs, hi, rfl, h₀.find?_self hs⟩

theorem Orderly.rested_step (h₀ : Orderly h) (hr : h.desk.Rested h.sessions) (hs : Step h h') :
    h'.desk.Rested h'.sessions := by
  cases hs with
  | idle => exact hr
  | clock time ht => exact hr.clock ht
  | issue | move | withdraw | expire | close => exact hr.congr rfl rfl rfl
  | enroll | record => exact hr.add rfl rfl rfl
  | doze τ hτ =>
    obtain ⟨s, hs, rfl⟩ := h₀.owned hτ
    exact hr.doze (h₀.counted ▸ h₀.index_le (h₀.given hs))

structure Steady (h : Shift P) : Prop where
  orderly : Orderly h
  scheduled : h.desk.Scheduled
  rested : h.desk.Rested h.sessions

namespace Steady

theorem start (readTimeout : Time) : Steady (start readTimeout : Shift P) where
  orderly := .start readTimeout
  scheduled := by constructor <;> simp [Shift.start]
  rested := .start readTimeout

/-- When no task is ready, every timer is still to come. -/
theorem lt_dueAt (h₀ : Steady h) (hr : h.desk.agenda.ready = []) {τ : Timer}
    (hτ : τ ∈ h.desk.timers) : h.desk.now < h.desk.dueAt τ.index := by
  rcases h₀.scheduled.set τ hτ with hm | hm
  · rw [hr] at hm
    cases hm
  · exact h₀.scheduled.ahead _ hm

theorem scheduled_runReady (h₀ : Steady h) (i : Nat) : (h.desk.runReady i).Scheduled := by
  have hs := h₀.scheduled
  unfold Desk.runReady
  split
  case isFalse => exact hs
  let d : Desk P :=
    { h.desk with agenda := { h.desk.agenda with ready := h.desk.agenda.ready.erase (.timer i) } }
  change (d.runTimer i).Scheduled
  unfold Desk.runTimer
  split
  case h_1 hnone =>
    refine hs.of_erase (Desk.quiet_refl (d := d)) fun τ hτ hi ↦ ?_
    exact List.find?_eq_none.1 hnone τ hτ (decide_eq_true hi)
  case h_2 υ hυ =>
    obtain ⟨s, hmem, rfl, rfl, hfind⟩ := h₀.orderly.of_timerAt? hυ
    split
    · have hf : d.registry.WellFiled := h₀.orderly.filed
      refine hs.of_erase (Desk.quiet_expire hf hfind) fun τ hτ ↦ ?_
      rw [Desk.timers_expire hf hfind] at hτ
      exact of_decide_eq_true (List.mem_filter.1 hτ).2
    · next hdue => exact hs.of_sleep (Nat.lt_of_not_le hdue)

theorem scheduled_create (h₀ : Steady h) (n : Nat) (runtime : Bool) :
    (h.create n runtime).desk.Scheduled := by
  rcases h.create_cases n runtime with he | ⟨id, -, he⟩
  · rw [he]
    exact h₀.scheduled
  · rw [he]
    exact h₀.scheduled.register h₀.rested.naps_next

theorem quiet_onSession (k : Nat) {f : Desk P → Session → Desk P}
    (hf : ∀ s, Desk.Quiet h.desk (f h.desk s)) : Desk.Quiet h.desk (h.onSession k f).desk := by
  unfold onSession
  split
  · exact hf _
  · exact Desk.quiet_refl

theorem act (h₀ : Steady h) (a : Act P) : Steady (h.act a) := by
  have ho := h₀.orderly.act a
  have hb : Orderly h.bare := { h₀.orderly with }
  have hr : h.bare.desk.Rested h.bare.sessions := h₀.rested.congr rfl rfl rfl
  have hstep := act_step h₀.orderly.filed (fun _ hs ↦ h₀.orderly.given hs) a
  refine ⟨ho, ?_, (hb.rested_step hr hstep).congr rfl rfl rfl⟩
  have hs := h₀.scheduled
  have hf := h₀.orderly.filed
  cases a with
  | issue r => exact hs.of_quiet ⟨rfl, rfl, rfl, rfl, fun _ h ↦ h⟩
  | create n runtime => exact h₀.scheduled_create n runtime
  | settle k o => exact hs.of_quiet (quiet_onSession k fun s ↦ Desk.quiet_settle hf s o)
  | delete k => exact hs.of_quiet (quiet_onSession k fun s ↦ Desk.quiet_delete hf s)
  | deleteOldest id => exact hs.of_quiet (Desk.quiet_deleteOldest hf id)
  | complete n o => exact hs.of_quiet (Desk.quiet_modify n _)
  | advance n next => exact hs.of_quiet (Desk.quiet_advance n next)
  | runTimer i => exact h₀.scheduled_runReady i
  | clock time => exact hs.jump _
  | close => exact hs.of_quiet Desk.quiet_close

theorem run (h₀ : Steady h) (as : List (Act P)) : Steady (h.run as) := by
  induction as generalizing h with
  | nil => exact h₀
  | cons a as ih => exact ih (h₀.act a)

end Steady

/-- The time after which a timer fires on the clock. -/
def wait (h : Shift P) : Time := Agenda.wholeMillis (min h.desk.readTimeout Agenda.longestSleep)

structure OnTime (h : Shift P) : Prop where
  steady : Steady h
  whole : 1000000 ∣ h.desk.now
  wholes : ∀ s ∈ h.sessions, 1000000 ∣ s.registeredAt
  prompt : ∀ s ∈ h.sessions, s.timer ∈ h.desk.timers →
    h.desk.asleepSince s.index = s.registeredAt
  now_le : ∀ τ ∈ h.desk.timers, h.desk.now ≤ h.desk.dueAt τ.index

/-- No time passes for the timers that are left. -/
structure Calm (d d' : Desk P) : Prop where
  now : d'.now = d.now
  readTimeout : d'.readTimeout = d.readTimeout
  timers : d'.timers ⊆ d.timers
  asleep : ∀ i, d'.asleepSince i = d.asleepSince i

theorem Calm.dueAt {d d' : Desk P} (h : Calm d d') (i : Nat) : d'.dueAt i = d.dueAt i := by
  rw [Desk.dueAt, Desk.dueAt, h.asleep, h.readTimeout]

theorem calm_of_quiet {d d' : Desk P} (h : Desk.Quiet d d') : Calm d d' :=
  ⟨h.now, h.readTimeout, h.timers, Desk.asleepSince_congr h.naps h.now⟩

theorem calm_runReady (h₀ : Orderly h) (i : Nat) : Calm h.desk (h.desk.runReady i) := by
  have hbare {d : Desk P} (hc : Calm h.desk d.bare) : Calm h.desk d :=
    ⟨hc.now, hc.readTimeout, hc.timers, hc.asleep⟩
  rcases Desk.bare_runReady h₀.filed i with hb | ⟨-, -, -, hb⟩ | ⟨-, s, -, -, -, hb⟩
  · exact hbare (hb ▸ ⟨rfl, rfl, fun _ h ↦ h, fun _ ↦ rfl⟩)
  · exact hbare (hb ▸ ⟨rfl, rfl, fun _ h ↦ h, fun _ ↦ Desk.asleepSince_doze⟩)
  · exact hbare (hb ▸ ⟨rfl, rfl, List.filter_sublist.subset, fun _ ↦ rfl⟩)

namespace OnTime

theorem start (readTimeout : Time) : OnTime (start readTimeout : Shift P) where
  steady := .start readTimeout
  whole := Nat.dvd_zero _
  wholes := by simp [Shift.start]
  prompt := by simp [Shift.start]
  now_le := by simp [Shift.start]

theorem dueAt_timer (h₀ : OnTime h) (hs : s ∈ h.sessions) (hτ : s.timer ∈ h.desk.timers) :
    h.desk.dueAt s.index = s.registeredAt + h.wait := by
  rw [Desk.dueAt, h₀.prompt s hs hτ, Agenda.dueAfter_of_dvd (h₀.wholes s hs)]
  rfl

theorem calm (h₀ : OnTime h) (hs : Steady h') (he : h'.sessions = h.sessions)
    (hc : Calm h.desk h'.desk) : OnTime h' where
  steady := hs
  whole := hc.now ▸ h₀.whole
  wholes := he ▸ h₀.wholes
  prompt s hmem hτ := (hc.asleep s.index).trans (h₀.prompt s (he ▸ hmem) (hc.timers hτ))
  now_le τ hτ := by
    rw [hc.now, hc.dueAt]
    exact h₀.now_le τ (hc.timers hτ)

theorem create (h₀ : OnTime h) (n : Nat) (runtime : Bool) : OnTime (h.create n runtime) := by
  have hsteady : Steady (h.create n runtime) := h₀.steady.act (.create n runtime)
  rcases h.create_cases n runtime with he | ⟨id, -, he⟩
  · rw [he]
    exact h₀
  rw [he] at hsteady ⊢
  let s := h.desk.nextSession n id
  have hnow : (h.desk.register s).now = h.desk.now := h.desk.now_register s
  have hasleep (i : Nat) : (h.desk.register s).asleepSince i = h.desk.asleepSince i :=
    Desk.asleepSince_congr (h.desk.naps_register s) hnow i
  have hnext : h.desk.asleepSince s.index = h.desk.now :=
    Desk.asleepSince_of_none h₀.steady.rested.naps_next
  have htimers {τ : Timer} (hτ : τ ∈ (h.desk.register s).timers) :
      τ ∈ h.desk.timers ∨ τ = s.timer := by
    rw [Desk.timers_register] at hτ
    split at hτ
    · exact .inl hτ
    · exact (List.mem_append.1 hτ).imp_right List.mem_singleton.1
  refine ⟨hsteady, hnow ▸ h₀.whole, fun x hx ↦ ?_, fun x hx hτ ↦ ?_, fun τ hτ ↦ ?_⟩
  · rcases List.mem_append.1 hx with hx | hx
    · exact h₀.wholes x hx
    · rw [List.mem_singleton.1 hx]
      exact h₀.whole
  · refine (hasleep x.index).trans ?_
    rcases List.mem_append.1 hx with hx | hx
    · refine h₀.prompt x hx ((htimers hτ).resolve_right fun hxs ↦ ?_)
      -- The index of the new timer is new.
      have hle := h₀.steady.orderly.index_le hx
      have hi : x.index = h.desk.counter + 1 := congrArg Timer.index hxs
      rw [← h₀.steady.orderly.counted, hi] at hle
      exact Nat.not_succ_le_self _ hle
    · rw [List.mem_singleton.1 hx]
      exact hnext
  · change (h.desk.register s).now ≤ (h.desk.register s).dueAt τ.index
    rw [Desk.dueAt, hasleep, hnow, Desk.readTimeout_register]
    rcases htimers hτ with hτ | rfl
    · exact h₀.now_le τ hτ
    · exact hnext.ge.trans Agenda.le_dueAfter

theorem clock (h₀ : OnTime h) {time : Time} (hp : h.Prompt (.clock time)) :
    OnTime (h.act (.clock time)) := by
  obtain ⟨hr, hle, hw⟩ := hp
  -- Nothing is ready, so each timer has gone to sleep, and the clock stops when it is due.
  have hslept {τ : Timer} (hτ : τ ∈ h.desk.timers) :
      (h.act (.clock time)).desk.asleepSince τ.index = h.desk.asleepSince τ.index := by
    have hn : h.desk.naps τ.index ≠ none := fun hn ↦ by
      have hm := h₀.steady.scheduled.awake τ hτ hn
      rw [hr] at hm
      cases hm
    exact Desk.asleepSince_of_slept hn rfl
  refine ⟨h₀.steady.act _, ?_, h₀.wholes, fun s hs hτ ↦ ?_, fun τ hτ ↦ ?_⟩
  · change 1000000 ∣ max h.desk.now time
    rcases max_choice h.desk.now time with hm | hm <;> rw [hm]
    · exact h₀.whole
    · exact hw
  · exact (hslept hτ).trans (h₀.prompt s hs hτ)
  · have hm := (h₀.steady.scheduled.set τ hτ).resolve_left (by rw [hr]; simp)
    rw [Desk.dueAt, hslept hτ]
    exact max_le (h₀.now_le τ hτ) (hle _ hm)

theorem act (h₀ : OnTime h) (hp : h.Prompt a) : OnTime (h.act a) := by
  have hs := h₀.steady.act a
  have hf := h₀.steady.orderly.filed
  cases a with
  | issue r => exact h₀.calm hs rfl ⟨rfl, rfl, fun _ h ↦ h, fun _ ↦ rfl⟩
  | create n runtime => exact h₀.create n runtime
  | settle k o =>
    refine h₀.calm hs ?_ (calm_of_quiet (Steady.quiet_onSession k fun s ↦ Desk.quiet_settle hf s o))
    simp only [Shift.act, onSession]
    split <;> rfl
  | delete k =>
    refine h₀.calm hs ?_ (calm_of_quiet (Steady.quiet_onSession k fun s ↦ Desk.quiet_delete hf s))
    simp only [Shift.act, onSession]
    split <;> rfl
  | deleteOldest id => exact h₀.calm hs rfl (calm_of_quiet (Desk.quiet_deleteOldest hf id))
  | complete n o => exact h₀.calm hs rfl (calm_of_quiet (Desk.quiet_modify n _))
  | advance n next => exact h₀.calm hs rfl (calm_of_quiet (Desk.quiet_advance n next))
  | runTimer i => exact h₀.calm hs rfl (calm_runReady h₀.steady.orderly i)
  | clock time => exact h₀.clock hp
  | close => exact h₀.calm hs rfl (calm_of_quiet Desk.quiet_close)

theorem run (h₀ : OnTime h) (hc : h.OnClock as) : OnTime (h.run as) := by
  induction as generalizing h with
  | nil => exact h₀
  | cons a as ih => exact ih (h₀.act hc.1) hc.2

end OnTime

end GameServers.Shift
