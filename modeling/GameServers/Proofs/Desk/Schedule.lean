import GameServers.Proofs.Desk.Naps
import GameServers.Proofs.Desk.Order

namespace GameServers

namespace Agenda

variable {a : Agenda} {t x : Task} {n due : Nat}

theorem mem_ready_wake : x ∈ (a.wake t).ready ↔ x ∈ a.ready ∨ x = t := by
  unfold wake
  split
  · next ht =>
    constructor
    · exact .inl
    · rintro (hx | rfl)
      · exact hx
      · exact ht
  · simp

@[simp] theorem alarms_wake : (a.wake t).alarms = a.alarms := by
  unfold wake; split <;> rfl

theorem mem_insertAlarm {y z : Alarm} {l : List Alarm} :
    y ∈ insertAlarm z l ↔ y = z ∨ y ∈ l := by
  induction l with
  | nil => simp [insertAlarm]
  | cons w l ih =>
    rw [insertAlarm]
    split
    · simp
    · rw [List.mem_cons, ih, List.mem_cons]
      tauto

theorem pairwise_insertAlarm {z : Alarm} {l : List Alarm}
    (h : l.Pairwise fun x y ↦ x.due ≤ y.due) :
    (insertAlarm z l).Pairwise fun x y ↦ x.due ≤ y.due := by
  induction l with
  | nil => simp [insertAlarm]
  | cons w l ih =>
    obtain ⟨hw, hl⟩ := List.pairwise_cons.1 h
    rw [insertAlarm]
    split
    · next hlt =>
      refine List.pairwise_cons.2 ⟨fun y hy ↦ ?_, h⟩
      rcases List.mem_cons.1 hy with rfl | hy
      · omega
      · have := hw y hy
        omega
    · next hle =>
      refine List.pairwise_cons.2 ⟨fun y hy ↦ ?_, ih hl⟩
      rcases mem_insertAlarm.1 hy with rfl | hy
      · omega
      · exact hw y hy

@[simp] theorem alarms_ring : (a.ring n).alarms = a.alarms.dropWhile (·.due ≤ n) :=
  foldl_keeps alarms (fun _ _ ↦ alarms_wake) _ _

theorem mem_ready_ring :
    t ∈ (a.ring n).ready ↔ t ∈ a.ready ∨ ∃ y ∈ a.alarms.takeWhile (·.due ≤ n), y.task = t := by
  have hmem (l : List Alarm) (b : Agenda) :
      t ∈ (l.foldl (fun b x ↦ b.wake x.task) b).ready ↔ t ∈ b.ready ∨ ∃ y ∈ l, y.task = t := by
    induction l generalizing b with
    | nil => simp
    | cons x l ih =>
      rw [List.foldl_cons, ih, mem_ready_wake, List.exists_mem_cons_iff, or_assoc, eq_comm (a := t)]
  rw [ring, hmem]

theorem lt_of_mem_dropWhile {l : List Alarm} (h : l.Pairwise fun x y ↦ x.due ≤ y.due) {y : Alarm}
    (hy : y ∈ l.dropWhile (·.due ≤ n)) : n < y.due := by
  induction l with
  | nil => cases hy
  | cons w l ih =>
    obtain ⟨hw, hl⟩ := List.pairwise_cons.1 h
    rw [List.dropWhile_cons] at hy
    split at hy
    · exact ih hl hy
    · next hle =>
      have hlt : n < w.due := by simpa using hle
      rcases List.mem_cons.1 hy with rfl | hy
      · exact hlt
      · exact lt_of_lt_of_le hlt (hw y hy)

theorem mem_takeWhile_or_dropWhile {l : List Alarm} {p : Alarm → Bool} {y : Alarm} (hy : y ∈ l) :
    y ∈ l.takeWhile p ∨ y ∈ l.dropWhile p := by
  rw [← List.mem_append, List.takeWhile_append_dropWhile]
  exact hy

end Agenda

namespace Desk

variable {P : Protocol} (d : Desk P)

@[simp] theorem agenda_logFor (n : Nat) (e : Ticket P → Event P) :
    (d.logFor n e).agenda = d.agenda := by
  unfold logFor; split <;> rfl

@[simp] theorem agenda_advance (n : Nat) (next : Status) : (d.advance n next).agenda = d.agenda := by
  unfold advance
  split
  · exact agenda_logFor d n _
  · rfl

@[simp] theorem agenda_delete (s : Session) : (d.delete s).agenda = d.agenda := by
  simp only [delete]
  split <;> rfl

@[simp] theorem agenda_settle (s : Session) (o : Outcome P) : (d.settle s o).agenda = d.agenda :=
  agenda_delete _ s

@[simp] theorem agenda_expire (t : Timer) : (d.expire t).agenda = d.agenda := by
  unfold expire
  split
  · rfl
  · exact agenda_settle _ _ _

theorem timers_expire {d : Desk P} (hf : d.registry.WellFiled) {t : Timer} {s : Session}
    (hs : d.registry.find? t.id t.index = some s) :
    (d.expire t).timers = d.timers.filter (·.index ≠ s.index) :=
  (congrArg timers (bare_expire hf hs) :)

@[simp] theorem agenda_close : d.close.agenda = d.agenda := by
  have hr : ∀ (e : Desk P) (s : Session), (e.reportPending s).agenda = e.agenda :=
    fun e s ↦ agenda_logFor e s.ticket _
  simp only [close]
  rw [foldl_keeps (f := cancelTimer) agenda fun _ _ ↦ rfl]
  split
  · rfl
  · rw [foldl_keeps agenda hr]
    rfl

theorem agenda_register (s : Session) : (d.register s).agenda =
    if d.isDone s.ticket then d.agenda else d.agenda.wake (.timer s.index) := by
  simp only [register, agenda_advance, arm]
  change (if d.isDone s.ticket then _ else _ : Desk P).agenda = _
  split <;> rfl

theorem timers_register (s : Session) : (d.register s).timers =
    if d.isDone s.ticket then d.timers else d.timers ++ [s.timer] := by
  cases hd : d.isDone s.ticket with
  | true => exact (congrArg timers (bare_register_of_done hd) :)
  | false => exact (congrArg timers (bare_register hd) :)

theorem bare_register_eq (s : Session) : ∃ l, (d.register s).bare =
    ({ d.bare.record s with timers := l } : Desk P).modify s.ticket (·.advance .registered) := by
  cases hd : d.isDone s.ticket with
  | true => exact ⟨d.timers, bare_register_of_done hd⟩
  | false => exact ⟨d.timers ++ [s.timer], bare_register hd⟩

theorem now_register (s : Session) : (d.register s).now = d.now := by
  obtain ⟨l, hb⟩ := d.bare_register_eq s
  exact (congrArg now hb :)

theorem naps_register (s : Session) : (d.register s).naps = d.naps := by
  obtain ⟨l, hb⟩ := d.bare_register_eq s
  exact (congrArg naps hb :)

theorem readTimeout_register (s : Session) : (d.register s).readTimeout = d.readTimeout := by
  obtain ⟨l, hb⟩ := d.bare_register_eq s
  exact (congrArg readTimeout hb :)

theorem registry_register (s : Session) : (d.register s).registry = d.registry.file s := by
  obtain ⟨l, hb⟩ := d.bare_register_eq s
  exact (congrArg registry hb :)

/-- Nothing is scheduled, no time passes and no timer is set. -/
structure Quiet (d d' : Desk P) : Prop where
  agenda : d'.agenda = d.agenda
  now : d'.now = d.now
  readTimeout : d'.readTimeout = d.readTimeout
  naps : d'.naps = d.naps
  timers : d'.timers ⊆ d.timers

section

variable {d : Desk P}

theorem quiet_refl : Quiet d d := ⟨rfl, rfl, rfl, rfl, fun _ h ↦ h⟩

theorem quiet_modify (n : Nat) (f : Ticket P → Ticket P) : Quiet d (d.modify n f) :=
  ⟨rfl, rfl, rfl, rfl, fun _ h ↦ h⟩

theorem quiet_of_bare {d' e : Desk P} (hb : d'.bare = e) (ha : d'.agenda = d.agenda)
    (hn : e.now = d.now) (hr : e.readTimeout = d.readTimeout) (hp : e.naps = d.naps)
    (ht : e.timers ⊆ d.timers) : Quiet d d' := by
  subst hb
  exact ⟨ha, hn, hr, hp, ht⟩

theorem quiet_advance (n : Nat) (next : Status) : Quiet d (d.advance n next) :=
  quiet_of_bare (d.bare_advance n next) (agenda_advance d n next) rfl rfl rfl fun _ h ↦ h

theorem quiet_delete (hf : d.registry.WellFiled) (s : Session) : Quiet d (d.delete s) :=
  quiet_of_bare (bare_delete hf s) (agenda_delete d s) rfl rfl rfl List.filter_sublist.subset

theorem quiet_deleteOldest (hf : d.registry.WellFiled) (id : SessionId) :
    Quiet d (d.deleteOldest id) := by
  unfold deleteOldest
  split
  · exact quiet_delete hf _
  · exact quiet_refl

theorem quiet_settle (hf : d.registry.WellFiled) (s : Session) (o : Outcome P) :
    Quiet d (d.settle s o) := by
  have hq := quiet_delete (d := d.complete s.ticket o) hf s
  exact ⟨hq.agenda, hq.now, hq.readTimeout, hq.naps, hq.timers⟩

theorem quiet_expire (hf : d.registry.WellFiled) {t : Timer} {s : Session}
    (hs : d.registry.find? t.id t.index = some s) : Quiet d (d.expire t) :=
  quiet_of_bare (bare_expire hf hs) (agenda_expire d t) rfl rfl rfl List.filter_sublist.subset

theorem quiet_close : Quiet d d.close :=
  quiet_of_bare d.bare_close (agenda_close d) rfl rfl rfl List.filter_sublist.subset

end

theorem asleepSince_congr {d d' : Desk P} (hp : d'.naps = d.naps) (hn : d'.now = d.now) (i : Nat) :
    d'.asleepSince i = d.asleepSince i := by
  rw [asleepSince, asleepSince, hp, hn]

theorem dueAt_congr {d d' : Desk P} (hp : d'.naps = d.naps) (hn : d'.now = d.now)
    (hr : d'.readTimeout = d.readTimeout) (i : Nat) : d'.dueAt i = d.dueAt i := by
  rw [dueAt, dueAt, asleepSince_congr hp hn, hr]

theorem asleepSince_of_slept {d d' : Desk P} {i : Nat} (hi : d.naps i ≠ none)
    (hn : d'.naps = d.naps) : d'.asleepSince i = d.asleepSince i := by
  obtain ⟨since, hs⟩ := Option.ne_none_iff_exists'.1 hi
  rw [asleepSince_of_nap hs, asleepSince_of_nap (hn ▸ hs)]

theorem dueAt_of_slept {d d' : Desk P} {i : Nat} (hi : d.naps i ≠ none) (hn : d'.naps = d.naps)
    (hr : d'.readTimeout = d.readTimeout) : d'.dueAt i = d.dueAt i := by
  rw [dueAt, dueAt, asleepSince_of_slept hi hn, hr]

theorem dueAt_jump {d : Desk P} {i : Nat} (hi : d.naps i ≠ none) {time : Time} :
    (clockwork.jump time d).dueAt i = d.dueAt i := dueAt_of_slept hi rfl rfl

theorem Quiet.dueAt {d d' : Desk P} (h : Quiet d d') (i : Nat) : d'.dueAt i = d.dueAt i :=
  dueAt_congr h.naps h.now h.readTimeout i

/-- Alarms are set for timers that have gone to sleep, and wake the task of each in time. -/
structure Scheduled (d : Desk P) : Prop where
  sorted : d.agenda.alarms.Pairwise fun x y ↦ x.due ≤ y.due
  ahead : ∀ x ∈ d.agenda.alarms, d.now < x.due
  whole : ∀ x ∈ d.agenda.alarms, 1000000 ∣ x.due
  tasks : ∀ t ∈ d.agenda.ready, ∃ i, t = .timer i
  known : ∀ x ∈ d.agenda.alarms, ∃ i, x.task = .timer i ∧ d.naps i ≠ none
  due_le : ∀ x ∈ d.agenda.alarms, ∀ τ ∈ d.timers, x.task = .timer τ.index →
    d.dueAt τ.index ≤ x.due
  awake : ∀ τ ∈ d.timers, d.naps τ.index = none → .timer τ.index ∈ d.agenda.ready
  set : ∀ τ ∈ d.timers, .timer τ.index ∈ d.agenda.ready ∨
    ⟨d.dueAt τ.index, .timer τ.index⟩ ∈ d.agenda.alarms

namespace Scheduled

variable {d d' : Desk P}

theorem of_quiet (h : Scheduled d) (hq : Quiet d d') : Scheduled d' where
  sorted := hq.agenda ▸ h.sorted
  ahead := hq.agenda ▸ hq.now ▸ h.ahead
  whole := hq.agenda ▸ h.whole
  tasks := hq.agenda ▸ h.tasks
  known := hq.agenda ▸ hq.naps ▸ h.known
  due_le x hx τ hτ he := by
    rw [hq.dueAt]
    exact h.due_le x (hq.agenda ▸ hx) τ (hq.timers hτ) he
  awake τ hτ hn := hq.agenda ▸ h.awake τ (hq.timers hτ) (hq.naps ▸ hn)
  set τ hτ := by
    rw [hq.dueAt, hq.agenda]
    exact h.set τ (hq.timers hτ)

theorem of_append (h : Scheduled d) {τ : Timer} (hp : d.naps τ.index = none)
    (ha : d'.agenda = d.agenda.wake (.timer τ.index)) (hn : d'.now = d.now)
    (hr : d'.readTimeout = d.readTimeout) (hd : d'.naps = d.naps)
    (ht : d'.timers = d.timers ++ [τ]) : Scheduled d' := by
  have halarms : d'.agenda.alarms = d.agenda.alarms := by rw [ha, Agenda.alarms_wake]
  have hready {t : Task} : t ∈ d'.agenda.ready ↔ t ∈ d.agenda.ready ∨ t = .timer τ.index := by
    rw [ha, Agenda.mem_ready_wake]
  have htimers {υ : Timer} : υ ∈ d'.timers ↔ υ ∈ d.timers ∨ υ = τ := by simp [ht]
  have hdue (i : Nat) : d'.dueAt i = d.dueAt i := dueAt_congr hd hn hr i
  refine ⟨halarms ▸ h.sorted, halarms ▸ hn ▸ h.ahead, halarms ▸ h.whole, fun t hm ↦ ?_,
    halarms ▸ hd ▸ h.known, fun x hx υ hυ he ↦ ?_, fun υ hυ hno ↦ ?_, fun υ hυ ↦ ?_⟩
  · rcases hready.1 hm with hm | rfl
    · exact h.tasks t hm
    · exact ⟨_, rfl⟩
  · rw [halarms] at hx
    rw [hdue]
    rcases htimers.1 hυ with hυ | rfl
    · exact h.due_le x hx υ hυ he
    · obtain ⟨i, he', hslept⟩ := h.known x hx
      rw [Task.timer.inj (he'.symm.trans he)] at hslept
      exact absurd hp hslept
  · rcases htimers.1 hυ with hυ | rfl
    · exact hready.2 (.inl (h.awake υ hυ (hd ▸ hno)))
    · exact hready.2 (.inr rfl)
  · rw [hready, halarms, hdue]
    rcases htimers.1 hυ with hυ | rfl
    · exact (h.set υ hυ).imp_left .inl
    · exact .inl (.inr rfl)

theorem jump (h : Scheduled d) (time : Time) : Scheduled (clockwork.jump time d) := by
  have halarms : (clockwork.jump time d).agenda.alarms =
      d.agenda.alarms.dropWhile (·.due ≤ time) := Agenda.alarms_ring
  have hready {t : Task} : t ∈ (clockwork.jump time d).agenda.ready ↔ t ∈ d.agenda.ready ∨
      ∃ x ∈ d.agenda.alarms.takeWhile (·.due ≤ time), x.task = t := Agenda.mem_ready_ring
  have hsub : (clockwork.jump time d).agenda.alarms.Sublist d.agenda.alarms := by
    rw [halarms]
    exact List.dropWhile_sublist _
  refine ⟨h.sorted.sublist hsub, fun x hx ↦ ?_, fun x hx ↦ h.whole x (hsub.subset hx),
    fun t hm ↦ ?_, fun x hx ↦ h.known x (hsub.subset hx), fun x hx τ hτ he ↦ ?_,
    fun τ hτ hno ↦ hready.2 (.inl (h.awake τ hτ hno)), fun τ hτ ↦ ?_⟩
  · rw [halarms] at hx
    exact Agenda.lt_of_mem_dropWhile h.sorted hx
  · rcases hready.1 hm with hm | ⟨x, hx, rfl⟩
    · exact h.tasks t hm
    · obtain ⟨i, he, -⟩ := h.known x (List.takeWhile_sublist _ |>.subset hx)
      exact ⟨i, he⟩
  · obtain ⟨i, he', hslept⟩ := h.known x (hsub.subset hx)
    rw [Task.timer.inj (he'.symm.trans he)] at hslept
    rw [dueAt_jump hslept]
    exact h.due_le x (hsub.subset hx) τ hτ he
  · by_cases hslept : d.naps τ.index = none
    · exact .inl (hready.2 (.inl (h.awake τ hτ hslept)))
    · rw [hready, halarms, dueAt_jump hslept]
      rcases h.set τ hτ with hm | hm
      · exact .inl (.inl hm)
      · rcases Agenda.mem_takeWhile_or_dropWhile hm with hm | hm
        · exact .inl (.inr ⟨_, hm, rfl⟩)
        · exact .inr hm

theorem of_erase (h : Scheduled d) {i : Nat}
    (hq : Quiet { d with agenda := { d.agenda with ready := d.agenda.ready.erase (.timer i) } } d')
    (ht : ∀ τ ∈ d'.timers, τ.index ≠ i) : Scheduled d' := by
  have hready {t : Task} (hne : t ≠ .timer i) (hm : t ∈ d.agenda.ready) : t ∈ d'.agenda.ready := by
    rw [hq.agenda]
    exact (List.mem_erase_of_ne hne).2 hm
  have hne {τ : Timer} (hτ : τ ∈ d'.timers) : Task.timer τ.index ≠ .timer i :=
    fun he ↦ ht τ hτ (Task.timer.inj he)
  have halarms : d'.agenda.alarms = d.agenda.alarms := (congrArg Agenda.alarms hq.agenda :)
  exact {
    sorted := halarms ▸ h.sorted
    ahead := halarms ▸ hq.now ▸ h.ahead
    whole := halarms ▸ h.whole
    tasks := fun t hm ↦ h.tasks t (List.mem_of_mem_erase (hq.agenda ▸ hm))
    known := halarms ▸ hq.naps ▸ h.known
    due_le := fun x hx τ hτ he ↦ by
      rw [hq.dueAt]
      exact h.due_le x (halarms ▸ hx) τ (hq.timers hτ) he
    awake := fun τ hτ hno ↦ hready (hne hτ) (h.awake τ (hq.timers hτ) (hq.naps ▸ hno))
    set := fun τ hτ ↦ by
      rw [hq.dueAt, halarms]
      exact (h.set τ (hq.timers hτ)).imp_left (hready (hne hτ)) }

theorem of_sleep (h : Scheduled d) {i : Nat} (hdue : d.now < d.dueAt i) :
    Scheduled { d.doze i with agenda := ({ d.agenda with
      ready := d.agenda.ready.erase (.timer i) } : Agenda).sleepUntil (d.dueAt i) (.timer i) } := by
  have hmem {x : Alarm} : x ∈ Agenda.insertAlarm ⟨d.dueAt i, .timer i⟩ d.agenda.alarms ↔
      x = ⟨d.dueAt i, .timer i⟩ ∨ x ∈ d.agenda.alarms := Agenda.mem_insertAlarm
  have hsame (k : Nat) : (d.doze i).dueAt k = d.dueAt k :=
    congrArg (Agenda.dueAfter · d.readTimeout) asleepSince_doze
  refine ⟨Agenda.pairwise_insertAlarm h.sorted, fun x hx ↦ ?_, fun x hx ↦ ?_,
    fun t hm ↦ h.tasks t (List.mem_of_mem_erase hm), fun x hx ↦ ?_, fun x hx τ hτ he ↦ ?_,
    fun τ hτ hno ↦ ?_, fun τ hτ ↦ ?_⟩
  · rcases hmem.1 hx with rfl | hx
    · exact hdue
    · exact h.ahead x hx
  · rcases hmem.1 hx with rfl | hx
    · exact Agenda.dvd_dueAfter
    · exact h.whole x hx
  · rcases hmem.1 hx with rfl | hx
    · exact ⟨i, rfl, by simp⟩
    · obtain ⟨k, he, hslept⟩ := h.known x hx
      refine ⟨k, he, ?_⟩
      by_cases hk : k = i
      · rw [hk]
        simp
      · exact (naps_doze_of_ne hk).trans_ne hslept
  · refine (hsame τ.index).trans_le ?_
    rcases hmem.1 hx with rfl | hx
    · rw [Task.timer.inj he]
    · exact h.due_le x hx τ hτ he
  · by_cases hi : τ.index = i
    · rw [hi] at hno
      exact absurd hno (by simp)
    · have hno' : d.naps τ.index = none := (naps_doze_of_ne hi).symm.trans hno
      exact (List.mem_erase_of_ne fun he ↦ hi (Task.timer.inj he)).2 (h.awake τ hτ hno')
  · change _ ∨ (⟨(d.doze i).dueAt τ.index, .timer τ.index⟩ : Alarm) ∈ _
    rw [hsame]
    by_cases hi : τ.index = i
    · rw [hi]
      exact .inr (hmem.2 (.inl rfl))
    · refine (h.set τ hτ).imp (fun hm ↦ ?_) fun hx ↦ hmem.2 (.inr hx)
      exact (List.mem_erase_of_ne fun he ↦ hi (Task.timer.inj he)).2 hm

theorem register (h : Scheduled d) {s : Session} (hp : d.naps s.index = none) :
    Scheduled (d.register s) := by
  have ha := d.agenda_register s
  have ht := d.timers_register s
  cases hd : d.isDone s.ticket with
  | true =>
    rw [if_pos hd] at ha ht
    exact h.of_quiet ⟨ha, d.now_register s, d.readTimeout_register s, d.naps_register s,
      fun _ hτ ↦ ht ▸ hτ⟩
  | false =>
    rw [hd] at ha ht
    exact h.of_append (τ := s.timer) hp ha (d.now_register s) (d.readTimeout_register s)
      (d.naps_register s) ht

end Scheduled

end Desk

end GameServers
