import GameServers.Proofs.Courier.Still
import GameServers.Proofs.Courier.Writing

namespace GameServers.Courier

variable {P : Protocol} {m m' : Courier P} {s : Session} {i n w : Nat}

def sessions (m : Courier P) : List Session := m.writes.map Write.session

theorem sessions_setWrite (m : Courier P) (w : Nat) (ws : WriteState) :
    (m.setWrite w ws).sessions = m.sessions := by
  simp only [sessions, setWrite]
  refine List.ext_getElem? fun k ↦ ?_
  rw [List.getElem?_map, List.getElem?_map, List.getElem?_modify]
  split
  · cases m.writes[k]? <;> rfl
  · simp

theorem Sound.given (h : Sound m) (hs : s ∈ m.desk.registry.entries) : s ∈ m.sessions := by
  obtain ⟨w, x, hx, rfl, -⟩ := h.known hs
  exact List.mem_map_of_mem (List.mem_of_getElem? hx)

theorem Sound.of_mem_timers (h : Sound m) {τ : Timer} (hτ : τ ∈ m.desk.timers) :
    ∃ s ∈ m.desk.registry.entries, s.timer = τ := List.mem_map.1 (h.timed.mem_iff.1 hτ)

theorem Step.rested (hm : Sound m) (h : Step m m') (hr : m.desk.Rested m.sessions) :
    m'.desk.Rested m'.sessions := by
  cases h with
  | clock time ht => exact hr.clock ht
  | doze τ hτ =>
    obtain ⟨s, hs, rfl⟩ := hm.of_mem_timers hτ
    exact hr.doze (hm.index_le hs)
  | take n rest t id =>
    simp only [sessions, List.map_append]
    exact hr.add rfl rfl rfl
  | abort w | start w | sent w | putBack w | fail w =>
    have hl := m.sessions_setWrite w
    simp only [sessions] at hl hr ⊢
    rw [hl]
    exact hr.congr rfl rfl rfl
  | _ => exact hr.congr rfl rfl rfl

theorem Step.counter_le (h : Step m m') : m.desk.counter ≤ m'.desk.counter := by
  cases h with
  | take => exact Nat.le_succ _
  | _ => exact le_rfl

theorem counter_act (h : Sound m) (a : Act P) : m.desk.counter ≤ (m.act a).desk.counter :=
  (act_step h.filed a).counter_le

/-- A session that has gone does not come back: later ones have greater indices. -/
theorem Sound.stays_out_run (h : Sound m) (hi : s.index ≤ m.desk.counter)
    (hs : s ∉ m.desk.registry.entries) (as : List (Act P)) :
    s ∉ (m.run as).desk.registry.entries := by
  refine (h.kept (I := fun k ↦ s.index ≤ k.desk.counter ∧ s ∉ k.desk.registry.entries)
    (fun _ ↦ .rfl) (fun {k _} hk hstep ↦ ?_) ⟨hi, hs⟩ as).2
  rintro ⟨hi, hs⟩
  have hremove (x : Session) : s ∉ (k.desk.registry.remove x).entries :=
    fun hm ↦ hs (hk.filed.mem_entries_remove.1 hm).1
  cases hstep with
  | take n rest t id =>
    refine ⟨Nat.le_succ_of_le hi, fun hm ↦ ?_⟩
    rcases Registry.mem_entries_file.1 hm with rfl | hm
    · exact absurd hi (Nat.not_succ_le_self _)
    · exact hs hm
  | settle x | putBack _ x | fail _ x => exact ⟨hi, hremove x⟩
  | closeRegistry => exact ⟨hi, by simp [Registry.entries]⟩
  | _ => exact ⟨hi, hs⟩

theorem naps_act (m : Courier P) {a : Act P} (ha : ∀ i, a ≠ .runTimer i) :
    (m.act a).desk.naps = m.desk.naps := by
  cases a with
  | send r runtime => exact (still_send m r runtime).naps
  | accept x => exact (still_accept m x).naps
  | work => exact (still_work m).naps
  | startWrite w => exact (still_startWrite m w).naps
  | finishWrite w result => exact (still_finishWrite m w result).naps
  | runTimer i => exact absurd rfl (ha i)
  | beginClose => exact (still_beginClose m).naps
  | closeRegistry =>
    simp only [act]
    split
    · exact (congrArg Desk.naps m.desk.bare_close :)
    · rfl
  | abortWorker | endClose =>
    simp only [act]
    split <;> rfl
  | clock | schedule | note | drop => rfl

def Act.isRun (i : Nat) : Act P → Bool
  | .runTimer k => k = i
  | _ => false

/-- When the task of a timer first runs, if it does. Before the timer is set there is no such
task. -/
def firstRun? (m : Courier P) (i : Nat) : List (Act P) → Option Time
  | [] => none
  | a :: as =>
    if a.isRun i && (m.desk.timerAt? i).isSome then some m.desk.now
    else (m.act a).firstRun? i as

/-- No time passes as long as the task of a timer has yet to run. -/
def Patient (m : Courier P) : List (Act P) → Prop
  | [] => True
  | a :: as => ((∃ τ ∈ m.desk.timers, m.desk.naps τ.index = none) →
      (m.act a).desk.now = m.desk.now) ∧ (m.act a).Patient as

instance decidablePatient (m : Courier P) : (as : List (Act P)) → Decidable (m.Patient as)
  | [] => .isTrue trivial
  | a :: as =>
    have := decidablePatient (m.act a) as
    inferInstanceAs (Decidable (_ ∧ (m.act a).Patient as))

namespace Sound

theorem isRegistered_timer (h : Sound m) {τ : Timer} (hτ : m.desk.timerAt? i = some τ) :
    ∃ s, s.index = i ∧ m.desk.registry.find? τ.id τ.index = some s := by
  obtain ⟨hmem, rfl⟩ := Desk.timerAt?_eq_some hτ
  obtain ⟨s, hs, rfl⟩ := h.of_mem_timers hmem
  cases hf : m.desk.registry.find? s.id s.index with
  | none => exact absurd ⟨rfl, rfl⟩ (h.filed.find?_eq_none.1 hf s hs)
  | some x => exact ⟨x, (h.filed.find?_eq_some hf).2.2, hf⟩

theorem index_ne_of_due (h : Sound m) {τ : Timer} (hτ : m.desk.timerAt? i = some τ)
    (hdue : m.desk.dueAt i ≤ m.desk.now) (hs : s ∈ (m.act (.runTimer i)).desk.registry.entries) :
    s.index ≠ i := by
  obtain ⟨x, rfl, hx⟩ := h.isRegistered_timer hτ
  have hr : (m.act (.runTimer x.index)).desk.registry = m.desk.registry.remove x := by
    change (m.desk.runTimer x.index).registry = _
    simp only [Desk.runTimer, hτ, if_pos hdue]
    exact congrArg Desk.registry (Desk.bare_expire h.filed hx)
  obtain ⟨hmem, hn⟩ := h.filed.mem_entries_remove.1 (hr ▸ hs)
  obtain ⟨w, y, hy, rfl, -⟩ := h.known (h.filed.find?_eq_some hx).1
  intro hi
  rw [h.entry_eq_of_index hy hmem hi] at hn
  exact hn ⟨rfl, rfl⟩

theorem naps_runTimer (m : Courier P) (i k : Nat) :
    (m.act (.runTimer i)).desk.naps k =
      if k = i ∧ (m.desk.timerAt? i).isSome ∧ m.desk.now < m.desk.dueAt i then
        some (m.desk.asleepSince i)
      else m.desk.naps k := by
  change (m.desk.runTimer i).naps k = _
  unfold Desk.runTimer
  cases hτ : m.desk.timerAt? i with
  | none => simp
  | some τ =>
    simp only
    split
    · next hdue =>
      rw [if_neg fun hn ↦ Nat.not_lt_of_le hdue hn.2.2, Desk.naps_expire]
    · next hdue =>
      by_cases hk : k = i
      · rw [if_pos ⟨hk, rfl, Nat.lt_of_not_le hdue⟩, hk]
        exact Desk.naps_doze_self
      · rw [if_neg fun hn ↦ hk hn.1]
        exact Desk.naps_doze_of_ne hk

theorem naps_act_of_not_run {a : Act P}
    (ha : ¬ (a.isRun i && (m.desk.timerAt? i).isSome) = true) :
    (m.act a).desk.naps i = m.desk.naps i := by
  cases a with
  | runTimer k =>
    rw [naps_runTimer, if_neg]
    rintro ⟨rfl, hset, -⟩
    exact ha (Bool.and_eq_true_iff.2 ⟨decide_eq_true rfl, hset⟩)
  | _ => exact congrFun (naps_act m (by simp)) i

/-- The sleep of a timer whose session is still registered began when its task first ran. -/
theorem naps_run (h : Sound m) (as : List (Act P)) (hs : s ∈ (m.run as).desk.registry.entries) :
    (m.run as).desk.naps s.index = (m.desk.naps s.index).or (m.firstRun? s.index as) := by
  -- From the front: the sleep has begun before, or begins now, or does so later.
  induction as generalizing m with
  | nil =>
    rw [firstRun?, Option.or_none]
    rfl
  | cons a as ih =>
    change ((m.act a).run as).desk.naps s.index = _
    rw [ih (h.act a) hs, firstRun?]
    split
    · next ha =>
      obtain ⟨hrun, hset⟩ := Bool.and_eq_true_iff.1 ha
      obtain rfl : a = .runTimer s.index := by
        cases a with
        | runTimer k => rw [of_decide_eq_true hrun]
        | _ => cases hrun
      obtain ⟨τ, hτ⟩ := Option.isSome_iff_exists.1 hset
      have hlt : m.desk.now < m.desk.dueAt s.index := by
        by_contra hdue
        -- It would fire, and its session would not come back.
        obtain ⟨x, hi, hx⟩ := h.isRegistered_timer hτ
        have hle : s.index ≤ (m.act (.runTimer s.index)).desk.counter :=
          hi ▸ (h.index_le (h.filed.find?_eq_some hx).1).trans (counter_act h _)
        refine (h.act _).stays_out_run hle (fun hm ↦ ?_) as hs
        exact h.index_ne_of_due hτ (Nat.le_of_not_lt hdue) hm rfl
      rw [naps_runTimer, if_pos ⟨rfl, hset, hlt⟩, Option.some_or, Option.or_some]
      rfl
    · next ha => rw [naps_act_of_not_run ha]

theorem rested_run (h : Sound m) (hr : m.desk.Rested m.sessions) (as : List (Act P)) :
    (m.run as).desk.Rested (m.run as).sessions :=
  h.kept (I := fun k ↦ k.desk.Rested k.sessions)
    (fun _ ↦ ⟨fun h ↦ h.congr rfl rfl rfl, fun h ↦ h.congr rfl rfl rfl⟩)
    (fun hk hs ↦ hs.rested hk) hr as

end Sound

theorem rested_make (config : Config) :
    (make config : Courier P).desk.Rested (make config : Courier P).sessions :=
  .start config.readTimeout

/-- The sleeps of timers began at the registrations of their sessions. -/
def Brisk (d : Desk P) : Prop := ∀ s ∈ d.registry.entries, d.asleepSince s.index = s.registeredAt

theorem Step.brisk (hm : Sound m) (hr : m.desk.Rested m.sessions) (h : Step m m')
    (hp : (∃ τ ∈ m.desk.timers, m.desk.naps τ.index = none) → m'.desk.now = m.desk.now)
    (hf : Brisk m.desk) : Brisk m'.desk := by
  have hremove (x : Session) : Brisk (m.desk.strike x) :=
    fun s hs ↦ hf s (hm.filed.mem_entries_remove.1 hs).1
  cases h with
  | clock time =>
    intro s hs
    rw [← hf s hs]
    cases hn : m.desk.naps s.index with
    | none =>
      have hτ : s.timer ∈ m.desk.timers := hm.timed.mem_iff.2 (List.mem_map_of_mem hs)
      have hnow : time = m.desk.now := hp ⟨_, hτ, hn⟩
      rw [hnow]
    | some since =>
      have hn' : ({ m.desk with now := time } : Desk P).naps s.index = some since := hn
      rw [Desk.asleepSince_of_nap hn, Desk.asleepSince_of_nap hn']
  | doze τ =>
    intro s hs
    exact Desk.asleepSince_doze.trans (hf s hs)
  | take n rest t id =>
    intro s hs
    rcases Registry.mem_entries_file.1 hs with rfl | hs
    · exact Desk.asleepSince_of_none hr.naps_next
    · exact hf s hs
  | settle x | putBack _ x | fail _ x => exact hremove x
  | closeRegistry => exact fun s hs ↦ by simp [Registry.entries] at hs
  | _ => exact hf

theorem Sound.brisk_run (h : Sound m) (hr : m.desk.Rested m.sessions) (hf : Brisk m.desk)
    {as : List (Act P)} (hp : m.Patient as) : Brisk (m.run as).desk := by
  induction as generalizing m with
  | nil => exact hf
  | cons a as ih =>
    have hb : Sound m.bare := { h with }
    have hbrisk : Brisk (m.act a).bare.desk :=
      (act_step h.filed a).brisk hb (hr.congr rfl rfl rfl) hp.1 hf
    exact ih (h.act a) (h.rested_run hr [a]) hbrisk hp.2

end GameServers.Courier
