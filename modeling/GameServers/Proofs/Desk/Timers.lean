import GameServers.Plain
import GameServers.Proofs.Desk.Clock

namespace GameServers.Shift

variable {P : Protocol} {h h' : Shift P} {s : Session} {a : Act P} {as bs : List (Act P)}

/-- A session that has left does not come back, and one that stays keeps its timer. -/
structure Follows (h h' : Shift P) : Prop where
  readTimeout : h'.desk.readTimeout = h.desk.readTimeout
  sessions : h.sessions ⊆ h'.sessions
  stays : ∀ s ∈ h.sessions, s ∈ h'.desk.registry.entries → s ∈ h.desk.registry.entries
  armed : ∀ s ∈ h.sessions, s ∈ h'.desk.registry.entries → ∀ τ ∈ h.desk.timers,
    τ.index = s.index → τ ∈ h'.desk.timers

namespace Follows

theorem refl (h : Shift P) : Follows h h :=
  ⟨rfl, fun _ h ↦ h, fun _ _ h ↦ h, fun _ _ _ _ h _ ↦ h⟩

theorem trans {h'' : Shift P} (h₁ : Follows h h') (h₂ : Follows h' h'') : Follows h h'' where
  readTimeout := h₂.readTimeout.trans h₁.readTimeout
  sessions := fun _ hs ↦ h₂.sessions (h₁.sessions hs)
  stays := fun s hs hm ↦ h₁.stays s hs (h₂.stays s (h₁.sessions hs) hm)
  armed := fun s hs hm τ hτ hi ↦
    have hs' := h₁.sessions hs
    h₂.armed s hs' hm τ (h₁.armed s hs (h₂.stays s hs' hm) τ hτ hi) hi

theorem strike (h₀ : Orderly h) {x : Session} (hx : x ∈ h.sessions) (n : Nat)
    (f : Ticket P → Ticket P) : Follows h { h with desk := (h.desk.modify n f).strike x } where
  readTimeout := rfl
  sessions := fun _ h ↦ h
  stays := fun s _ hm ↦ ((h₀.mem_remove hx).1 hm).1
  armed := fun s hs hm τ hτ hi ↦ by
    have hne := ((h₀.mem_remove hx).1 hm).2
    refine List.mem_filter.2 ⟨hτ, decide_eq_true fun he ↦ hne ?_⟩
    exact h₀.eq_of_index hs hx (hi.symm.trans he)

theorem file (h₀ : Orderly h) {n : Nat} {id : SessionId} {d : Desk P}
    (hr : d.readTimeout = h.desk.readTimeout)
    (hf : d.registry = h.desk.registry.file (h.desk.nextSession n id))
    (ht : h.desk.timers ⊆ d.timers) :
    Follows h { desk := d, sessions := h.sessions ++ [h.desk.nextSession n id] } where
  readTimeout := hr
  sessions := List.subset_append_left _ _
  stays := fun s hs hm ↦ by
    change s ∈ d.registry.entries at hm
    rw [hf, Registry.mem_entries_file] at hm
    refine hm.resolve_left fun he ↦ ?_
    have hle := h₀.index_le hs
    rw [← h₀.counted, he] at hle
    exact Nat.not_succ_le_self _ hle
  armed := fun s _ _ τ hτ _ ↦ ht hτ

theorem step (h₀ : Orderly h) (hs : Step h h') : Follows h h' := by
  cases hs with
  | idle => exact refl h
  | clock time => exact ⟨rfl, fun _ h ↦ h, fun _ _ h ↦ h, fun _ _ _ _ h _ ↦ h⟩
  | doze τ => exact ⟨rfl, fun _ h ↦ h, fun _ _ h ↦ h, fun _ _ _ _ h _ ↦ h⟩
  | issue r => exact ⟨rfl, fun _ h ↦ h, fun _ _ h ↦ h, fun _ _ _ _ h _ ↦ h⟩
  | move n f => exact ⟨rfl, fun _ h ↦ h, fun _ _ h ↦ h, fun _ _ _ _ h _ ↦ h⟩
  | enroll n t id => exact file h₀ rfl rfl (List.subset_append_left _ _)
  | record n t id => exact file h₀ rfl rfl fun _ h ↦ h
  | withdraw s f hs => exact strike h₀ hs s.ticket f
  | expire τ s hτ hd hs =>
    have hmem := h₀.given (h₀.filed.find?_eq_some hs).1
    exact strike h₀ hmem s.ticket _
  | close => exact ⟨rfl, fun _ h ↦ h, fun _ _ hm ↦ (by cases hm), fun _ _ hm ↦ (by cases hm)⟩

theorem act (h₀ : Orderly h) (a : Act P) : Follows h (h.act a) := by
  have hb : Orderly h.bare := { h₀ with }
  have hf := step hb (act_step h₀.filed (fun _ hs ↦ h₀.given hs) a)
  exact ⟨hf.readTimeout, hf.sessions, hf.stays, hf.armed⟩

theorem run (h₀ : Orderly h) (as : List (Act P)) : Follows h (h.run as) := by
  induction as generalizing h with
  | nil => exact refl h
  | cons a as ih => exact (act h₀ a).trans (ih (h₀.act a))

end Follows

/-- A timer that is due takes out its own session, which was registered that long ago, and rejects
the promise behind it if that is not settled. -/
structure TimesOut (h h' : Shift P) (s : Session) (elapsed : Time) : Prop where
  registered : s ∈ h.desk.registry.entries
  armed : s.timer ∈ h.desk.timers
  due : h.desk.dueAt s.index ≤ h.desk.now
  now : h.desk.now = s.registeredAt + elapsed
  rejected : ∀ t, h.desk.tickets[s.ticket]? = some t → ∃ t', h'.desk.tickets[s.ticket]? = some t' ∧
    t'.outcome = some (t.outcome.getD (.error (.readTimeout s.id ⟨elapsed⟩)))
  others : ∀ n ≠ s.ticket, h'.desk.tickets[n]? = h.desk.tickets[n]?
  entries : h'.desk.registry.entries = h.desk.registry.entries.filter (· ≠ s)
  timers : h'.desk.timers = h.desk.timers.filter (·.index ≠ s.index)

/-- Settled, deleted, or cleared by closing. -/
def Act.Withdraws (s : Session) : Act P → Prop
  | .settle k _ => k + 1 = s.index
  | .delete k => k + 1 = s.index
  | .deleteOldest id => id = s.id
  | .close => True
  | _ => False

instance (s : Session) (a : Act P) : Decidable (a.Withdraws s) :=
  match a with
  | .settle k _ | .delete k => inferInstanceAs (Decidable (k + 1 = s.index))
  | .deleteOldest id => inferInstanceAs (Decidable (id = s.id))
  | .close => .isTrue trivial
  | .issue _ | .create _ _ | .complete _ _ | .advance _ _ | .runTimer _ | .clock _ => .isFalse id

theorem Orderly.timesOut (h₀ : Orderly h) {i : Nat} (hf : h.desk.Fires i h'.desk)
    (hr : h.desk.Rested h.sessions) :
    ∃ s, s.index = i ∧ TimesOut h h' s (h.desk.now - s.registeredAt) := by
  obtain ⟨τ, s, hτ, hdue, hfind, hb⟩ := hf
  obtain ⟨x, hx, rfl, rfl, hfind'⟩ := h₀.of_timerAt? hτ
  obtain rfl : s = x := Option.some.inj (hfind.symm.trans hfind')
  let elapsed : Duration := ⟨h.desk.now - s.registeredAt⟩
  have htickets : h'.desk.tickets =
      (h.desk.modify s.ticket (·.complete (.error (.readTimeout s.id elapsed)))).tickets :=
    (congrArg Desk.tickets hb :)
  have hregistry : h'.desk.registry = h.desk.registry.remove s := (congrArg Desk.registry hb :)
  exact ⟨s, rfl, {
    registered := hx
    armed := (Desk.timerAt?_eq_some hτ).1
    due := hdue
    now := (Nat.add_sub_cancel' (hr.begun s (h₀.given hx))).symm
    rejected := fun t ht ↦ by
      rw [htickets]
      refine ⟨_, Desk.getElem?_modify_of_some ht, ?_⟩
      cases ho : t.outcome with
      | none => rw [t.complete_of_none _ ho]; rfl
      | some o => rw [t.complete_of_some _ (by simp [ho]), ho]; rfl
    others := fun n hne ↦ by
      rw [htickets]
      exact Desk.getElem?_modify_of_ne hne
    entries := by
      rw [hregistry]
      exact h₀.entries_remove (h₀.given hx)
    timers := (congrArg Desk.timers hb :) }⟩

theorem Steady.runTimer_cases (h₀ : Steady h) (i : Nat) :
    (h.act (.runTimer i)).bare = h.bare ∨
      (h.act (.runTimer i)).bare = (h.mapDesk (·.doze i)).bare ∨
      ∃ s elapsed, s.index = i ∧ TimesOut h (h.act (.runTimer i)) s elapsed := by
  have ho := h₀.orderly
  rcases Desk.bare_runReady ho.filed i with hb | ⟨τ, -, -, hb⟩ | hf
  · exact .inl (congrArg (fun d ↦ { h with desk := d }) hb)
  · exact .inr (.inl (congrArg (fun d ↦ { h with desk := d }) hb))
  · have hfires : h.desk.Fires i (h.act (.runTimer i)).desk := hf
    obtain ⟨s, hi, ht⟩ := ho.timesOut hfires h₀.rested
    exact .inr (.inr ⟨s, _, hi, ht⟩)

/-- No timer fires early. -/
theorem Steady.le_elapsed (h₀ : Steady h) {elapsed : Time} (ht : TimesOut h h' s elapsed) :
    min h.desk.readTimeout Agenda.longestSleep ≤ elapsed := by
  have hdue := ht.due
  rw [ht.now, Desk.dueAt, Agenda.dueAfter_eq] at hdue
  have hstart := (h₀.rested.bounds (h₀.orderly.given ht.registered)).1
  have hle := Agenda.le_wholeMillis.trans hdue
  exact Nat.le_of_add_le_add_left ((Nat.add_le_add_right hstart _).trans hle)

/-- On time, a timer fires at the very moment at which it is due. -/
theorem OnTime.elapsed_eq (h₀ : OnTime h) {elapsed : Time} (ht : TimesOut h h' s elapsed) :
    elapsed = h.wait := by
  have hmem := h₀.steady.orderly.given ht.registered
  have hdue : h.desk.dueAt s.index = h.desk.now :=
    Nat.le_antisymm ht.due (h₀.now_le _ ht.armed)
  rw [h₀.dueAt_timer hmem ht.armed, ht.now] at hdue
  exact (Nat.add_left_cancel hdue).symm

theorem Orderly.mem_of_delete (h₀ : Orderly h) {d : Desk P} {x : Session} (hx : x ∈ h.sessions)
    (hb : d.bare.registry = h.desk.registry.remove x) (hs : s ∈ h.desk.registry.entries)
    (hn : s ∉ d.registry.entries) : s = x := by
  change d.registry = _ at hb
  rw [hb] at hn
  by_contra hne
  exact hn ((h₀.mem_remove hx).2 ⟨hs, hne⟩)

/-- Only its own timer takes a session out, apart from those who settle, delete or clear it. -/
theorem Steady.leaves (h₀ : Steady h) (hs : s ∈ h.desk.registry.entries)
    (hn : s ∉ (h.act a).desk.registry.entries) : a.Withdraws s ∨ a = .runTimer s.index ∧
      ∃ elapsed, TimesOut h (h.act a) s elapsed := by
  have ho := h₀.orderly
  cases a with
  | issue r => exact absurd hs hn
  | create n runtime =>
    refine absurd ?_ hn
    change s ∈ (h.create n runtime).desk.registry.entries
    rcases h.create_cases n runtime with he | ⟨id, -, he⟩
    · rwa [he]
    · rw [he]
      change s ∈ (h.desk.register _).registry.entries
      rw [Desk.registry_register]
      exact Registry.mem_entries_file.2 (.inr hs)
  | settle k o =>
    simp only [Shift.act, onSession] at hn
    split at hn
    · next x hx =>
      have hx' := List.mem_of_getElem? hx
      have he := ho.mem_of_delete hx' (congrArg Desk.registry (Desk.bare_settle ho.filed x o)) hs hn
      exact .inl (he ▸ (ho.numbered hx).symm)
    · exact absurd hs hn
  | delete k =>
    simp only [Shift.act, onSession] at hn
    split at hn
    · next x hx =>
      have hx' := List.mem_of_getElem? hx
      have he := ho.mem_of_delete hx' (congrArg Desk.registry (Desk.bare_delete ho.filed x)) hs hn
      exact .inl (he ▸ (ho.numbered hx).symm)
    · exact absurd hs hn
  | deleteOldest id =>
    simp only [Shift.act, mapDesk, Desk.deleteOldest] at hn
    split at hn
    · next x hx =>
      obtain ⟨hx', hid, -⟩ := ho.filed.oldest?_eq_some hx
      have he := ho.mem_of_delete (ho.given hx')
        (congrArg Desk.registry (Desk.bare_delete ho.filed x)) hs hn
      exact .inl (he ▸ hid.symm)
    · exact absurd hs hn
  | complete n o => exact absurd hs hn
  | advance n next =>
    have hr : (h.desk.advance n next).registry = h.desk.registry :=
      (congrArg Desk.registry (h.desk.bare_advance n next) :)
    exact absurd (hr ▸ hs) hn
  | runTimer i =>
    -- A timer that does not fire takes no session out.
    have hkept {k : Shift P} (hb : (h.act (.runTimer i)).bare = k.bare)
        (hk : k.desk.registry = h.desk.registry) : False := by
      have hr : (h.act (.runTimer i)).desk.registry = k.desk.registry :=
        (congrArg (fun h : Shift P ↦ h.desk.registry) hb :)
      exact hn ((hr.trans hk) ▸ hs)
    rcases h₀.runTimer_cases i with hb | hb | ⟨x, elapsed, rfl, hx⟩
    · exact (hkept hb rfl).elim
    · exact (hkept hb rfl).elim
    · rw [hx.entries, List.mem_filter, not_and, decide_eq_true_iff, not_not] at hn
      obtain rfl := hn hs
      exact .inr ⟨rfl, elapsed, hx⟩
  | clock time => exact absurd hs hn
  | close => exact .inl trivial

/-- At some moment of a run the timer of a session takes it out, after that time. -/
def ExpiresIn (h : Shift P) (as : List (Act P)) (s : Session) (elapsed : Time) : Prop :=
  ∃ bs cs, as = bs ++ .runTimer s.index :: cs ∧
    TimesOut (h.run bs) ((h.run bs).act (.runTimer s.index)) s elapsed

/-- At some moment of a run a session is settled, deleted, or cleared by closing. -/
def WithdrawnIn (h : Shift P) (as : List (Act P)) (s : Session) : Prop :=
  ∃ bs a cs, as = bs ++ a :: cs ∧ a.Withdraws s ∧ s ∈ (h.run bs).desk.registry.entries ∧
    s ∉ ((h.run bs).act a).desk.registry.entries

theorem OnTime.gone (h₀ : OnTime h) (hc : h.OnClock as) (hs : s ∈ h.desk.registry.entries)
    (hn : s ∉ (h.run as).desk.registry.entries) :
    h.ExpiresIn as s h.wait ∨ h.WithdrawnIn as s := by
  induction as generalizing h with
  | nil => exact absurd hs hn
  | cons a as ih =>
    by_cases hs' : s ∈ (h.act a).desk.registry.entries
    · have hw : (h.act a).wait = h.wait := by
        rw [wait, wait, (Follows.act h₀.steady.orderly a).readTimeout]
      rcases ih (h₀.act hc.1) hc.2 hs' hn with ⟨bs, cs, rfl, hx⟩ | ⟨bs, b, cs, rfl, hx⟩
      · exact .inl ⟨a :: bs, cs, rfl, hw ▸ hx⟩
      · exact .inr ⟨a :: bs, b, cs, rfl, hx⟩
    · rcases h₀.steady.leaves hs hs' with hw | ⟨rfl, elapsed, hx⟩
      · exact .inr ⟨[], a, as, rfl, hw, hs, hs'⟩
      · exact .inl ⟨[], as, rfl, h₀.elapsed_eq hx ▸ hx⟩

theorem eq_of_departs (h₀ : Orderly h) {b : Act P} {cs ds : List (Act P)}
    (hs : s ∈ h.desk.registry.entries) (hn : s ∉ (h.act a).desk.registry.entries)
    (hs' : s ∈ (h.run as).desk.registry.entries) (he : a :: cs = as ++ b :: ds) : a = b := by
  cases as with
  | nil => exact (List.cons.inj he).1
  | cons c as =>
    obtain rfl := (List.cons.inj he).1
    -- The run goes on after the session has left.
    have hf := Follows.run (h₀.act a) as
    have hmem := (Follows.act h₀ a).sessions (h₀.given hs)
    exact absurd (hf.stays s hmem hs') hn

theorem Orderly.departs_once (h₀ : Orderly h) {b : Act P} {cs bs' cs' : List (Act P)}
    (he : bs ++ a :: cs = bs' ++ b :: cs') (hs : s ∈ (h.run bs).desk.registry.entries)
    (hn : s ∉ ((h.run bs).act a).desk.registry.entries)
    (hs' : s ∈ (h.run bs').desk.registry.entries)
    (hn' : s ∉ ((h.run bs').act b).desk.registry.entries) : a = b := by
  rcases List.append_eq_append_iff.1 he with ⟨l, rfl, hl⟩ | ⟨l, rfl, hl⟩
  · rw [run_append] at hs'
    exact eq_of_departs (h₀.run bs) hs hn hs' hl
  · rw [run_append] at hs
    exact (eq_of_departs (h₀.run bs') hs' hn' hs hl).symm

theorem Orderly.not_withdrawnIn (h₀ : Orderly h) {elapsed : Time} (hx : h.ExpiresIn as s elapsed) :
    ¬ h.WithdrawnIn as s := by
  rintro ⟨bs', b, cs', he, hw, hs', hn'⟩
  obtain ⟨bs, cs, rfl, ht⟩ := hx
  have hn : s ∉ ((h.run bs).act (.runTimer s.index)).desk.registry.entries := by
    rw [ht.entries, List.mem_filter]
    simp
  obtain rfl := h₀.departs_once he ht.registered hn hs' hn'
  exact hw

/-- What the read timeout does to a session that has just been registered: it is taken out by its
timer after that time, if it is not withdrawn before. -/
structure Punctual (h : Shift P) (as : List (Act P)) (s : Session) (wait : Time) : Prop where
  registered : s ∈ h.desk.registry.entries
  now : s.registeredAt = h.desk.now
  on_time : s ∈ (h.run as).desk.registry.entries → (h.run as).desk.now ≤ s.registeredAt + wait
  expires_iff : s.registeredAt + wait < (h.run as).desk.now ∨
    s.registeredAt + wait = (h.run as).desk.now ∧ (h.run as).desk.agenda.ready = [] →
    (h.ExpiresIn as s wait ↔ ¬ h.WithdrawnIn as s)

theorem OnTime.punctual (h₀ : OnTime h) (hc : h.OnClock as) (hs : s ∈ h.desk.registry.entries)
    (hn : s.registeredAt = h.desk.now) (hτ : s.timer ∈ h.desk.timers) :
    Punctual h as s h.wait := by
  have ho := h₀.steady.orderly
  have h₁ := h₀.run hc
  have hf := Follows.run ho as
  have hmem := ho.given hs
  -- As long as the session stays, its timer is still to come.
  have hdue (hs' : s ∈ (h.run as).desk.registry.entries) : s.timer ∈ (h.run as).desk.timers ∧
      (h.run as).desk.dueAt s.index = s.registeredAt + h.wait := by
    have hτ' := hf.armed s hmem hs' _ hτ rfl
    refine ⟨hτ', (h₁.dueAt_timer (hf.sessions hmem) hτ').trans ?_⟩
    rw [wait, wait, hf.readTimeout]
  refine ⟨hs, hn, fun hs' ↦ ?_, fun hpast ↦ ⟨ho.not_withdrawnIn, fun hw ↦ ?_⟩⟩
  · obtain ⟨hτ', hd⟩ := hdue hs'
    exact hd ▸ h₁.now_le _ hτ'
  · refine (h₀.gone hc hs fun hs' ↦ ?_).resolve_right hw
    obtain ⟨hτ', hd⟩ := hdue hs'
    rcases hpast with hlt | ⟨he, hr⟩
    · exact absurd hlt (Nat.not_lt_of_le (hd ▸ h₁.now_le _ hτ'))
    · have hlt : (h.run as).desk.now < (h.run as).desk.dueAt s.index := h₁.steady.lt_dueAt hr hτ'
      rw [hd] at hlt
      exact absurd he hlt.ne'

theorem OnTime.punctual_create (h₀ : OnTime h) {n : Nat} (hc : h.OnClock (.create n true :: as))
    (hd : h.desk.isDone n = false) (hs : (h.desk.create n true).2 = .ok s) :
    Punctual (h.act (.create n true)) as s h.wait := by
  have h₁ := h₀.act hc.1
  have hw : (h.act (.create n true)).wait = h.wait := by
    rw [wait, wait, (Follows.act h₀.steady.orderly (.create n true)).readTimeout]
  cases hi : h.desk.idFor n true with
  | error e =>
    rw [Desk.create_of_error hi] at hs
    cases hs
  | ok id =>
    have hd' : ¬ h.desk.isDone (h.desk.nextSession n id).ticket = true := Bool.eq_false_iff.1 hd
    have hcreate := Desk.create_of_ok hi
    rw [hcreate] at hs
    obtain rfl := Except.ok.inj hs
    have he : (h.act (.create n true)).desk = h.desk.register (h.desk.nextSession n id) := by
      simp only [Shift.act, Shift.create, hcreate]
    rw [← hw]
    refine h₁.punctual hc.2 ?_ ?_ ?_
    · rw [he, Desk.registry_register]
      exact Registry.mem_entries_file.2 (.inl rfl)
    · rw [he, Desk.now_register]
      rfl
    · rw [he, Desk.timers_register, if_neg hd']
      exact List.mem_append_right _ (.head _)

/-- Once closed, a desk registers nothing. -/
def Shut (h : Shift P) : Prop := h.desk.closed = true ∧ h.desk.registry.entries = []

theorem Shut.step (h₀ : Orderly h) (hz : h.Shut) (hs : Step h h') : h'.Shut := by
  obtain ⟨hc, he⟩ := hz
  cases hs with
  | idle => exact ⟨hc, he⟩
  | clock time => exact ⟨hc, he⟩
  | doze τ => exact ⟨hc, he⟩
  | issue r => exact ⟨hc, he⟩
  | move n f => exact ⟨hc, he⟩
  | enroll n t id hopen => rw [hc] at hopen; cases hopen
  | record n t id hopen => rw [hc] at hopen; cases hopen
  | withdraw s f hs =>
    refine ⟨hc, (h₀.entries_remove hs).trans ?_⟩
    rw [he, List.filter_nil]
  | expire τ s hτ hd hs =>
    have hm := (h₀.filed.find?_eq_some hs).1
    rw [he] at hm
    cases hm
  | close => exact ⟨rfl, rfl⟩

theorem Shut.run (h₀ : Orderly h) (hz : h.Shut) (as : List (Act P)) : (h.run as).Shut := by
  induction as generalizing h with
  | nil => exact hz
  | cons a as ih =>
    have hb : Orderly h.bare := { h₀ with }
    have hs : (h.act a).bare.Shut :=
      Shut.step hb hz (act_step h₀.filed (fun _ hs ↦ h₀.given hs) a)
    exact ih (h₀.act a) hs

theorem shut_close (h : Shift P) : (h.act .close).Shut := by
  have hb := h.desk.bare_close
  have hr : h.desk.close.registry = {} := (congrArg Desk.registry hb :)
  exact ⟨(congrArg Desk.closed hb :), congrArg Registry.entries hr⟩

theorem runTimer_of_shut (h₀ : Steady h) (hz : h.Shut) (i : Nat) :
    (h.act (.runTimer i)).bare = h.bare := by
  have hnone : h.desk.timerAt? i = none := by
    cases hτ : h.desk.timerAt? i with
    | none => rfl
    | some τ =>
      obtain ⟨s, hs, -⟩ := h₀.orderly.of_timerAt? hτ
      rw [hz.2] at hs
      cases hs
  rcases Desk.bare_runReady h₀.orderly.filed i with hb | ⟨τ, hτ, -⟩ | ⟨τ, -, hτ, -⟩
  · exact congrArg (fun d ↦ { h with desk := d }) hb
  · rw [hnone] at hτ
    cases hτ
  · rw [hnone] at hτ
    cases hτ

theorem Orderly.shut_of_mem (h₀ : Orderly h) (hm : .close ∈ as) : (h.run as).Shut := by
  obtain ⟨bs, cs, rfl⟩ := List.append_of_mem hm
  rw [run_append]
  exact (shut_close (h.run bs)).run ((h₀.run bs).act .close) cs

/-- A timer fires at its own session only, never before the read timeout is over, and when no task
is ready none is overdue; once the desk is closed none does anything. On the clock each fires
exactly when it is due, if its session is still there. Sleeps end at whole milliseconds, and last no
longer than thirty years. -/
theorem timers_hit_their_own_sessions (readTimeout : Time) (as : List (Act P)) :
    let h := (start readTimeout : Shift P).run as
    let wait := Agenda.wholeMillis (min readTimeout Agenda.longestSleep)
    (∀ i, (h.act (.runTimer i)).bare = h.bare ∨
      (h.act (.runTimer i)).bare = (h.mapDesk (·.doze i)).bare ∨
      ∃ s elapsed, s.index = i ∧ TimesOut h (h.act (.runTimer i)) s elapsed ∧
        min readTimeout Agenda.longestSleep ≤ elapsed) ∧
    (∀ s ∈ h.sessions, s.registeredAt ≤ h.desk.asleepSince s.index ∧
      (h.desk.agenda.ready = [] → s.timer ∈ h.desk.timers →
        h.desk.now < Agenda.dueAfter (h.desk.asleepSince s.index) readTimeout)) ∧
    (.close ∈ as → ∀ i, (h.act (.runTimer i)).bare = h.bare) ∧
    ((start readTimeout : Shift P).OnClock as →
      (∀ i s elapsed, TimesOut h (h.act (.runTimer i)) s elapsed → elapsed = wait) ∧
      ∀ n s after, h.desk.isDone n = false → (h.desk.create n true).2 = .ok s →
        h.OnClock (.create n true :: after) → Punctual (h.act (.create n true)) after s wait) := by
  intro h wait
  have h₀ : Steady h := (Steady.start readTimeout).run as
  have hT : h.desk.readTimeout = readTimeout :=
    (Follows.run (.start readTimeout) as : Follows (start readTimeout) h).readTimeout
  have hwait : h.wait = wait := by rw [Shift.wait, hT]
  refine ⟨fun i ↦ ?_, fun s hs ↦ ⟨(h₀.rested.bounds hs).1, fun hr hτ ↦ ?_⟩, fun hm i ↦ ?_,
    fun hc ↦ ?_⟩
  · refine (h₀.runTimer_cases i).imp_right (.imp_right ?_)
    rintro ⟨s, elapsed, hi, ht⟩
    exact ⟨s, elapsed, hi, ht, hT ▸ h₀.le_elapsed ht⟩
  · have hlt := h₀.lt_dueAt hr hτ
    rwa [Desk.dueAt, hT] at hlt
  · exact runTimer_of_shut h₀ ((Orderly.start readTimeout).shut_of_mem hm) i
  · have h₁ : OnTime h := (OnTime.start readTimeout).run hc
    refine ⟨fun i s elapsed ht ↦ (h₁.elapsed_eq ht).trans hwait, fun n s after hd hs hc' ↦ ?_⟩
    exact hwait ▸ h₁.punctual_create hc' hd hs

/-- A ticket is registered twice. One session is settled at the very instant at which both timers
are due; only the other one is left to its timer. -/
theorem pings_time_out :
    let q : Plain.Message := ⟨.info, some (.v6 ⟨0, 0, 0, 0, 0, 0, 0, 1⟩ 1 0 0), ""⟩
    let first : Session := ⟨⟨"INFO:::1:1"⟩, 1, 0, 0⟩
    let second : Session := ⟨⟨"INFO:::1:1"⟩, 2, 0, 0⟩
    let begun : List (Act Plain.protocol) := [.issue q, .create 0 true, .runTimer 1]
    let waited : List (Act Plain.protocol) := [.runTimer 2, .clock (.ofMillis 5000),
      .settle 0 (.error .closed), .runTimer 1]
    let h := (start (.ofMillis 5000)).run begun
    let shut := (start (.ofMillis 5000)).run (begun ++ [.close])
    (first ∈ h.sessions ∧ h.desk.agenda.ready = [] ∧ first.timer ∈ h.desk.timers ∧
      h.desk.now < Agenda.dueAfter (h.desk.asleepSince first.index) (Time.ofMillis 5000)) ∧
    (shut.act (.runTimer 1)).bare = shut.bare ∧
    (start (.ofMillis 5000)).OnClock begun ∧
    h.OnClock (.create 0 true :: (waited ++ [.runTimer 2])) ∧
    Punctual (h.act (.create 0 true)) (waited ++ [.runTimer 2]) second (.ofMillis 5000) ∧
    (((h.act (.create 0 true)).run waited).act (.runTimer 2)).bare.desk.registry.entries = [] := by
  intro q first second begun waited h shut
  obtain ⟨-, hdue, -, hclock⟩ := timers_hit_their_own_sessions (P := Plain.protocol)
    (.ofMillis 5000) begun
  obtain ⟨-, -, hshut, -⟩ := timers_hit_their_own_sessions (P := Plain.protocol)
    (.ofMillis 5000) (begun ++ [.close])
  have hs : first ∈ h.sessions := by decide +kernel
  have hr : h.desk.agenda.ready = [] := by decide +kernel
  have hτ : first.timer ∈ h.desk.timers := by decide +kernel
  have hc : (start (.ofMillis 5000)).OnClock begun := by decide +kernel
  have hc' : h.OnClock (.create 0 true :: (waited ++ [.runTimer 2])) := by decide +kernel
  have hp := (hclock hc).2 0 second (waited ++ [.runTimer 2]) (by decide +kernel)
    (by decide +kernel) hc'
  have hwait : Agenda.wholeMillis (min (Time.ofMillis 5000) Agenda.longestSleep) =
      Time.ofMillis 5000 := by decide +kernel
  exact ⟨⟨hs, hr, hτ, (hdue first hs).2 hr hτ⟩, hshut (by simp) 1, hc, hc', hwait ▸ hp,
    by decide +kernel⟩

/-- With a read timeout above thirty years a timer fires before it, although nobody has withdrawn
the session, and with one that is no whole number of milliseconds, after it. If the clock does not
wait for the tasks, the timer fires late, by as much as it went to sleep late or as the clock has
gone too far. -/
theorem timer_fires_off_time :
    let q : Plain.Message := ⟨.info, some (.v6 ⟨0, 0, 0, 0, 0, 0, 0, 1⟩ 1 0 0), ""⟩
    let s : Session := ⟨⟨"INFO:::1:1"⟩, 1, 0, 0⟩
    let begun (readTimeout : Time) := (start readTimeout).run [.issue q, .create 0 true]
    let fired (readTimeout : Time) (as : List (Act Plain.protocol)) :=
      ((begun readTimeout).run as).desk.registry.entries = [] ∧
        ((begun readTimeout).run as.dropLast).desk.registry.entries = [s]
    let years : List (Act Plain.protocol) := [.runTimer 1, .clock Agenda.longestSleep, .runTimer 1]
    let part : List (Act Plain.protocol) := [.runTimer 1, .clock 2000000, .runTimer 1]
    let late : List (Act Plain.protocol) := [.clock (.ofMillis 3000), .runTimer 1,
      .clock (.ofMillis 5000), .runTimer 1, .clock (.ofMillis 8000), .runTimer 1]
    let far : List (Act Plain.protocol) := [.runTimer 1, .clock (.ofMillis 6000), .runTimer 1]
    ((begun (.ofMillis 1000000000000)).OnClock years ∧
      fired (.ofMillis 1000000000000) years ∧
      ((begun (.ofMillis 1000000000000)).run years).desk.now <
        s.registeredAt + .ofMillis 1000000000000) ∧
    ((begun 1500000).OnClock part ∧ fired 1500000 part ∧
      ((begun 1500000).run part).desk.now = s.registeredAt + 2000000) ∧
    (fired (.ofMillis 5000) late ∧
      ((begun (.ofMillis 5000)).run late).desk.now = s.registeredAt + .ofMillis 8000) ∧
    (fired (.ofMillis 5000) far ∧
      ((begun (.ofMillis 5000)).run far).desk.now = s.registeredAt + .ofMillis 6000) := by
  decide +kernel

end GameServers.Shift
