import GameServers.Courier
import GameServers.Proofs.Desk.Order

namespace GameServers

variable {P : Protocol}

namespace Registry

variable {r : Registry} {s x : Session} {id : SessionId}

theorem WellFiled.bucket_remove_of_ne (h : r.WellFiled) (hne : s.id ≠ id) :
    (r.remove s).bucket id = r.bucket id := by
  rw [(h.remove s).bucket_eq_filter, h.entries_remove, List.filter_filter, h.bucket_eq_filter]
  refine List.filter_congr fun x _ ↦ ?_
  by_cases hx : x.id = id
  · simp [samePlace, hx, hne.symm]
  · simp [hx]

theorem WellFiled.oldest?_remove_of_ne (h : r.WellFiled) (hne : s.id ≠ id) :
    (r.remove s).oldest? id = r.oldest? id := by
  rw [oldest?, h.bucket_remove_of_ne hne, oldest?]

theorem WellFiled.find?_remove_of_ne (h : r.WellFiled) (hne : s.id ≠ id) (i : Nat) :
    (r.remove s).find? id i = r.find? id i := by
  rw [find?, h.bucket_remove_of_ne hne, find?]

theorem remove_comm (r : Registry) (hne : s.id ≠ x.id) :
    (r.remove s).remove x = (r.remove x).remove s := by
  simp only [remove, List.filterMap_filterMap]
  refine congrArg Registry.mk (List.filterMap_congr fun b _ ↦ ?_)
  -- A bucket is of one id, so at most one of the two looks into it.
  have hid {b' : Bucket} {i : Nat} (hb : Bucket.without b i = some b') : b'.id = b.id := by
    rw [(without_eq_some hb).1]
  by_cases hs : b.id = s.id
  · have hx : b.id ≠ x.id := fun he ↦ hne (hs.symm.trans he)
    cases hw : Bucket.without b s.index with
    | none => simp [hs, hne, hw]
    | some b' => simp [hs, hne, hw, hid hw]
  · by_cases hx : b.id = x.id
    · cases hw : Bucket.without b x.index with
      | none => simp [hx, hne.symm, hw]
      | some b' => simp [hx, hne.symm, hw, hid hw]
    · simp [hs, hx]

end Registry

namespace Desk

/-- What can be done to the sessions under an id. -/
inductive Operation (P : Protocol)
  | respond (r : P.Response)
  | settle (s : Session) (outcome : Outcome P)
  | deleteOldest (id : SessionId)
  | delete (s : Session)
  /-- The timer of a session runs, if it has one. -/
  | timer (s : Session)

def operate (d : Desk P) : Operation P → Desk P
  | .respond r => Courier.correlate d (.ok r)
  | .settle s o => d.settle s o
  | .deleteOldest id => d.deleteOldest id
  | .delete s => d.delete s
  | .timer s => d.runTimer s.index

/-- What the caller is told: whether it is this operation that settles the ticket, or that takes out
a session. -/
def reply? (d : Desk P) : Operation P → Option Bool
  | .settle s _ => some (!d.isSettled s.ticket)
  | .deleteOldest id => some (d.registry.oldest? id).isSome
  | .delete s => some (d.isRegistered s)
  | .respond _ | .timer _ => none

/-- It is this operation that settles the ticket, or that takes out a session. -/
def TakesEffect (d : Desk P) : Operation P → Prop
  | .settle s o => d.isSettled s.ticket = false ∧ (d.settle s o).isSettled s.ticket = true
  | x => (d.operate x).registry.size < d.registry.size

/-- All that an operation does, apart from reports and schedules. -/
inductive Effect (P : Protocol)
  /-- A session goes, and something becomes of its ticket. -/
  | loss (s : Session) (f : Ticket P → Ticket P)
  /-- The timer of a session goes to sleep. -/
  | nap (s : Session)

def Effect.session : Effect P → Session
  | .loss s _ | .nap s => s

def suffer (d : Desk P) : Option (Effect P) → Desk P
  | none => d
  | some (.loss s f) => (d.modify s.ticket f).strike s
  | some (.nap s) => d.doze s.index

def effect? (d : Desk P) : Operation P → Option (Effect P)
  | .respond r =>
    (Envelope.response r : Envelope P).sessionId.toOption.bind fun id ↦
      (d.registry.oldest? id).map (.loss · (·.complete (.ok r)))
  | .settle s o => some (.loss s (·.complete o))
  | .deleteOldest i => (d.registry.oldest? i).map (.loss · id)
  | .delete s => some (.loss s id)
  | .timer s =>
    (d.timerAt? s.index).bind fun τ ↦
      if d.dueAt s.index ≤ d.now then
        (d.registry.find? τ.id τ.index).map fun x ↦ .loss x (·.complete (.error (.readTimeout x.id
          ⟨d.now - x.registeredAt⟩)))
      else some (.nap s)

variable {d : Desk P} {s : Session} {f : Ticket P → Ticket P}

theorem bare_delete_eq_suffer (h : d.registry.WellFiled) (s : Session) :
    (d.delete s).bare = d.bare.suffer (some (.loss s id)) := by
  have hid : d.bare.modify s.ticket id = d.bare := modify_eq_self fun _ _ ↦ rfl
  rw [bare_delete h, suffer, hid]

theorem bare_operate (h : d.registry.WellFiled) (x : Operation P) :
    (d.operate x).bare = d.bare.suffer (d.effect? x) := by
  cases x with
  | respond r =>
    simp only [operate, Courier.correlate, sessionFor, effect?]
    cases hi : (Envelope.response r : Envelope P).sessionId with
    | error e => rfl
    | ok id =>
      cases hs : d.registry.oldest? id with
      | none => simp [Except.toOption, hs, suffer]
      | some s =>
        have hb := bare_settle (d := d.log (.matched s.id s.index)) h s (.ok r)
        simpa [Except.toOption, hs, suffer] using hb
  | settle s o => exact bare_settle h s o
  | deleteOldest id =>
    simp only [operate, deleteOldest, effect?]
    cases d.registry.oldest? id with
    | none => rfl
    | some s => exact bare_delete_eq_suffer h s
  | delete s => exact bare_delete_eq_suffer h s
  | timer s =>
    change (d.runTimer s.index).bare = _
    cases hτ : d.timerAt? s.index with
    | none =>
      simp only [runTimer, effect?, hτ]
      rfl
    | some τ =>
      by_cases hdue : d.dueAt s.index ≤ d.now
      · simp only [runTimer, effect?, hτ, Option.bind_some, if_pos hdue]
        cases hx : d.registry.find? τ.id τ.index with
        | none => exact bare_expire_of_none hx
        | some x => exact bare_expire h hx
      · simp only [runTimer, effect?, hτ, Option.bind_some, if_neg hdue]
        rfl

theorem eq_of_effect? {x : Operation P} (h : d.effect? x = some (.loss s f)) :
    f = id ∨ ∃ o, f = (·.complete o) := by
  have hf {g : Ticket P → Ticket P} {y : Session} (he : Effect.loss y g = .loss s f) : g = f :=
    (Effect.loss.inj he).2
  cases x with
  | respond r =>
    obtain ⟨i, -, h⟩ := Option.bind_eq_some_iff.1 h
    obtain ⟨x, -, h⟩ := Option.map_eq_some_iff.1 h
    exact .inr ⟨_, (hf h).symm⟩
  | settle x o => exact .inr ⟨o, (hf (Option.some.inj h)).symm⟩
  | deleteOldest i =>
    obtain ⟨x, -, h⟩ := Option.map_eq_some_iff.1 h
    exact .inl (hf h).symm
  | delete x => exact .inl (hf (Option.some.inj h)).symm
  | timer x =>
    obtain ⟨τ, -, h⟩ := Option.bind_eq_some_iff.1 h
    split at h
    · obtain ⟨x, -, h⟩ := Option.map_eq_some_iff.1 h
      exact .inr ⟨_, (hf h).symm⟩
    · cases h

theorem registry_operate (h : d.registry.WellFiled) (x : Operation P) :
    (d.operate x).registry.WellFiled := by
  have hb : (d.operate x).registry = (d.bare.suffer (d.effect? x)).registry :=
    (congrArg registry (bare_operate h x) :)
  rw [hb]
  match d.effect? x with
  | none | some (.nap s) => exact h
  | some (.loss s f) => exact h.remove s

/-- Effects on sessions with different tickets, ids and indices. -/
theorem suffer_comm (d : Desk P) {e e' : Effect P} (ht : e.session.ticket ≠ e'.session.ticket)
    (hid : e.session.id ≠ e'.session.id) (hi : e.session.index ≠ e'.session.index) :
    (d.suffer (some e)).suffer (some e') = (d.suffer (some e')).suffer (some e) := by
  cases e with
  | loss s f =>
    cases e' with
    | loss s' f' =>
      have htickets : (d.tickets.modify s.ticket f).modify s'.ticket f' =
          (d.tickets.modify s'.ticket f').modify s.ticket f := by
        refine List.ext_getElem? fun k ↦ ?_
        simp only [List.getElem?_modify]
        by_cases hk : s.ticket = k
        · have hk' : s'.ticket ≠ k := fun he ↦ ht (hk.trans he.symm)
          simp [hk, hk']
        · simp [hk]
      have htimers : (d.timers.filter (·.index ≠ s.index)).filter (·.index ≠ s'.index) =
          (d.timers.filter (·.index ≠ s'.index)).filter (·.index ≠ s.index) := by
        simp only [List.filter_filter, Bool.and_comm]
      have hregistry := d.registry.remove_comm (s := s) (x := s') hid
      simp only [suffer, modify, strike, htickets, htimers, hregistry]
    | nap s' => rfl
  | nap s =>
    cases e' with
    | loss s' f' => rfl
    | nap s' =>
      have hnaps : ((d.doze s.index).doze s'.index).naps = ((d.doze s'.index).doze s.index).naps := by
        funext i
        have hi : s.index ≠ s'.index := hi
        by_cases his : i = s.index
        · rw [his, naps_doze_of_ne hi, naps_doze_self, naps_doze_self, asleepSince_doze]
        · rw [naps_doze_of_ne (d := d.doze s'.index) his]
          by_cases his' : i = s'.index
          · rw [his', naps_doze_self, naps_doze_self, asleepSince_doze]
          · rw [naps_doze_of_ne his', naps_doze_of_ne his', naps_doze_of_ne his]
      exact congrArg (fun naps ↦ ({ d with naps } : Desk P)) hnaps

end Desk

namespace Shift

open Desk (Operation Effect)

/-- The operation is about sessions under the id. -/
def On (h : Shift P) (id : SessionId) : Operation P → Prop
  | .respond r => (Envelope.response r : Envelope P).sessionId = .ok id
  | .settle s _ | .delete s | .timer s => s ∈ h.sessions ∧ s.id = id
  | .deleteOldest id' => id' = id

variable {h : Shift P} {a b : SessionId} {x y : Operation P} {e e' : Effect P} {s : Session}

namespace Orderly

theorem id_of_timerAt? (h₀ : Orderly h) (hs : s ∈ h.sessions) {τ : Timer}
    (hτ : h.desk.timerAt? s.index = some τ) : τ.id = s.id := by
  obtain ⟨hmem, hi⟩ := Desk.timerAt?_eq_some hτ
  obtain ⟨x, hx, rfl⟩ := h₀.owned hmem
  rw [← h₀.eq_of_index (h₀.given hx) hs hi]
  rfl

theorem of_effect? (h₀ : Orderly h) (hx : h.On a x) (he : h.desk.effect? x = some e) :
    e.session ∈ h.sessions ∧ e.session.id = a := by
  have holdest {i : SessionId} {s : Session} (hs : h.desk.registry.oldest? i = some s) :
      s ∈ h.sessions ∧ s.id = i := by
    obtain ⟨hmem, hid, -⟩ := h₀.filed.oldest?_eq_some hs
    exact ⟨h₀.given hmem, hid⟩
  cases x with
  | respond r =>
    have hid : (Envelope.response r : Envelope P).sessionId = .ok a := hx
    simp only [Desk.effect?, hid, Except.toOption, Option.bind_some, Option.map_eq_some_iff] at he
    obtain ⟨s, hs, rfl⟩ := he
    exact holdest hs
  | settle s o | delete s =>
    obtain rfl := Option.some.inj he
    exact hx
  | deleteOldest id =>
    obtain rfl : id = a := hx
    obtain ⟨s, hs, rfl⟩ := Option.map_eq_some_iff.1 he
    exact holdest hs
  | timer s =>
    obtain ⟨hs, rfl⟩ := hx
    obtain ⟨τ, hτ, he⟩ := Option.bind_eq_some_iff.1 he
    split at he
    · obtain ⟨x, hx, rfl⟩ := Option.map_eq_some_iff.1 he
      obtain ⟨hmem, hxid, -⟩ := h₀.filed.find?_eq_some hx
      exact ⟨h₀.given hmem, hxid.trans (h₀.id_of_timerAt? hs hτ)⟩
    · obtain rfl := Option.some.inj he
      exact ⟨hs, rfl⟩

theorem ticket_ne (h₀ : Orderly h) {s s' : Session} (hs : s ∈ h.sessions) (hs' : s' ∈ h.sessions)
    (hne : s.id ≠ s'.id) : s.ticket ≠ s'.ticket := by
  intro he
  obtain ⟨t, ht, hid⟩ := h₀.named hs
  obtain ⟨t', ht', hid'⟩ := h₀.named hs'
  rw [he, ht'] at ht
  obtain rfl := Option.some.inj ht
  exact hne (Except.ok.inj (hid.symm.trans hid'))

theorem index_ne (h₀ : Orderly h) {s s' : Session} (hs : s ∈ h.sessions) (hs' : s' ∈ h.sessions)
    (hne : s.id ≠ s'.id) : s.index ≠ s'.index :=
  fun he ↦ hne (congrArg _ (h₀.eq_of_index hs hs' he))

section

variable (h₀ : Orderly h) (he : e.session ∈ h.sessions)
include h₀ he

theorem timerAt?_suffer (hs : s ∈ h.sessions) (hne : e.session.id ≠ s.id) :
    (h.desk.bare.suffer (some e)).timerAt? s.index = h.desk.timerAt? s.index := by
  cases e with
  | nap x => rfl
  | loss x f =>
    have hi : x.index ≠ s.index := h₀.index_ne he hs hne
    change (h.desk.timers.filter _).find? _ = h.desk.timers.find? _
    rw [List.find?_filter]
    refine congrArg (List.find? · _) (funext fun τ ↦ ?_)
    by_cases hτ : τ.index = s.index
    · simp [hτ, hi.symm]
    · simp [hτ]

omit h₀ he in
theorem dueAt_suffer (d : Desk P) (e : Effect P) (i : Nat) :
    (d.suffer (some e)).dueAt i = d.dueAt i := by
  cases e with
  | loss s f => rfl
  | nap s => exact congrArg (Agenda.dueAfter · d.readTimeout) Desk.asleepSince_doze

omit he in
theorem oldest?_suffer (hne : e.session.id ≠ b) :
    (h.desk.bare.suffer (some e)).registry.oldest? b = h.desk.registry.oldest? b := by
  cases e with
  | nap s => rfl
  | loss s f => exact h₀.filed.oldest?_remove_of_ne hne

omit he in
theorem find?_suffer (hne : e.session.id ≠ b) (i : Nat) :
    (h.desk.bare.suffer (some e)).registry.find? b i = h.desk.registry.find? b i := by
  cases e with
  | nap s => rfl
  | loss s f => exact h₀.filed.find?_remove_of_ne hne i

theorem isSettled_suffer (hs : s ∈ h.sessions) (hne : e.session.id ≠ s.id) :
    (h.desk.bare.suffer (some e)).isSettled s.ticket = h.desk.isSettled s.ticket := by
  cases e with
  | nap x => rfl
  | loss x f =>
    have ht : x.ticket ≠ s.ticket := h₀.ticket_ne he hs hne
    have htickets : (h.desk.bare.suffer (some (.loss x f))).tickets[s.ticket]? =
        h.desk.tickets[s.ticket]? := Desk.getElem?_modify_of_ne (d := h.desk) ht.symm
    simp only [Desk.isSettled, htickets]

theorem effect?_suffer (hy : h.On b y) (hne : e.session.id ≠ b) :
    (h.desk.bare.suffer (some e)).effect? y = h.desk.effect? y := by
  have holdest := h₀.oldest?_suffer hne
  cases y with
  | respond r =>
    have hid : (Envelope.response r : Envelope P).sessionId = .ok b := hy
    simp only [Desk.effect?, hid, Except.toOption, Option.bind_some, holdest]
  | settle s o | delete s => rfl
  | deleteOldest id =>
    obtain rfl : id = b := hy
    simp only [Desk.effect?, holdest]
  | timer s =>
    obtain ⟨hs, rfl⟩ := hy
    have hnow : (h.desk.bare.suffer (some e)).now = h.desk.now := by cases e <;> rfl
    have hdue : (h.desk.bare.suffer (some e)).dueAt s.index = h.desk.dueAt s.index :=
      dueAt_suffer h.desk.bare e s.index
    simp only [Desk.effect?, h₀.timerAt?_suffer he hs hne, hnow, hdue]
    refine Option.bind_congr fun τ hτ ↦ ?_
    rw [h₀.find?_suffer (h₀.id_of_timerAt? hs hτ ▸ hne)]

theorem reply?_suffer (hy : h.On b y) (hne : e.session.id ≠ b) :
    (h.desk.bare.suffer (some e)).reply? y = h.desk.reply? y := by
  cases y with
  | respond r | timer s => rfl
  | settle s o =>
    obtain ⟨hs, rfl⟩ := hy
    simp only [Desk.reply?, h₀.isSettled_suffer he hs hne]
  | deleteOldest id =>
    obtain rfl : id = b := hy
    exact congrArg (some ·.isSome) (h₀.oldest?_suffer hne)
  | delete s =>
    obtain ⟨hs, rfl⟩ := hy
    exact congrArg (some ·.isSome) (h₀.find?_suffer hne s.index)

end

/-- After an operation under one id, an operation under another does and tells what it would have
done and told before. -/
theorem operate (h₀ : Orderly h) (hx : h.On a x) (hy : h.On b y) (hne : a ≠ b) :
    ((h.desk.operate x).operate y).bare =
        (h.desk.bare.suffer (h.desk.effect? x)).suffer (h.desk.effect? y) ∧
      (h.desk.operate x).reply? y = h.desk.reply? y := by
  have hb := Desk.bare_operate h₀.filed x
  have heffect : (h.desk.operate x).effect? y = h.desk.effect? y := by
    change (h.desk.operate x).bare.effect? y = _
    rw [hb]
    cases he : h.desk.effect? x with
    | none => rfl
    | some e =>
      obtain ⟨hmem, rfl⟩ := h₀.of_effect? hx he
      exact h₀.effect?_suffer hmem hy hne
  have hreply : (h.desk.operate x).reply? y = h.desk.reply? y := by
    change (h.desk.operate x).bare.reply? y = _
    rw [hb]
    cases he : h.desk.effect? x with
    | none => rfl
    | some e =>
      obtain ⟨hmem, rfl⟩ := h₀.of_effect? hx he
      exact h₀.reply?_suffer hmem hy hne
  refine ⟨?_, hreply⟩
  rw [Desk.bare_operate (Desk.registry_operate h₀.filed x), hb, heffect]

theorem size_delete (h₀ : Orderly h) (s : Session) :
    (h.desk.delete s).registry.size < h.desk.registry.size ↔ h.desk.isRegistered s = true := by
  have hb : (h.desk.delete s).registry = h.desk.registry.remove s :=
    (congrArg Desk.registry (Desk.bare_delete h₀.filed s) :)
  rw [hb, Registry.size, Registry.size, h₀.filed.entries_remove]
  rw [List.length_filter_lt_length_iff_exists, Desk.isRegistered, Option.isSome_iff_ne_none, ne_eq,
    h₀.filed.find?_eq_none]
  simp [Registry.samePlace]

/-- Callers are told whether the operation succeeded. -/
theorem reply?_eq_true (h₀ : Orderly h) (hx : h.On a x) {told : Bool}
    (ht : h.desk.reply? x = some told) : told = true ↔ h.desk.TakesEffect x := by
  cases x with
  | respond r | timer s => cases ht
  | settle s o =>
    obtain ⟨t, hs, -⟩ := h₀.named hx.1
    have hafter : (h.desk.settle s o).isSettled s.ticket = true := by
      have htickets : (h.desk.settle s o).tickets =
          (h.desk.modify s.ticket (·.complete o)).tickets :=
        (congrArg Desk.tickets (Desk.bare_settle h₀.filed s o) :)
      rw [Desk.isSettled, htickets, Desk.getElem?_modify_of_some hs]
      exact t.isSome_outcome_complete o
    obtain rfl := Option.some.inj ht
    simp [Desk.TakesEffect, hafter]
  | deleteOldest id =>
    obtain rfl := Option.some.inj ht
    change _ ↔ (h.desk.deleteOldest id).registry.size < _
    unfold Desk.deleteOldest
    cases ho : h.desk.registry.oldest? id with
    | none => simp
    | some s =>
      have hmem := (h₀.filed.oldest?_eq_some ho).1
      have hr : h.desk.isRegistered s = true := by
        rw [Desk.isRegistered, h₀.find?_self hmem, Option.isSome_some]
      exact iff_of_true rfl ((h₀.size_delete s).2 hr)
  | delete s =>
    obtain rfl := Option.some.inj ht
    exact (h₀.size_delete s).symm

end Orderly

/-- Operations under different ids commute, whatever happened before: they leave the same tickets,
registry and timers, and each tells its caller the same, whichever comes first. That holds even
where a ticket is registered twice, since all its sessions are under one id. -/
theorem operations_commute (readTimeout : Time) (as : List (Act P)) (a b : SessionId)
    (x y : Operation P) (hne : a ≠ b) :
    let h := (start readTimeout : Shift P).run as
    h.On a x → h.On b y →
      ((h.desk.operate x).operate y).bare = ((h.desk.operate y).operate x).bare ∧
        (h.desk.operate x).reply? y = h.desk.reply? y ∧
        (h.desk.operate y).reply? x = h.desk.reply? x ∧
        ∀ told, h.desk.reply? x = some told → (told = true ↔ h.desk.TakesEffect x) := by
  intro h hx hy
  have h₀ : Orderly h := (Orderly.start readTimeout).run as
  obtain ⟨hxy, hreply⟩ := h₀.operate hx hy hne
  obtain ⟨hyx, hreply'⟩ := h₀.operate hy hx hne.symm
  refine ⟨?_, hreply, hreply', fun told ht ↦ h₀.reply?_eq_true hx ht⟩
  rw [hxy, hyx]
  cases he : h.desk.effect? x with
  | none => rfl
  | some e =>
    cases he' : h.desk.effect? y with
    | none => rfl
    | some e' =>
      obtain ⟨hmem, rfl⟩ := h₀.of_effect? hx he
      obtain ⟨hmem', rfl⟩ := h₀.of_effect? hy he'
      exact h.desk.bare.suffer_comm (h₀.ticket_ne hmem hmem' hne) hne (h₀.index_ne hmem hmem' hne)

/-- Two requests are out. The answer to the first arrives at the very instant at which the other
one times out. -/
theorem answer_and_timeout_commute :
    let home : SocketAddress := .v6 ⟨0, 0, 0, 0, 0, 0, 0, 1⟩ 1 0 0
    let info : Plain.Message := ⟨.info, some home, ""⟩
    let ping : Plain.Message := ⟨.ping, some home, ""⟩
    let as : List (Act Plain.protocol) := [.issue info, .create 0 true, .issue ping, .create 1 true,
      .runTimer 1, .runTimer 2, .clock (.ofMillis 5000)]
    let answer : Operation Plain.protocol := .respond info
    let timeout : Operation Plain.protocol := .timer ⟨⟨"PING:::1:1"⟩, 2, 1, 0⟩
    let h := (start (.ofMillis 5000)).run as
    h.On ⟨"INFO:::1:1"⟩ answer ∧ h.On ⟨"PING:::1:1"⟩ timeout ∧
      ((h.desk.operate answer).operate timeout).bare =
        ((h.desk.operate timeout).operate answer).bare ∧
      ((h.desk.operate timeout).operate answer).tickets.map (·.outcome) =
        [some (.ok info), some (.error (.readTimeout ⟨"PING:::1:1"⟩ ⟨.ofMillis 5000⟩))] := by
  intro home info ping as answer timeout h
  have hid : (Envelope.response info : Envelope Plain.protocol).sessionId =
      .ok ⟨"INFO:::1:1"⟩ := by
    decide +kernel
  have hanswer : h.On ⟨"INFO:::1:1"⟩ answer := hid
  have htimeout : h.On ⟨"PING:::1:1"⟩ timeout := ⟨by decide +kernel, rfl⟩
  have hcomm := operations_commute (.ofMillis 5000) as ⟨"INFO:::1:1"⟩ ⟨"PING:::1:1"⟩ answer timeout
    (by decide) hanswer htimeout
  exact ⟨hanswer, htimeout, hcomm.1, by decide +kernel⟩

end Shift

end GameServers
