import GameServers.Desk
import GameServers.Proofs.Registry
import GameServers.Proofs.Ticket

namespace GameServers

theorem foldl_keeps {α σ τ : Type*} (g : σ → τ) {f : σ → α → σ} (h : ∀ s x, g (f s x) = g s)
    (xs : List α) (s : σ) : g (xs.foldl f s) = g s := by
  induction xs generalizing s with
  | nil => rfl
  | cons x xs ih => rw [List.foldl_cons, ih, h]

namespace Desk

variable {P : Protocol} (d : Desk P)

/-- A desk without its journal and its agenda. -/
def bare (d : Desk P) : Desk P := { d with journal := [], agenda := {} }

@[simp] theorem bare_log (e : Event P) : (d.log e).bare = d.bare := rfl

@[simp] theorem bare_wake (t : Task) : (d.wake t).bare = d.bare := rfl

@[simp] theorem bare_modify (n : Nat) (f : Ticket P → Ticket P) :
    (d.modify n f).bare = d.bare.modify n f := rfl

@[simp] theorem bare_logFor (n : Nat) (e : Ticket P → Event P) : (d.logFor n e).bare = d.bare := by
  unfold logFor; split <;> rfl

variable {d} {n k : Nat} {f g : Ticket P → Ticket P} {t : Ticket P} {s : Session}

theorem getElem?_modify :
    (d.modify n f).tickets[k]? = if n = k then d.tickets[k]?.map f else d.tickets[k]? := by
  simp only [modify, List.getElem?_modify]
  split <;> simp

theorem getElem?_modify_self : (d.modify n f).tickets[n]? = d.tickets[n]?.map f := by
  rw [getElem?_modify, if_pos rfl]

theorem getElem?_modify_of_some (h : d.tickets[n]? = some t) :
    (d.modify n f).tickets[n]? = some (f t) := by
  rw [getElem?_modify_self, h, Option.map_some]

theorem getElem?_modify_of_ne (h : k ≠ n) : (d.modify n f).tickets[k]? = d.tickets[k]? := by
  rw [getElem?_modify, if_neg h.symm]

theorem of_getElem?_modify (h : (d.modify n f).tickets[k]? = some t) :
    ∃ u, d.tickets[k]? = some u ∧ (k = n ∧ t = f u ∨ k ≠ n ∧ t = u) := by
  by_cases hk : k = n
  · subst hk
    rw [getElem?_modify_self] at h
    obtain ⟨u, hu, rfl⟩ := Option.map_eq_some_iff.1 h
    exact ⟨u, hu, .inl ⟨rfl, rfl⟩⟩
  · rw [getElem?_modify_of_ne hk] at h
    exact ⟨t, h, .inr ⟨hk, rfl⟩⟩

theorem modify_eq_self (h : ∀ t, d.tickets[n]? = some t → f t = t) : d.modify n f = d := by
  have he : d.tickets.modify n f = d.tickets := by
    refine List.ext_getElem? fun k ↦ ?_
    rw [List.getElem?_modify]
    split
    · next hk =>
      subst hk
      cases ht : d.tickets[n]? with
      | none => rfl
      | some t => exact congrArg some (h t ht)
    · simp
  simp [modify, he]

theorem modify_modify : (d.modify n f).modify n g = d.modify n (g ∘ f) := by
  simp [modify, List.modify_modify_eq]

theorem bare_advance (d : Desk P) (n : Nat) (next : Status) :
    (d.advance n next).bare = d.bare.modify n (·.advance next) := by
  unfold advance
  split
  · rw [bare_modify, bare_logFor]
  · next hc =>
    refine (modify_eq_self fun t ht ↦ t.advance_of_not next ?_).symm
    have ht' : d.tickets[n]? = some t := ht
    simpa [canAdvance, ht'] using hc

theorem idFor_eq_ok {id : SessionId} : d.idFor n true = .ok id ↔
    d.closed = false ∧ ∃ t, d.tickets[n]? = some t ∧
      (Envelope.request t.request : Envelope P).sessionId = .ok id := by
  unfold idFor
  cases d.closed <;> cases d.tickets[n]? <;> simp

theorem idFor_modify (hf : ∀ t, (f t).request = t.request) :
    (d.modify n f).idFor n true = d.idFor n true := by
  unfold idFor
  rw [getElem?_modify_self]
  cases d.tickets[n]? with
  | none => rfl
  | some t =>
    simp only [Option.map_some, hf]
    rfl

theorem idFor_advance (d : Desk P) (n : Nat) (next : Status) :
    (d.advance n next).idFor n true = d.idFor n true := by
  change (d.advance n next).bare.idFor n true = _
  rw [bare_advance]
  exact idFor_modify fun t ↦ t.request_advance next

theorem canAdvance_eq_true {next : Status} : d.canAdvance n next = true ↔
    ∃ t, d.tickets[n]? = some t ∧ t.status.canAdvanceTo next = true := by
  unfold canAdvance
  cases d.tickets[n]? <;> simp

def enroll (d : Desk P) (s : Session) : Desk P :=
  { d with
    counter := s.index
    registry := d.registry.file s
    timers := d.timers ++ [s.timer] }

def record (d : Desk P) (s : Session) : Desk P :=
  { d with
    counter := s.index
    registry := d.registry.file s }

def strike (d : Desk P) (s : Session) : Desk P :=
  { d with
    registry := d.registry.remove s
    timers := d.timers.filter (·.index ≠ s.index) }

theorem bare_arm {d : Desk P} (hd : d.isDone s.ticket = false) :
    (d.arm s).bare = { d.bare with timers := d.timers ++ [s.timer] } := by
  simp [arm, hd, bare, wake]

theorem bare_register (hd : d.isDone s.ticket = false) :
    (d.register s).bare = (d.bare.enroll s).modify s.ticket (·.advance .registered) := by
  simp only [register]
  rw [bare_advance, bare_arm (d := { d.log _ with counter := _, registry := _ }) hd]
  rfl

theorem bare_register_of_done (hd : d.isDone s.ticket = true) :
    (d.register s).bare = (d.bare.record s).modify s.ticket (·.advance .registered) := by
  have ha : ({ d.log (.registering s.id s.index) with
      counter := s.index
      registry := d.registry.file s } : Desk P).arm s =
      { d.log (.registering s.id s.index) with
        counter := s.index
        registry := d.registry.file s } := if_pos hd
  simp only [register]
  rw [bare_advance]
  exact congrArg (fun e : Desk P ↦ e.bare.modify s.ticket (·.advance .registered)) ha

theorem create_of_error {e : Failure} (h : d.idFor n true = .error e) :
    d.create n true = (d, .error e) := by
  simp [create, h]

theorem create_of_ok {id : SessionId} (h : d.idFor n true = .ok id) :
    d.create n true = (d.register (d.nextSession n id), .ok (d.nextSession n id)) := by
  simp [create, h]

theorem nextSession_advance (d : Desk P) (n : Nat) (next : Status) (id : SessionId) :
    (d.advance n next).nextSession n id = d.nextSession n id := by
  change (d.advance n next).bare.nextSession n id = _
  rw [bare_advance]
  rfl

theorem bare_takeUp {id : SessionId} (hc : d.canAdvance n .accepted = true) :
    (((d.advance n .accepted).register (d.nextSession n id)).advance n .await).bare =
      (d.bare.enroll (d.nextSession n id)).modify n Ticket.takeUp := by
  obtain ⟨t, ht, ha⟩ := canAdvance_eq_true.1 hc
  have hb := d.bare_advance n .accepted
  have ht' : (d.advance n .accepted).bare.tickets[n]? = some (t.advance .accepted) := by
    rw [hb]
    exact getElem?_modify_of_some ht
  have hd : (d.advance n .accepted).isDone n = false := by
    have hs : (t.advance .accepted).status = .accepted := by rw [Ticket.status_advance, if_pos ha]
    change (d.advance n .accepted).bare.isDone n = false
    simp [isDone, ht', Ticket.isDone, hs]
  have hr := bare_register (d := d.advance n .accepted) (s := d.nextSession n id) hd
  rw [bare_advance, hr, hb]
  change ((((d.bare.enroll _).modify n _).modify n _).modify n _) = _
  rw [modify_modify, modify_modify]
  rfl

theorem bare_delete (h : d.registry.WellFiled) (s : Session) :
    (d.delete s).bare = d.bare.strike s := by
  simp only [delete]
  split
  · rfl
  · next hr =>
    have hn : d.registry.find? s.id s.index = none := by
      simpa [isRegistered, cancelTimer] using hr
    have he := h.remove_of_not_mem (h.find?_eq_none.1 hn)
    simp [strike, bare, cancelTimer, he]

theorem bare_settle (h : d.registry.WellFiled) (s : Session) (o : Outcome P) :
    (d.settle s o).bare = (d.bare.modify s.ticket (·.complete o)).strike s :=
  bare_delete (d := d.complete s.ticket o) h s

theorem bare_expire {t : Timer} (h : d.registry.WellFiled)
    (hs : d.registry.find? t.id t.index = some s) :
    (d.expire t).bare =
      (d.bare.modify s.ticket (·.complete (.error (.readTimeout s.id
        ⟨d.now - s.registeredAt⟩)))).strike s := by
  have hc : (d.cancelTimer s).registry.WellFiled := h
  simp only [expire, hs]
  rw [bare_settle (d := (d.cancelTimer s).log _) hc]
  simp [strike, modify, cancelTimer, bare, log]

theorem bare_expire_of_none {t : Timer} (hs : d.registry.find? t.id t.index = none) :
    (d.expire t).bare = d.bare := by
  simp [expire, hs]

theorem asleepSince_of_nap {i : Nat} {time : Time} (h : d.naps i = some time) :
    d.asleepSince i = time := by
  rw [asleepSince, h, Option.getD_some]

theorem asleepSince_of_none {i : Nat} (h : d.naps i = none) : d.asleepSince i = d.now := by
  rw [asleepSince, h, Option.getD_none]

theorem naps_doze_of_ne {i k : Nat} (h : k ≠ i) : (d.doze i).naps k = d.naps k := if_neg h

@[simp] theorem naps_doze_self {i : Nat} : (d.doze i).naps i = some (d.asleepSince i) := if_pos rfl

@[simp] theorem asleepSince_doze {i k : Nat} : (d.doze i).asleepSince k = d.asleepSince k := by
  by_cases hk : k = i
  · rw [hk, asleepSince_of_nap naps_doze_self]
  · rw [asleepSince, naps_doze_of_ne hk]
    rfl

theorem timerAt?_eq_some {i : Nat} {τ : Timer} (h : d.timerAt? i = some τ) :
    τ ∈ d.timers ∧ τ.index = i :=
  ⟨List.mem_of_find?_eq_some h, by simpa using List.find?_some h⟩

def Fires (d : Desk P) (i : Nat) (d' : Desk P) : Prop :=
  ∃ τ s, d.timerAt? i = some τ ∧ d.dueAt i ≤ d.now ∧ d.registry.find? τ.id τ.index = some s ∧
    d'.bare = (d.bare.modify s.ticket (·.complete (.error (.readTimeout s.id
      ⟨d.now - s.registeredAt⟩)))).strike s

def Dozes (d : Desk P) (i : Nat) (d' : Desk P) : Prop :=
  ∃ τ, d.timerAt? i = some τ ∧ d.now < d.dueAt i ∧ d'.bare = d.bare.doze i

theorem bare_runTimer {d : Desk P} (hf : d.registry.WellFiled) (i : Nat) :
    (d.runTimer i).bare = d.bare ∨ d.Dozes i (d.runTimer i) ∨ d.Fires i (d.runTimer i) := by
  unfold runTimer
  split
  · exact .inl rfl
  · next τ hτ =>
    split
    · next hdue =>
      cases hs : d.registry.find? τ.id τ.index with
      | none => exact .inl (bare_expire_of_none hs)
      | some s => exact .inr (.inr ⟨τ, s, hτ, hdue, hs, bare_expire hf hs⟩)
    · next hdue => exact .inr (.inl ⟨τ, hτ, Nat.lt_of_not_le hdue, rfl⟩)

theorem bare_foldl_cancelTimer (xs : List Session) (d : Desk P) :
    (xs.foldl cancelTimer d).bare =
      { d.bare with timers := d.timers.filter fun t ↦ xs.all (t.index ≠ ·.index) } := by
  induction xs generalizing d with
  | nil => simp [bare]
  | cons s xs ih =>
    rw [List.foldl_cons, ih]
    simp [cancelTimer, bare, List.filter_filter, Bool.and_comm]

theorem bare_reportPending (d : Desk P) (s : Session) : (d.reportPending s).bare = d.bare :=
  bare_logFor d s.ticket _

theorem bare_close (d : Desk P) : d.close.bare = { d.bare with
    closed := true
    registry := {}
    timers := d.timers.filter fun t ↦ d.registry.entries.all (t.index ≠ ·.index) } := by
  have hr (e : Desk P) (xs : List Session) : (xs.foldl reportPending e).bare = e.bare :=
    foldl_keeps bare bare_reportPending xs e
  have hc (e : Desk P) (he : e.bare = { d.bare with closed := true }) :
      { d.registry.entries.foldl cancelTimer e with registry := {} }.bare = { d.bare with
        closed := true
        registry := {}
        timers := d.timers.filter fun t ↦ d.registry.entries.all (t.index ≠ ·.index) } := by
    have ht : e.bare.timers = d.timers := by rw [he]; rfl
    change e.timers = d.timers at ht
    have hf := bare_foldl_cancelTimer d.registry.entries e
    rw [he, ht] at hf
    exact congrArg (fun e : Desk P ↦ { e with registry := {} }) hf
  simp only [close]
  split
  · exact hc _ rfl
  · exact hc _ (hr _ _)

theorem tickets_logFor (d : Desk P) (n : Nat) (e : Ticket P → Event P) :
    (d.logFor n e).tickets = d.tickets :=
  (congrArg tickets (d.bare_logFor n e) :)

theorem tickets_advance (d : Desk P) (n : Nat) (next : Status) :
    (d.advance n next).tickets = d.tickets.modify n (·.advance next) :=
  (congrArg tickets (d.bare_advance n next) :)

theorem tickets_close (d : Desk P) : d.close.tickets = d.tickets :=
  (congrArg tickets d.bare_close :)

end Desk

end GameServers
