import GameServers.Proofs.Courier.Step

namespace GameServers.Courier

variable {P : Protocol}

/-- The statuses that a request can have while one of its writes is in a state. -/
def Fits : WriteState → Status → Prop
  | .spawned, st | .started, st | .aborted, st => st = .await ∨ st = .done
  | .finished true, st => st = .sent ∨ st = .done
  | .finished false, st => st ≠ .new

theorem Fits.done (ws : WriteState) : Fits ws .done := by
  rcases ws with _ | _ | (_ | _) | _ <;> simp [Fits]

theorem Fits.not_new {ws : WriteState} {st : Status} (h : Fits ws st) : st ≠ .new := by
  rcases ws with _ | _ | (_ | _) | _
  · rcases h with rfl | rfl <;> decide
  · rcases h with rfl | rfl <;> decide
  · exact h
  · rcases h with rfl | rfl <;> decide
  · rcases h with rfl | rfl <;> decide

theorem Fits.eq_of_retry {ws : WriteState} (h : Fits ws .retry) : ws = .finished false := by
  rcases ws with _ | _ | (_ | _) | _ <;> simp_all [Fits]

structure Sound (m : Courier P) : Prop where
  filed : m.desk.registry.WellFiled
  timeout : m.desk.readTimeout = m.config.readTimeout
  counted : m.desk.counter = m.writes.length
  /-- The indices of sessions count the writes. -/
  numbered : ∀ {w : Nat} {x : Write}, m.writes[w]? = some x → x.session.index = w + 1
  named : ∀ {w : Nat} {x : Write}, m.writes[w]? = some x → ∃ t, m.desk.tickets[x.ticket]? = some t ∧
    (Envelope.request t.request : Envelope P).sessionId = .ok x.session.id
  staged : ∀ {w : Nat} {x : Write} {t : Ticket P}, m.writes[w]? = some x →
    m.desk.tickets[x.ticket]? = some t → Fits x.state t.status
  /-- A request is written again only after its write has failed. -/
  superseded : ∀ {w w' : Nat} {x x' : Write}, m.writes[w]? = some x → m.writes[w']? = some x' →
    w < w' → x.ticket = x'.ticket → x.state = .finished false
  known : ∀ {s : Session}, s ∈ m.desk.registry.entries →
    ∃ (w : Nat) (x : Write), m.writes[w]? = some x ∧ x.session = s ∧ x.state ≠ .finished false
  pending : ∀ {s : Session}, s ∈ m.desk.registry.entries →
    ∃ t, m.desk.tickets[s.ticket]? = some t ∧ t.outcome = none
  timed : m.desk.timers.Perm (m.desk.registry.entries.map Session.timer)
  coherent : ∀ {n : Nat} {t : Ticket P}, m.desk.tickets[n]? = some t → t.Coherent
  queued : ∀ {n : Nat}, n ∈ m.queue → ∃ t, m.desk.tickets[n]? = some t ∧
    (t.status = .new ∨ t.status = .retry)
  queuedOnce : m.queue.Nodup
  /-- A worker goes away only when it was told to. -/
  told : m.phase ≠ .running ∨ m.worker = .stopped ∨ (∃ n, m.worker = .givenUp n) →
    m.shutdown = true
  placed : m.shutdown = false → ∀ {n : Nat} {t : Ticket P}, m.desk.tickets[n]? = some t →
    t.outcome = none → n ∈ m.queue ∨ ∃ s ∈ m.desk.registry.entries, s.ticket = n

theorem Sound.make (config : Config) : Sound (make config : Courier P) where
  filed := .empty
  timeout := rfl
  counted := rfl
  numbered h := by simp [Courier.make] at h
  named h := by simp [Courier.make] at h
  staged h := by simp [Courier.make] at h
  superseded h := by simp [Courier.make] at h
  known h := by simp [Courier.make, Registry.entries] at h
  pending h := by simp [Courier.make, Registry.entries] at h
  timed := by simp [Courier.make, Registry.entries]
  coherent h := by simp [Courier.make] at h
  queued h := by simp [Courier.make] at h
  queuedOnce := .nil
  told h := by simp [Courier.make] at h
  placed _ _ _ h := by simp [Courier.make] at h

namespace Sound

variable {m : Courier P} {s s' : Session} {w w' n : Nat} {x x' : Write} {t : Ticket P}

theorem eq_of_index (h : Sound m) (hx : m.writes[w]? = some x) (hx' : m.writes[w']? = some x')
    (hi : x.session.index = x'.session.index) : w = w' ∧ x = x' := by
  have hw : w = w' := by
    have h₁ := h.numbered hx
    have h₂ := h.numbered hx'
    omega
  subst hw
  exact ⟨rfl, Option.some.inj (hx.symm.trans hx')⟩

theorem entry_eq_of_index (h : Sound m) (hx : m.writes[w]? = some x)
    (hs : s ∈ m.desk.registry.entries) (hi : s.index = x.session.index) : s = x.session := by
  obtain ⟨w', x', hx', rfl, -⟩ := h.known hs
  exact congrArg Write.session (h.eq_of_index hx' hx hi).2

theorem entry_eq_of_ticket (h : Sound m) (hx : m.writes[w]? = some x)
    (hf : x.state ≠ .finished false) (hs : s ∈ m.desk.registry.entries)
    (ht : s.ticket = x.ticket) : s = x.session := by
  obtain ⟨w', x', hx', rfl, hf'⟩ := h.known hs
  rcases Nat.lt_trichotomy w w' with hlt | rfl | hgt
  · exact absurd (h.superseded hx hx' hlt ht.symm) hf
  · rw [Option.some.inj (hx'.symm.trans hx)]
  · exact absurd (h.superseded hx' hx hgt ht) hf'

theorem eq_of_ticket (h : Sound m) (hs : s ∈ m.desk.registry.entries)
    (hs' : s' ∈ m.desk.registry.entries) (ht : s.ticket = s'.ticket) : s = s' := by
  obtain ⟨w, x, hx, rfl, hf⟩ := h.known hs'
  exact h.entry_eq_of_ticket hx hf hs ht

theorem index_le (h : Sound m) (hs : s ∈ m.desk.registry.entries) :
    s.index ≤ m.desk.counter := by
  obtain ⟨w, x, hx, rfl, -⟩ := h.known hs
  have hlt : w < m.writes.length := (List.getElem?_eq_some_iff.1 hx).1
  rw [h.numbered hx, h.counted]
  omega

theorem outcome_of_queued (h : Sound m) (hn : n ∈ m.queue) :
    ∃ t, m.desk.tickets[n]? = some t ∧ t.outcome = none ∧
      (t.status = .new ∨ t.status = .retry) := by
  obtain ⟨t, ht, hs⟩ := h.queued hn
  refine ⟨t, ht, ?_, hs⟩
  have hc := h.coherent ht
  cases ho : t.outcome with
  | none => rfl
  | some o =>
    have hd : t.status = .done := hc.2 (by simp [ho])
    rw [hd] at hs
    simp at hs

theorem state_of_queued (h : Sound m) (hn : n ∈ m.queue) (hx : m.writes[w]? = some x)
    (hxn : x.ticket = n) : x.state = .finished false := by
  obtain ⟨t, ht, hs⟩ := h.queued hn
  have hf := h.staged hx (by rw [hxn]; exact ht)
  rcases hs with hs | hs
  · exact absurd hs hf.not_new
  · exact (hs ▸ hf).eq_of_retry

theorem ticket_ne_of_queued (h : Sound m) (hn : n ∈ m.queue)
    (hs : s ∈ m.desk.registry.entries) : s.ticket ≠ n := by
  intro he
  obtain ⟨w, x, hx, rfl, hf⟩ := h.known hs
  exact hf (h.state_of_queued hn hx he)

theorem timed_strike (h : Sound m) (hx : m.writes[w]? = some x) :
    (m.desk.timers.filter (·.index ≠ x.session.index)).Perm
      ((m.desk.registry.remove x.session).entries.map Session.timer) := by
  have hp := h.timed.filter (·.index ≠ x.session.index)
  have he : (m.desk.registry.remove x.session).entries =
      m.desk.registry.entries.filter (·.index ≠ x.session.index) := by
    rw [h.filed.entries_remove]
    refine List.filter_congr fun s hs ↦ ?_
    by_cases hi : s.index = x.session.index
    · rw [h.entry_eq_of_index hx hs hi]
      simp [Registry.samePlace]
    · simp [Registry.samePlace, hi]
  rw [List.filter_map] at hp
  rw [he]
  exact hp

theorem mem_of_mem_remove (h : Sound m) (hs : s ∈ (m.desk.registry.remove s').entries) :
    s ∈ m.desk.registry.entries ∧ s ≠ s' := by
  obtain ⟨he, hn⟩ := h.filed.mem_entries_remove.1 hs
  refine ⟨he, ?_⟩
  rintro rfl
  exact hn ⟨rfl, rfl⟩

theorem mem_remove_of_mem (h : Sound m) (hx : m.writes[w]? = some x)
    (hs : s ∈ m.desk.registry.entries) (hn : s ≠ x.session) :
    s ∈ (m.desk.registry.remove x.session).entries :=
  h.filed.mem_entries_remove.2 ⟨hs, fun hi ↦ hn (h.entry_eq_of_index hx hs hi.2)⟩

end Sound

end GameServers.Courier
