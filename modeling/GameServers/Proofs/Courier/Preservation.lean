import GameServers.Proofs.Courier.Soundness

namespace GameServers.Courier

variable {P : Protocol} {m : Courier P} {s : Session} {w n : Nat} {x y : Write} {ws : WriteState}

theorem Write.ticket_congr {x y : Write} (h : y.session = x.session) : y.ticket = x.ticket :=
  congrArg Session.ticket h

theorem getElem?_setWrite (m : Courier P) (w k : Nat) (ws : WriteState) :
    (m.setWrite w ws).writes[k]? =
      if w = k then m.writes[k]?.map (·.setState ws) else m.writes[k]? := by
  simp only [setWrite, List.getElem?_modify]
  split <;> simp

theorem of_getElem?_setWrite {k : Nat} (h : (m.setWrite w ws).writes[k]? = some y) :
    ∃ x, m.writes[k]? = some x ∧ y.session = x.session ∧
      (k = w ∧ y.state = ws ∨ k ≠ w ∧ y.state = x.state) := by
  rw [getElem?_setWrite] at h
  split at h
  · next hk =>
    obtain ⟨x, hx, rfl⟩ := Option.map_eq_some_iff.1 h
    exact ⟨x, hx, rfl, .inl ⟨hk.symm, rfl⟩⟩
  · next hk => exact ⟨y, h, rfl, .inr ⟨Ne.symm hk, rfl⟩⟩

theorem getElem?_setWrite_of_some (w : Nat) (ws : WriteState) {k : Nat}
    (h : m.writes[k]? = some x) :
    ∃ y, (m.setWrite w ws).writes[k]? = some y ∧ y.session = x.session ∧
      (k = w ∧ y.state = ws ∨ k ≠ w ∧ y.state = x.state) := by
  rw [getElem?_setWrite]
  split
  · next hk => exact ⟨x.setState ws, by rw [h]; rfl, rfl, .inl ⟨hk.symm, rfl⟩⟩
  · next hk => exact ⟨x, h, rfl, .inr ⟨Ne.symm hk, rfl⟩⟩

theorem getElem?_concat {α : Type} {xs : List α} {a b : α} (h : (xs ++ [a])[n]? = some b) :
    xs[n]? = some b ∨ n = xs.length ∧ b = a := by
  rw [List.getElem?_append] at h
  split at h
  · exact .inl h
  · next hn =>
    obtain ⟨hlt, he⟩ := List.getElem?_eq_some_iff.1 h
    rw [List.getElem_singleton] at he
    rw [List.length_singleton] at hlt
    exact .inr ⟨by omega, he.symm⟩

namespace Sound

section

variable {f : Ticket P → Ticket P} {k : Nat} {t : Ticket P}

theorem named_modify (h : Sound m) (hr : ∀ t, (f t).request = t.request)
    (hx : m.writes[w]? = some x) : ∃ t, (m.desk.modify k f).tickets[x.ticket]? = some t ∧
      (Envelope.request t.request : Envelope P).sessionId = .ok x.session.id := by
  obtain ⟨t, ht, hid⟩ := h.named hx
  by_cases hk : x.ticket = k
  · refine ⟨f t, ?_, by rw [hr]; exact hid⟩
    rw [hk] at ht ⊢
    exact Desk.getElem?_modify_of_some ht
  · exact ⟨t, (Desk.getElem?_modify_of_ne hk).trans ht, hid⟩

theorem pending_modify (h : Sound m) (hs : s ∈ m.desk.registry.entries) (hk : s.ticket ≠ k) :
    ∃ t, (m.desk.modify k f).tickets[s.ticket]? = some t ∧ t.outcome = none := by
  obtain ⟨t, ht, ho⟩ := h.pending hs
  exact ⟨t, (Desk.getElem?_modify_of_ne hk).trans ht, ho⟩

theorem coherent_modify (h : Sound m)
    (hf : ∀ t, m.desk.tickets[k]? = some t → t.Coherent → (f t).Coherent)
    (ht : (m.desk.modify k f).tickets[n]? = some t) : t.Coherent := by
  obtain ⟨u, hu, ⟨rfl, rfl⟩ | ⟨-, rfl⟩⟩ := Desk.of_getElem?_modify ht
  · exact hf u hu (h.coherent hu)
  · exact h.coherent hu

theorem queued_modify (h : Sound m) (hn : n ∈ m.queue) (hk : n ≠ k) :
    ∃ t, (m.desk.modify k f).tickets[n]? = some t ∧ (t.status = .new ∨ t.status = .retry) := by
  obtain ⟨t, ht, hs⟩ := h.queued hn
  exact ⟨t, (Desk.getElem?_modify_of_ne hk).trans ht, hs⟩

end

theorem enqueue (h : Sound m) (r : P.Request) :
    Sound { m with
      desk := m.desk.issue r
      queue := m.queue ++ [m.desk.tickets.length]
      worker := if m.worker = .unstarted then .waiting else m.worker } := by
  have hold {n : Nat} {t : Ticket P} (ht : m.desk.tickets[n]? = some t) :
      (m.desk.issue r).tickets[n]? = some t := by
    have hlt := (List.getElem?_eq_some_iff.1 ht).1
    simp only [Desk.issue]
    rw [List.getElem?_append_left hlt, ht]
  have hnew {n : Nat} {t : Ticket P} (ht : (m.desk.issue r).tickets[n]? = some t) :
      m.desk.tickets[n]? = some t ∨
        n = m.desk.tickets.length ∧ t = { request := r, createdAt := m.desk.now } :=
    getElem?_concat ht
  exact {
    filed := h.filed
    timeout := h.timeout
    counted := h.counted
    numbered := h.numbered
    named := fun hx ↦ by
      obtain ⟨t, ht, hid⟩ := h.named hx
      exact ⟨t, hold ht, hid⟩
    staged := fun hx ht ↦ by
      obtain ⟨t', ht', -⟩ := h.named hx
      rw [hold ht', Option.some.injEq] at ht
      exact ht ▸ h.staged hx ht'
    superseded := h.superseded
    known := h.known
    pending := fun hs ↦ by
      obtain ⟨t, ht, ho⟩ := h.pending hs
      exact ⟨t, hold ht, ho⟩
    timed := h.timed
    coherent := fun ht ↦ by
      rcases hnew ht with ht | ⟨-, rfl⟩
      · exact h.coherent ht
      · simp [Ticket.Coherent]
    queued := fun hn ↦ by
      rcases List.mem_append.1 hn with hn | hn
      · obtain ⟨t, ht, hs⟩ := h.queued hn
        exact ⟨t, hold ht, hs⟩
      · rw [List.mem_singleton.1 hn]
        exact ⟨{ request := r, createdAt := m.desk.now }, by simp [Desk.issue], .inl rfl⟩
    queuedOnce := by
      refine List.nodup_append.2 ⟨h.queuedOnce, by simp, fun n hn k hk ↦ ?_⟩
      rw [List.mem_singleton.1 hk]
      obtain ⟨t, ht, -⟩ := h.queued hn
      exact (List.getElem?_eq_some_iff.1 ht).1.ne
    told := fun ht ↦ h.told <| by
      refine ht.imp_right fun hw ↦ ?_
      by_cases hu : m.worker = .unstarted
      · simp [hu] at hw
      · simpa only [if_neg hu] using hw
    placed := fun hs n t ht hn ↦ by
      rcases hnew ht with ht | ⟨rfl, -⟩
      · exact (h.placed hs ht hn).imp_left fun hq ↦ List.mem_append.2 (.inl hq)
      · exact .inl (List.mem_append.2 (.inr (.head _))) }

theorem settle (h : Sound m) {f : Ticket P → Ticket P} (hx : m.writes[w]? = some x)
    (hw : x.state ≠ .finished false)
    (hr : ∀ t, (f t).request = t.request)
    (hd : ∀ t, m.desk.tickets[x.ticket]? = some t →
      (f t).status = .done ∧ (f t).outcome.isSome = true) :
    Sound { m with desk := (m.desk.modify x.ticket f).strike x.session } := by
  have hother {s : Session} (hs : s ∈ (m.desk.registry.remove x.session).entries) :
      s ∈ m.desk.registry.entries ∧ s.ticket ≠ x.ticket := by
    obtain ⟨he, hne⟩ := h.mem_of_mem_remove hs
    exact ⟨he, fun ht ↦ hne (h.entry_eq_of_ticket hx hw he ht)⟩
  have hqueue {n : Nat} (hn : n ∈ m.queue) : n ≠ x.ticket :=
    fun he ↦ hw (h.state_of_queued hn hx he.symm)
  exact {
    filed := h.filed.remove _
    timeout := h.timeout
    counted := h.counted
    numbered := h.numbered
    named := fun hy ↦ h.named_modify hr hy
    staged := fun hy ht ↦ by
      obtain ⟨u, hu, ⟨hk, rfl⟩ | ⟨-, rfl⟩⟩ := Desk.of_getElem?_modify ht
      · rw [(hd u (hk ▸ hu)).1]
        exact .done _
      · exact h.staged hy hu
    superseded := h.superseded
    known := fun hs ↦ h.known (hother hs).1
    pending := fun hs ↦ h.pending_modify (hother hs).1 (hother hs).2
    timed := h.timed_strike hx
    coherent := fun ht ↦ h.coherent_modify (fun u hu _ ↦ iff_of_true (hd u hu).1 (hd u hu).2) ht
    queued := fun hn ↦ h.queued_modify hn (hqueue hn)
    queuedOnce := h.queuedOnce
    told := h.told
    placed := fun hs n t ht hn ↦ by
      obtain ⟨u, hu, ⟨hk, rfl⟩ | ⟨hk, rfl⟩⟩ := Desk.of_getElem?_modify ht
      · have ho := (hd u (hk ▸ hu)).2
        rw [hn] at ho
        cases ho
      · refine (h.placed hs hu hn).imp_right ?_
        rintro ⟨s, hs, rfl⟩
        exact ⟨s, h.mem_remove_of_mem hx hs fun he ↦ hk (congrArg Session.ticket he), rfl⟩ }

theorem refuse (h : Sound m) {rest : List Nat} {f : Ticket P → Ticket P}
    (hq : m.queue = n :: rest) (hr : ∀ t, (f t).request = t.request)
    (hd : ∀ t, m.desk.tickets[n]? = some t → (f t).status = .done ∧ (f t).outcome.isSome = true) :
    Sound { m with desk := m.desk.modify n f, queue := rest } := by
  have hn : n ∈ m.queue := by rw [hq]; exact .head _
  have hsub {k : Nat} (hk : k ∈ rest) : k ∈ m.queue := by rw [hq]; exact .tail _ hk
  have hnd : n ∉ rest ∧ rest.Nodup := List.nodup_cons.1 (hq ▸ h.queuedOnce)
  exact {
    filed := h.filed
    timeout := h.timeout
    counted := h.counted
    numbered := h.numbered
    named := fun hy ↦ h.named_modify hr hy
    staged := fun hy ht ↦ by
      obtain ⟨u, hu, ⟨hk, rfl⟩ | ⟨-, rfl⟩⟩ := Desk.of_getElem?_modify ht
      · rw [(hd u (hk ▸ hu)).1]
        exact .done _
      · exact h.staged hy hu
    superseded := h.superseded
    known := h.known
    pending := fun hs ↦ h.pending_modify hs (h.ticket_ne_of_queued hn hs)
    timed := h.timed
    coherent := fun ht ↦ h.coherent_modify (fun u hu _ ↦ iff_of_true (hd u hu).1 (hd u hu).2) ht
    queued := fun hk ↦ h.queued_modify (hsub hk) fun he ↦ hnd.1 (he ▸ hk)
    queuedOnce := hnd.2
    told := h.told
    placed := fun hs k t ht hk ↦ by
      obtain ⟨u, hu, ⟨hkn, rfl⟩ | ⟨hkn, rfl⟩⟩ := Desk.of_getElem?_modify ht
      · have ho := (hd u (hkn ▸ hu)).2
        rw [hk] at ho
        cases ho
      · refine (h.placed hs hu hk).imp_left fun hm ↦ ?_
        rw [hq] at hm
        exact (List.mem_cons.1 hm).resolve_left hkn }

theorem take (h : Sound m) {rest : List Nat} {t : Ticket P} {id : SessionId} {worker : Worker}
    (hq : m.queue = n :: rest) (ht : m.desk.tickets[n]? = some t)
    (hi : (Envelope.request t.request : Envelope P).sessionId = .ok id)
    (hw : worker ≠ .stopped ∧ ∀ k, worker ≠ .givenUp k) :
    Sound { m with
      desk := (m.desk.enroll (m.desk.nextSession n id)).modify n Ticket.takeUp
      queue := rest
      writes := m.writes ++ [⟨m.desk.nextSession n id, .spawned⟩]
      worker := worker } := by
  have hn : n ∈ m.queue := by rw [hq]; exact .head _
  have hsub {k : Nat} (hk : k ∈ rest) : k ∈ m.queue := by rw [hq]; exact .tail _ hk
  have hnd : n ∉ rest ∧ rest.Nodup := List.nodup_cons.1 (hq ▸ h.queuedOnce)
  obtain ⟨t', ht', ho, hs⟩ := h.outcome_of_queued hn
  obtain rfl : t = t' := Option.some.inj (ht.symm.trans ht')
  have hst : t.takeUp.status = .await := t.status_takeUp (Status.canAdvanceTo_accepted.2 hs)
  have hwrite {w : Nat} {x : Write} (hx : (m.writes ++ [⟨m.desk.nextSession n id, .spawned⟩])[w]? =
      some x) : m.writes[w]? = some x ∨ w = m.writes.length ∧ x = ⟨m.desk.nextSession n id, .spawned⟩ :=
    getElem?_concat hx
  have hself : (m.desk.modify n Ticket.takeUp).tickets[n]? = some t.takeUp :=
    Desk.getElem?_modify_of_some ht
  exact {
    filed := h.filed.file fun s hs ↦ Nat.lt_succ_of_le (h.index_le hs)
    timeout := h.timeout
    counted := by
      rw [List.length_append, List.length_singleton, ← h.counted]
      rfl
    numbered := fun hx ↦ by
      rcases hwrite hx with hx | ⟨rfl, rfl⟩
      · exact h.numbered hx
      · rw [← h.counted]
        rfl
    named := fun hx ↦ by
      rcases hwrite hx with hx | ⟨rfl, rfl⟩
      · exact h.named_modify (fun t ↦ t.request_takeUp) hx
      · exact ⟨t.takeUp, hself, by rw [t.request_takeUp]; exact hi⟩
    staged := fun {_ y _} hx hv ↦ by
      obtain ⟨u, hu, ⟨hk, rfl⟩ | ⟨hk, rfl⟩⟩ := Desk.of_getElem?_modify hv
      · rw [hk] at hu
        obtain rfl : t = u := Option.some.inj (ht.symm.trans hu)
        rw [hst]
        -- The writes of a request in the queue have all failed, and its new one has not begun.
        rcases hwrite hx with hx | ⟨-, rfl⟩
        · rw [h.state_of_queued hn hx hk]
          simp [Fits]
        · exact .inl rfl
      · rcases hwrite hx with hx | ⟨-, rfl⟩
        · exact h.staged hx hu
        · exact absurd rfl hk
    superseded := fun {w w' y y'} hx hx' hlt he ↦ by
      have hl : w' ≤ m.writes.length := by
        rcases hwrite hx' with hx' | ⟨rfl, -⟩
        · exact (List.getElem?_eq_some_iff.1 hx').1.le
        · exact le_rfl
      -- The new write is the last one, so the write before it is not new.
      have hy : m.writes[w]? = some y := by
        rcases hwrite hx with hx | ⟨rfl, -⟩
        · exact hx
        · omega
      rcases hwrite hx' with hx' | ⟨-, rfl⟩
      · exact h.superseded hy hx' hlt he
      · exact h.state_of_queued hn hy he
    known := fun {s} hs ↦ by
      rcases Registry.mem_entries_file.1 hs with rfl | hs
      · exact ⟨m.writes.length, _, List.getElem?_concat_length, rfl, by simp⟩
      · obtain ⟨w, y, hy, he, hf⟩ := h.known hs
        have hlt := (List.getElem?_eq_some_iff.1 hy).1
        exact ⟨w, y, (List.getElem?_append_left hlt).trans hy, he, hf⟩
    pending := fun {s} hs ↦ by
      rcases Registry.mem_entries_file.1 hs with rfl | hs
      · exact ⟨t.takeUp, hself, by rw [t.outcome_takeUp, ho]⟩
      · exact h.pending_modify hs (h.ticket_ne_of_queued hn hs)
    timed := by
      have hp := (Registry.perm_entries_file m.desk.registry (m.desk.nextSession n id)).map Session.timer
      refine .trans ?_ hp.symm
      exact (List.perm_append_singleton _ _).trans (h.timed.cons _)
    coherent := fun hv ↦ h.coherent_modify (fun _ _ hc ↦ hc.takeUp) hv
    queued := fun hk ↦ h.queued_modify (hsub hk) fun he ↦ hnd.1 (he ▸ hk)
    queuedOnce := hnd.2
    told := fun ht ↦ by
      rcases ht with ht | ht | ⟨k, ht⟩
      · exact h.told (.inl ht)
      · exact absurd ht hw.1
      · exact absurd ht (hw.2 k)
    placed := fun hs k v hv hk ↦ by
      obtain ⟨u, hu, ⟨rfl, rfl⟩ | ⟨hkn, rfl⟩⟩ := Desk.of_getElem?_modify hv
      · exact .inr ⟨_, Registry.mem_entries_file.2 (.inl rfl), rfl⟩
      · rcases h.placed hs hu hk with hm | ⟨s, hs, rfl⟩
        · rw [hq] at hm
          exact .inl ((List.mem_cons.1 hm).resolve_left hkn)
        · exact .inr ⟨s, Registry.mem_entries_file.2 (.inr hs), rfl⟩ }

end Sound

end GameServers.Courier
