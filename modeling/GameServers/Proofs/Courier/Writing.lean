import GameServers.Proofs.Courier.Preservation

namespace GameServers.Courier

variable {P : Protocol} {m m' : Courier P} {s : Session} {w n : Nat} {x y : Write} {ws : WriteState}

theorem length_setWrite (m : Courier P) (w : Nat) (ws : WriteState) :
    (m.setWrite w ws).writes.length = m.writes.length := by
  simp [setWrite]

theorem of_getElem?_setWrite_ne {k : Nat} (h : (m.setWrite w ws).writes[k]? = some y)
    (hk : k ≠ w) : m.writes[k]? = some y := by
  rwa [getElem?_setWrite, if_neg hk.symm] at h

theorem of_getElem?_setWrite_self (h : (m.setWrite w ws).writes[w]? = some y)
    (hx : m.writes[w]? = some x) : y = x.setState ws := by
  rw [getElem?_setWrite, if_pos rfl, hx] at h
  exact (Option.some.inj h).symm

namespace Sound

theorem state_of_other {k : Nat} (h : Sound m) (hx : m.writes[w]? = some x)
    (hw : x.state ≠ .finished false) (hy : m.writes[k]? = some y) (hk : k ≠ w)
    (ht : y.ticket = x.ticket) : y.state = .finished false := by
  rcases Nat.lt_or_gt_of_ne hk with hlt | hgt
  · exact h.superseded hy hx hlt ht
  · exact absurd (h.superseded hx hy hgt ht.symm) hw

theorem numbered_setWrite {k : Nat} (h : Sound m) (hy : (m.setWrite w ws).writes[k]? = some y) :
    y.session.index = k + 1 := by
  obtain ⟨x, hx, he, -⟩ := of_getElem?_setWrite hy
  rw [he]
  exact h.numbered hx

theorem superseded_setWrite {k k' : Nat} {y' : Write} (h : Sound m)
    (hy : (m.setWrite w (.finished false)).writes[k]? = some y)
    (hy' : (m.setWrite w (.finished false)).writes[k']? = some y') (hlt : k < k')
    (ht : y.ticket = y'.ticket) : y.state = .finished false := by
  obtain ⟨z, hz, hs, ⟨-, hst⟩ | ⟨-, hst⟩⟩ := of_getElem?_setWrite hy
  · exact hst
  · obtain ⟨z', hz', hs', -⟩ := of_getElem?_setWrite hy'
    rw [Write.ticket_congr hs, Write.ticket_congr hs'] at ht
    rw [hst]
    exact h.superseded hz hz' hlt ht

theorem progress (h : Sound m) {f : Ticket P → Ticket P} (hx : m.writes[w]? = some x)
    (hw : x.state ≠ .finished false) (hws : ws ≠ .finished false)
    (hr : ∀ t, (f t).request = t.request) (ho : ∀ t, (f t).outcome = t.outcome)
    (hc : ∀ t : Ticket P, t.Coherent → (f t).Coherent)
    (hf : ∀ t, m.desk.tickets[x.ticket]? = some t → Fits ws (f t).status) :
    Sound { m.setWrite w ws with desk := m.desk.modify x.ticket f } := by
  have hqueue {n : Nat} (hn : n ∈ m.queue) : n ≠ x.ticket :=
    fun he ↦ hw (h.state_of_queued hn hx he.symm)
  exact {
    filed := h.filed
    timeout := h.timeout
    counted := h.counted.trans (length_setWrite ..).symm
    numbered := h.numbered_setWrite
    named := fun {_ y} hy ↦ by
      obtain ⟨z, hz, he, -⟩ := of_getElem?_setWrite hy
      rw [Write.ticket_congr he, he]
      exact h.named_modify hr hz
    staged := fun {k y _} hy hv ↦ by
      obtain ⟨t, ht, ⟨hk, rfl⟩ | ⟨hk, rfl⟩⟩ := Desk.of_getElem?_modify hv
      · have hfit := hf t (hk ▸ ht)
        by_cases he : k = w
        · subst he
          rw [of_getElem?_setWrite_self hy hx]
          exact hfit
        · have hy := of_getElem?_setWrite_ne hy he
          rw [h.state_of_other hx hw hy he hk]
          exact hfit.not_new
      · by_cases he : k = w
        · subst he
          rw [of_getElem?_setWrite_self hy hx] at hk
          exact absurd rfl hk
        · exact h.staged (of_getElem?_setWrite_ne hy he) ht
    superseded := fun {k k' y y'} hy hy' hlt he ↦ by
      obtain ⟨z, hz, hs, ⟨rfl, -⟩ | ⟨-, hst⟩⟩ := of_getElem?_setWrite hy <;>
        obtain ⟨z', hz', hs', -⟩ := of_getElem?_setWrite hy' <;>
        rw [Write.ticket_congr hs, Write.ticket_congr hs'] at he
      · rw [Option.some.inj (hz.symm.trans hx)] at *
        exact absurd (h.superseded hx hz' hlt he) hw
      · rw [hst]
        exact h.superseded hz hz' hlt he
    known := fun {s} hs ↦ by
      obtain ⟨k, y, hy, rfl, hst⟩ := h.known hs
      obtain ⟨z, hz, he, ⟨-, hz'⟩ | ⟨-, hz'⟩⟩ := getElem?_setWrite_of_some w ws hy
      · exact ⟨k, z, hz, he, hz' ▸ hws⟩
      · exact ⟨k, z, hz, he, hz' ▸ hst⟩
    pending := fun {s} hs ↦ by
      obtain ⟨t, ht, hno⟩ := h.pending hs
      by_cases hk : s.ticket = x.ticket
      · refine ⟨f t, ?_, (ho t).trans hno⟩
        rw [hk] at ht ⊢
        exact Desk.getElem?_modify_of_some ht
      · exact h.pending_modify hs hk
    timed := h.timed
    coherent := fun hv ↦ h.coherent_modify (fun t _ ht ↦ hc t ht) hv
    queued := fun hn ↦ h.queued_modify hn (hqueue hn)
    queuedOnce := h.queuedOnce
    told := h.told
    placed := fun hs n v hv hn ↦ by
      obtain ⟨t, ht, ⟨-, rfl⟩ | ⟨-, rfl⟩⟩ := Desk.of_getElem?_modify hv
      · exact h.placed hs ht ((ho t).symm.trans hn)
      · exact h.placed hs ht hn }

theorem move (h : Sound m) (hx : m.writes[w]? = some x) (hw : x.state ≠ .finished false)
    (hws : ws ≠ .finished false)
    (hf : ∀ t, m.desk.tickets[x.ticket]? = some t → Fits ws t.status) :
    Sound (m.setWrite w ws) := by
  have hp := h.progress (f := id) hx hw hws (fun _ ↦ rfl) (fun _ ↦ rfl) (fun _ ht ↦ ht) hf
  rwa [Desk.modify_eq_self (f := id) fun _ _ ↦ rfl] at hp

theorem setWorker (h : Sound m) {worker : Worker}
    (hw : worker ≠ .stopped ∧ ∀ n, worker ≠ .givenUp n) : Sound { m with worker := worker } :=
  { h with
    told := fun ht ↦ h.told <| ht.imp_right fun hs ↦ by
      rcases hs with hs | ⟨n, hs⟩
      · exact absurd hs hw.1
      · exact absurd hs (hw.2 n) }

theorem stop (h : Sound m) (hd : m.shutdown = true) :
    Sound { m with worker := .stopped, queue := [] } :=
  { h with
    queued := fun hn ↦ by cases hn
    queuedOnce := .nil
    told := fun _ ↦ hd
    placed := fun hs ↦ by rw [hd] at hs; cases hs }

theorem closeRegistry (h : Sound m) (hd : m.shutdown = true) :
    Sound { m with
      phase := .closing
      desk := { m.desk with
        closed := true
        registry := {}
        timers := m.desk.timers.filter fun t ↦ m.desk.registry.entries.all (t.index ≠ ·.index) } } :=
  { h with
    filed := .empty
    known := fun hs ↦ by cases hs
    pending := fun hs ↦ by cases hs
    timed := by
      refine List.perm_nil.2 (List.filter_eq_nil_iff.2 fun t ht hall ↦ ?_)
      obtain ⟨s, hs, rfl⟩ := List.mem_map.1 (h.timed.mem_iff.1 ht)
      have hne := List.all_eq_true.1 hall s hs
      simp [Session.timer] at hne
    told := fun _ ↦ hd
    placed := fun hs ↦ by rw [hd] at hs; cases hs }

theorem failed (h : Sound m) (hx : m.writes[w]? = some x)
    (he : x.session ∉ m.desk.registry.entries) : Sound (m.setWrite w (.finished false)) := by
  exact {
    filed := h.filed
    timeout := h.timeout
    counted := h.counted.trans (length_setWrite ..).symm
    numbered := h.numbered_setWrite
    named := fun {_ y} hy ↦ by
      obtain ⟨z, hz, he, -⟩ := of_getElem?_setWrite hy
      rw [Write.ticket_congr he, he]
      exact h.named hz
    staged := fun {k y _} hy ht ↦ by
      obtain ⟨z, hz, hs, ⟨-, hst⟩ | ⟨-, hst⟩⟩ := of_getElem?_setWrite hy <;>
        rw [Write.ticket_congr hs] at ht <;> rw [hst]
      · exact (h.staged hz ht).not_new
      · exact h.staged hz ht
    superseded := h.superseded_setWrite
    known := fun {s} hs ↦ by
      obtain ⟨k, y, hy, rfl, hst⟩ := h.known hs
      obtain ⟨z, hz, hz', ⟨rfl, -⟩ | ⟨-, hst'⟩⟩ :=
        getElem?_setWrite_of_some w (.finished false) hy
      · rw [Option.some.inj (hy.symm.trans hx)] at hs
        exact absurd hs he
      · exact ⟨k, z, hz, hz', hst' ▸ hst⟩
    pending := h.pending
    timed := h.timed
    coherent := h.coherent
    queued := h.queued
    queuedOnce := h.queuedOnce
    told := h.told
    placed := h.placed }

theorem putBack (h : Sound m) (hx : m.writes[w]? = some x) (hw : x.state ≠ .finished false)
    (hr : m.canRetry x.ticket = true) :
    Sound { m.setWrite w (.finished false) with
      desk := (m.desk.modify x.ticket Ticket.putBack).strike x.session
      queue := m.queue ++ [x.ticket] } := by
  obtain ⟨t, ht, ha⟩ : ∃ t, m.desk.tickets[x.ticket]? = some t ∧
      t.status.canAdvanceTo .retry = true := by
    unfold canRetry at hr
    split at hr
    · next t ht => exact ⟨t, ht, (Bool.and_eq_true_iff.1 hr).2⟩
    · cases hr
  have hst : t.putBack.status = .retry := t.status_putBack ha
  have hself : (m.desk.modify x.ticket Ticket.putBack).tickets[x.ticket]? = some t.putBack :=
    Desk.getElem?_modify_of_some ht
  -- This write has not failed yet, so its request is not in the queue.
  have hqueue {n : Nat} (hn : n ∈ m.queue) : n ≠ x.ticket :=
    fun he ↦ hw (h.state_of_queued hn hx he.symm)
  have hother {s : Session} (hs : s ∈ (m.desk.registry.remove x.session).entries) :
      s ∈ m.desk.registry.entries ∧ s ≠ x.session ∧ s.ticket ≠ x.ticket := by
    obtain ⟨he, hne⟩ := h.mem_of_mem_remove hs
    exact ⟨he, hne, fun ht ↦ hne (h.entry_eq_of_ticket hx hw he ht)⟩
  exact {
    filed := h.filed.remove _
    timeout := h.timeout
    counted := h.counted.trans (length_setWrite ..).symm
    numbered := h.numbered_setWrite
    named := fun {_ y} hy ↦ by
      obtain ⟨z, hz, he, -⟩ := of_getElem?_setWrite hy
      rw [Write.ticket_congr he, he]
      exact h.named_modify (fun t ↦ t.request_putBack) hz
    staged := fun {k y _} hy hv ↦ by
      obtain ⟨z, hz, hs, hcase⟩ := of_getElem?_setWrite hy
      obtain ⟨u, hu, ⟨hk, rfl⟩ | ⟨hk, rfl⟩⟩ := Desk.of_getElem?_modify hv
      · rw [hk, ht, Option.some.injEq] at hu
        rw [← hu, hst]
        rcases hcase with ⟨-, hst⟩ | ⟨hkw, hst⟩
        · rw [hst]
          simp [Fits]
        · rw [Write.ticket_congr hs] at hk
          rw [hst, h.state_of_other hx hw hz hkw hk]
          simp [Fits]
      · rcases hcase with ⟨rfl, -⟩ | ⟨-, hst⟩
        · rw [Write.ticket_congr hs, Option.some.inj (hz.symm.trans hx)] at hk
          exact absurd rfl hk
        · rw [Write.ticket_congr hs] at hu
          rw [hst]
          exact h.staged hz hu
    superseded := h.superseded_setWrite
    known := fun {s} hs ↦ by
      obtain ⟨he, hne, -⟩ := hother hs
      obtain ⟨k, y, hy, rfl, hf⟩ := h.known he
      obtain ⟨z, hz, hz', ⟨rfl, -⟩ | ⟨-, hst'⟩⟩ :=
        getElem?_setWrite_of_some w (.finished false) hy
      · exact absurd (congrArg Write.session (Option.some.inj (hy.symm.trans hx))) hne
      · exact ⟨k, z, hz, hz', hst' ▸ hf⟩
    pending := fun hs ↦ by
      obtain ⟨he, -, hne⟩ := hother hs
      exact h.pending_modify he hne
    timed := h.timed_strike hx
    coherent := fun hv ↦ h.coherent_modify (fun _ _ hc ↦ hc.putBack) hv
    queued := fun hn ↦ by
      rcases List.mem_append.1 hn with hn | hn
      · exact h.queued_modify hn (hqueue hn)
      · rw [List.mem_singleton.1 hn]
        exact ⟨t.putBack, hself, .inr hst⟩
    queuedOnce := by
      refine List.nodup_append.2 ⟨h.queuedOnce, by simp, fun n hn k hk ↦ ?_⟩
      rw [List.mem_singleton.1 hk]
      exact hqueue hn
    told := h.told
    placed := fun hs n v hv hn ↦ by
      obtain ⟨u, hu, ⟨rfl, rfl⟩ | ⟨hk, rfl⟩⟩ := Desk.of_getElem?_modify hv
      · exact .inl (List.mem_append.2 (.inr (.head _)))
      · rcases h.placed hs hu hn with hq | ⟨s, hs, rfl⟩
        · exact .inl (List.mem_append.2 (.inl hq))
        · exact .inr ⟨s, h.mem_remove_of_mem hx hs fun he ↦ hk (congrArg Session.ticket he), rfl⟩ }

theorem step (h : Sound m) (hs : Step m m') : Sound m' := by
  cases hs with
  | idle => exact h
  | clock time _ => exact { h with }
  | doze τ hτ => exact { h with }
  | enqueue r hc ho hr => exact h.enqueue r
  | settle s o hs ho =>
    obtain ⟨w, x, hx, rfl, hw⟩ := h.known hs
    exact h.settle hx hw (fun t ↦ t.request_complete o) fun t ht ↦
      ⟨(h.coherent ht).status_complete o, t.isSome_outcome_complete o⟩
  | take n rest t id hw hd hq ht ha hi =>
    refine h.take hq ht hi ?_
    split <;> simp
  | refuse n rest e hw hd hq hi =>
    refine h.refuse hq (fun t ↦ by simp) fun t ht ↦ ?_
    have hc : (t.advance .accepted).Coherent := (h.coherent ht).advance (by decide)
    exact ⟨hc.status_complete _, Ticket.isSome_outcome_complete ..⟩
  -- What is in the queue is new or was put back, and both can be accepted.
  | skip n rest hw hd hq hc =>
    have hn : n ∈ m.queue := by rw [hq]; exact .head _
    obtain ⟨t, ht, hs⟩ := h.queued hn
    rw [Desk.canAdvance_eq_true.2 ⟨t, ht, Status.canAdvanceTo_accepted.2 hs⟩] at hc
    cases hc
  | release n hn hd => exact h.setWorker (by simp)
  | written w hw hr => exact h.setWorker (by simp)
  | unwritten w hw hr => exact h.setWorker (by simp)
  | stop hd => exact h.stop hd
  | abort w x hd hx hl =>
    refine Sound.stop ?_ hd
    have hst : x.state = .spawned ∨ x.state = .started := by
      unfold Write.isLive at hl
      split at hl
      · next he => exact .inl he
      · next he => exact .inr he
      · cases hl
    refine h.move hx ?_ (by simp) fun t ht ↦ ?_
    · rcases hst with he | he <;> simp [he]
    · have hf := h.staged hx ht
      rcases hst with he | he <;> rw [he] at hf <;> exact hf
  | leave n hw => exact h.stop (h.told (.inr (.inr ⟨n, hw⟩)))
  | start w s hw => exact h.move hw (by simp) (by simp) fun t ht ↦ h.staged hw ht
  | sent w s hw =>
    refine h.progress (x := ⟨s, .started⟩) hw (by simp) (by simp) (by simp) (by simp)
      (fun t ht ↦ ht.advance (by decide)) fun t ht ↦ ?_
    rw [Ticket.status_advance]
    rcases h.staged hw ht with he | he <;> rw [he] <;> simp [Status.canAdvanceTo, Status.rank, Fits]
  | putBack w s hw hr ho hq => exact h.putBack (x := ⟨s, .started⟩) hw (by simp) hr
  | fail w s e f hw hf =>
    have hset : Sound { m with desk := (m.desk.modify s.ticket f).strike s } := by
      refine h.settle (x := ⟨s, .started⟩) hw (by simp) (fun t ↦ ?_) fun t ht ↦ ?_
      · rcases hf with ⟨rfl, -⟩ | ⟨rfl, -⟩ <;> simp
      · have hc := h.coherent ht
        rcases hf with ⟨rfl, -⟩ | ⟨rfl, -⟩
        · exact ⟨hc.status_complete _, t.isSome_outcome_complete _⟩
        · exact ⟨hc.putBack.status_complete _, t.putBack.isSome_outcome_complete _⟩
    refine hset.failed (x := ⟨s, .started⟩) hw fun hs ↦ ?_
    exact (h.mem_of_mem_remove hs).2 rfl
  | beginClose hp =>
    split
    · exact {
        h with
        queued := fun hn ↦ by cases hn
        queuedOnce := .nil
        told := fun _ ↦ rfl
        placed := fun hs ↦ by cases hs }
    · exact { h with told := fun _ ↦ rfl, placed := fun hs ↦ by cases hs }
  | abortWorker n hp => exact { h with told := fun _ ↦ h.told (.inl hp) }
  | closeRegistry hp => exact h.closeRegistry (h.told (.inl hp))
  | endClose hp => exact { h with told := fun _ ↦ h.told (.inl hp) }
  | drop => exact { h with told := fun _ ↦ rfl, placed := fun hs ↦ by cases hs }

theorem act (h : Sound m) (a : Act P) : Sound (m.act a) := by
  have hb : Sound m.bare := { h with }
  exact { hb.step (act_step h.filed a) with }

theorem run (h : Sound m) (as : List (Act P)) : Sound (m.run as) := by
  induction as generalizing m with
  | nil => exact h
  | cons a as ih => exact ih (h.act a)

variable {I : Courier P → Prop} (hb : ∀ k : Courier P, I k.bare ↔ I k)
  (hs : ∀ {k k' : Courier P}, Sound k → Step k k' → I k → I k')

include hb hs

theorem kept_act (h : Sound m) (hi : I m) (a : Act P) : I (m.act a) := by
  have hm : Sound m.bare := { h with }
  exact (hb _).1 (hs hm (act_step h.filed a) ((hb m).2 hi))

/-- What every step keeps holds along every run, unless it speaks of reports or of the agenda. -/
theorem kept (h : Sound m) (hi : I m) (as : List (Act P)) : I (m.run as) := by
  induction as generalizing m with
  | nil => exact hi
  | cons a as ih => exact ih (h.act a) (kept_act hb hs h hi a)

end Sound

theorem Runs.sound (h : m.Runs m') (hm : Sound m) : Sound m' := by
  obtain ⟨as, rfl⟩ := h
  exact hm.run as

theorem Runs.isClosed (h : m.Runs m') (hm : Sound m) (hc : m.isClosed = true) :
    m'.isClosed = true := by
  obtain ⟨as, rfl⟩ := h
  exact hm.kept (I := (·.isClosed = true)) (fun _ ↦ .rfl) (fun _ hs hc ↦ hs.isClosed hc) hc as

theorem Step.config (h : Step m m') : m'.config = m.config := by
  cases h <;> rfl

theorem config_run (m : Courier P) (as : List (Act P)) (h : Sound m) :
    (m.run as).config = m.config :=
  h.kept (I := (·.config = m.config)) (fun _ ↦ .rfl) (fun _ hs hi ↦ hs.config.trans hi) rfl as

end GameServers.Courier
