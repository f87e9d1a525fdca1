import GameServers.Proofs.Courier.Aftermath

namespace GameServers.Courier

variable {P : Protocol} {m m' : Courier P} {w n : Nat} {x y : Write} {s : Session} {t : Ticket P}
  {ws : WriteState}

def attempts (m : Courier P) (n : Nat) : Nat := (m.writes.map Write.ticket).count n

def Unfailed (m : Courier P) (n : Nat) : Prop :=
  ∃ x ∈ m.writes, x.ticket = n ∧ x.state ≠ .finished false

theorem attempts_setWrite (m : Courier P) (w : Nat) (ws : WriteState) :
    (m.setWrite w ws).attempts = m.attempts := by
  funext n
  rw [attempts, map_ticket_setWrite, attempts]

theorem attempts_concat (hw : m'.writes = m.writes ++ [x]) :
    m'.attempts n = m.attempts n + if x.ticket = n then 1 else 0 := by
  rw [attempts, hw, List.map_append, List.count_append, List.map_singleton, List.count_singleton]
  simp only [attempts, beq_iff_eq]

theorem attempts_pos (hx : m.writes[w]? = some x) : 0 < m.attempts x.ticket :=
  List.count_pos_iff.2 (List.mem_map_of_mem (List.mem_of_getElem? hx))

theorem Unfailed.of_setWrite (hx : m.writes[w]? = some x) (hf : x.state ≠ .finished false)
    (h : (m.setWrite w ws).Unfailed n) : m.Unfailed n := by
  obtain ⟨y, hy, hn, hyf⟩ := h
  obtain ⟨k, hk⟩ := List.mem_iff_getElem?.1 hy
  obtain ⟨z, hz, hs, ⟨rfl, -⟩ | ⟨-, hst⟩⟩ := of_getElem?_setWrite hk
  · obtain rfl := Option.some.inj (hz.symm.trans hx)
    exact ⟨z, List.mem_of_getElem? hz, (Write.ticket_congr hs).symm.trans hn, hf⟩
  · exact ⟨z, List.mem_of_getElem? hz, (Write.ticket_congr hs).symm.trans hn, hst ▸ hyf⟩

theorem canRetry_iff (ht : m.desk.tickets[n]? = some t) : m.canRetry n = true ↔
    t.retries < m.config.maxWriteRetries ∧ t.status.canAdvanceTo .retry = true := by
  simp [canRetry, ht]

theorem retries_complete (t : Ticket P) (o : Outcome P) : (t.complete o).retries = t.retries := by
  unfold Ticket.complete
  split <;> rfl

theorem retries_advance (t : Ticket P) (next : Status) : (t.advance next).retries = t.retries := by
  unfold Ticket.advance
  split <;> rfl

theorem retries_takeUp (t : Ticket P) : t.takeUp.retries = t.retries := by
  rw [Ticket.takeUp, retries_advance, retries_advance, retries_advance]

theorem retries_putBack (t : Ticket P) : t.putBack.retries = t.retries + 1 :=
  congrArg (· + 1) (retries_advance t .retry)

namespace Sound

theorem attempts_eq_zero (h : Sound m) (hn : m.desk.tickets.length ≤ n) : m.attempts n = 0 := by
  refine List.count_eq_zero.2 fun hm ↦ ?_
  obtain ⟨x, hx, rfl⟩ := List.mem_map.1 hm
  obtain ⟨w, hw⟩ := List.mem_iff_getElem?.1 hx
  obtain ⟨t, ht, -⟩ := h.named hw
  have hlt := (List.getElem?_eq_some_iff.1 ht).1
  omega

theorem outcome_of_canRetry (h : Sound m) (ht : m.desk.tickets[n]? = some t)
    (hr : m.canRetry n = true) : t.outcome = none := by
  have ha := ((canRetry_iff ht).1 hr).2
  cases ho : t.outcome with
  | none => rfl
  | some o =>
    rw [(h.coherent ht).2 (by rw [ho]; rfl)] at ha
    cases ha

theorem canRetry_of_started (h : Sound m) (hw : m.writes[w]? = some ⟨s, .started⟩)
    (ht : m.desk.tickets[s.ticket]? = some t) (ho : t.outcome = none) :
    m.canRetry s.ticket = true ↔ t.retries < m.config.maxWriteRetries := by
  rw [canRetry_iff ht, and_iff_left_iff_imp]
  intro _
  rcases h.staged hw ht with hst | hst
  · rw [hst]
    rfl
  · have hsome := (h.coherent ht).1 hst
    rw [ho] at hsome
    cases hsome

end Sound

/-- The attempts at a request and its retries. -/
structure Counted (m : Courier P) (n : Nat) (t : Ticket P) : Prop where
  bounded : t.retries ≤ m.config.maxWriteRetries
  attempts_le : m.attempts n ≤ t.retries + 1
  queued : n ∈ m.queue → m.attempts n = t.retries
  /-- The attempt that has not failed is one more than the retries. -/
  unfailed : t.outcome = none → m.Unfailed n → m.attempts n = t.retries + 1

namespace Counted

variable {t' : Ticket P}

theorem mono (h : Counted m n t) (hc : m'.config = m.config) (ha : m'.attempts n = m.attempts n)
    (hr : t'.retries = t.retries) (hq : n ∈ m'.queue → n ∈ m.queue)
    (hu : t'.outcome = none → t.outcome = none ∧ (m'.Unfailed n → m.Unfailed n)) :
    Counted m' n t' where
  bounded := by
    rw [hr, hc]
    exact h.bounded
  attempts_le := by
    rw [ha, hr]
    exact h.attempts_le
  queued hn := by
    rw [ha, hr]
    exact h.queued (hq hn)
  unfailed ho hf := by
    rw [ha, hr]
    exact h.unfailed (hu ho).1 ((hu ho).2 hf)

theorem take (h : Counted m n t) (hn : n ∈ m.queue) (hc : m'.config = m.config)
    (ha : m'.attempts n = m.attempts n + 1) (hr : t'.retries = t.retries) (hq : n ∉ m'.queue) :
    Counted m' n t' := by
  have hnow : m'.attempts n = t'.retries + 1 := by rw [ha, hr, h.queued hn]
  refine ⟨?_, hnow.le, fun hn' ↦ absurd hn' hq, fun _ _ ↦ hnow⟩
  rw [hr, hc]
  exact h.bounded

theorem retry (h : Counted m n t) (hc : m'.config = m.config) (ha : m'.attempts n = m.attempts n)
    (hr : t'.retries = t.retries + 1) (hmax : t.retries < m.config.maxWriteRetries)
    (ho : t.outcome = none) (hu : m.Unfailed n) (hu' : t'.outcome = none → ¬ m'.Unfailed n) :
    Counted m' n t' := by
  have hnow : m'.attempts n = t'.retries := by rw [ha, hr, h.unfailed ho hu]
  refine ⟨?_, by omega, fun _ ↦ hnow, fun ho' hf ↦ absurd hf (hu' ho')⟩
  rw [hr, hc]
  exact hmax

end Counted

theorem unfailed_of_started (hw : m.writes[w]? = some ⟨s, .started⟩) : m.Unfailed s.ticket :=
  ⟨_, List.mem_of_getElem? hw, rfl, by simp⟩

theorem Sound.not_unfailed (h : Sound m) (hw : m.writes[w]? = some ⟨s, .started⟩) :
    ¬ (m.setWrite w (.finished false)).Unfailed s.ticket := by
  rintro ⟨y, hy, hn, hf⟩
  obtain ⟨k, hk⟩ := List.mem_iff_getElem?.1 hy
  obtain ⟨x, hx, hs, ⟨-, hst⟩ | ⟨hne, hst⟩⟩ := of_getElem?_setWrite hk
  · exact hf hst
  · have hxn : x.ticket = s.ticket := (Write.ticket_congr hs).symm.trans hn
    exact hf (hst.trans (h.state_of_other hw (by simp) hx hne hxn))

theorem Sound.counted_enqueue (h : Sound m)
    (hc : ∀ {n t}, m.desk.tickets[n]? = some t → Counted m n t) {u : Ticket P} {worker : Worker}
    (hu : u.retries = 0) (ht : (m.desk.tickets ++ [u])[n]? = some t) :
    Counted { m with
      desk := { m.desk with tickets := m.desk.tickets ++ [u] }
      queue := m.queue ++ [m.desk.tickets.length]
      worker } n t := by
  rcases getElem?_concat ht with hold | ⟨rfl, rfl⟩
  · have hlt := (List.getElem?_eq_some_iff.1 hold).1
    refine (hc hold).mono rfl rfl rfl (fun hq ↦ ?_) fun ho ↦ ⟨ho, id⟩
    rcases List.mem_append.1 hq with hq | hq
    · exact hq
    · rw [List.mem_singleton] at hq
      omega
  · have hzero : m.attempts m.desk.tickets.length = 0 := h.attempts_eq_zero le_rfl
    refine ⟨hu.le.trans (Nat.zero_le _), hzero.le.trans (Nat.zero_le _), fun _ ↦ hzero.trans hu.symm, ?_⟩
    rintro - ⟨x, hx, hxn, -⟩
    have hpos : 0 < m.attempts x.ticket := by
      obtain ⟨w, hw⟩ := List.mem_iff_getElem?.1 hx
      exact attempts_pos hw
    rw [hxn] at hpos
    exact absurd hzero hpos.ne'

theorem counted_failed (hc : ∀ {n t}, m.desk.tickets[n]? = some t → Counted m n t)
    (hw : m.writes[w]? = some ⟨s, .started⟩) {f : Ticket P → Ticket P} {queue : List Nat}
    {desk : Desk P} (hd : desk.tickets = m.desk.tickets.modify s.ticket f)
    (hq : ∀ n ∈ queue, n ∈ m.queue ∨ n = s.ticket)
    (hself : ∀ t, m.desk.tickets[s.ticket]? = some t → Counted m s.ticket t →
      Counted { m.setWrite w (.finished false) with desk, queue } s.ticket (f t))
    (ht : desk.tickets[n]? = some t) :
    Counted { m.setWrite w (.finished false) with desk, queue } n t := by
  rw [hd] at ht
  obtain ⟨u, hu, ⟨rfl, rfl⟩ | ⟨hn, rfl⟩⟩ := Desk.of_getElem?_modify (d := m.desk) ht
  · exact hself u hu (hc hu)
  · refine (hc hu).mono rfl (congrFun (attempts_setWrite m w _) n) rfl ?_ fun ho ↦ ⟨ho, ?_⟩
    · exact fun hm ↦ (hq n hm).resolve_right hn
    · exact Unfailed.of_setWrite hw (by simp)

theorem Step.counted (hs : Step m m') (h : Sound m)
    (hc : ∀ {n t}, m.desk.tickets[n]? = some t → Counted m n t) {n : Nat} {t : Ticket P}
    (ht : m'.desk.tickets[n]? = some t) : Counted m' n t := by
  have hset (w : Nat) (ws : WriteState) (n : Nat) := congrFun (attempts_setWrite m w ws) n
  have hsame {t' : Ticket P} (ho : t'.outcome = none) :
      t'.outcome = none ∧ (m.Unfailed n → m.Unfailed n) := ⟨ho, id⟩
  cases hs with
  | enqueue r => exact h.counted_enqueue hc rfl ht
  | settle s o =>
    obtain ⟨u, hu, ⟨-, rfl⟩ | ⟨-, rfl⟩⟩ := Desk.of_getElem?_modify ht
    · have hsome := Option.isSome_iff_ne_none.1 (u.isSome_outcome_complete o)
      exact (hc hu).mono rfl rfl (retries_complete u o) id fun ho ↦ absurd ho hsome
    · exact (hc hu).mono rfl rfl rfl id hsame
  | take k rest u id _ _ hq =>
    have hrest : m.queue.Nodup := h.queuedOnce
    rw [hq, List.nodup_cons] at hrest
    obtain ⟨v, hv, ⟨rfl, rfl⟩ | ⟨hn, rfl⟩⟩ := Desk.of_getElem?_modify ht
    · refine (hc hv).take (hq ▸ .head _) rfl ?_ (retries_takeUp v) hrest.1
      exact (attempts_concat rfl).trans (congrArg _ (if_pos rfl))
    · refine (hc hv).mono rfl ?_ rfl (fun hm ↦ hq ▸ .tail _ hm) fun ho ↦ ⟨ho, ?_⟩
      · exact (attempts_concat rfl).trans (congrArg _ (if_neg (Ne.symm hn)))
      · rintro ⟨x, hx, hxn, hf⟩
        rcases List.mem_append.1 hx with hx | hx
        · exact ⟨x, hx, hxn, hf⟩
        · rw [List.mem_singleton.1 hx] at hxn
          exact absurd hxn.symm hn
  | refuse k rest e _ _ hq =>
    have hmem : n ∈ rest → n ∈ m.queue := fun hn ↦ hq ▸ .tail _ hn
    obtain ⟨u, hu, ⟨-, rfl⟩ | ⟨-, rfl⟩⟩ := Desk.of_getElem?_modify ht
    · have hr : ((u.advance .accepted).complete (.error e)).retries = u.retries := by
        rw [retries_complete, retries_advance]
      have hsome := (u.advance .accepted).isSome_outcome_complete (.error e)
      exact (hc hu).mono rfl rfl hr hmem fun ho ↦ absurd ho (Option.isSome_iff_ne_none.1 hsome)
    · exact (hc hu).mono rfl rfl rfl hmem hsame
  | skip k rest _ _ hq => exact (hc ht).mono rfl rfl rfl (fun hn ↦ hq ▸ .tail _ hn) hsame
  | stop | leave => exact (hc ht).mono rfl rfl rfl (fun hn ↦ by cases hn) hsame
  | abort w x _ hx hl =>
    have hf : x.state ≠ .finished false := fun hst ↦ by simp [Write.isLive, hst] at hl
    exact (hc ht).mono rfl (hset w _ n) rfl (fun hn ↦ by cases hn) fun ho ↦ ⟨ho, .of_setWrite hx hf⟩
  | start w s hw =>
    exact (hc ht).mono rfl (hset w _ n) rfl id fun ho ↦ ⟨ho, .of_setWrite hw (by simp)⟩
  | sent w s hw =>
    have hu' : (m.setWrite w (.finished true)).Unfailed n → m.Unfailed n := .of_setWrite hw (by simp)
    obtain ⟨u, hu, ⟨-, rfl⟩ | ⟨-, rfl⟩⟩ := Desk.of_getElem?_modify ht
    · refine (hc hu).mono rfl (hset w _ n) (retries_advance u _) id fun ho ↦ ⟨?_, hu'⟩
      exact (u.outcome_advance _).symm.trans ho
    · exact (hc hu).mono rfl (hset w _ n) rfl id fun ho ↦ ⟨ho, hu'⟩
  | putBack w s hw hr =>
    refine counted_failed hc hw rfl (fun n hn ↦ by simpa using hn) (fun u hu hcu ↦ ?_) ht
    exact hcu.retry rfl (hset w _ _) (retries_putBack u) ((canRetry_iff hu).1 hr).1
      (h.outcome_of_canRetry hu hr) (unfailed_of_started hw) fun _ ↦ h.not_unfailed hw
  | fail w s e f hw hf =>
    refine counted_failed hc hw rfl (fun n hn ↦ .inl hn) (fun u hu hcu ↦ ?_) ht
    rcases hf with ⟨rfl, -⟩ | ⟨rfl, hr, -⟩
    · have hsome := Option.isSome_iff_ne_none.1 (u.isSome_outcome_complete (.error e))
      exact hcu.mono rfl (hset w _ _) (retries_complete u _) id fun ho ↦ absurd ho hsome
    · have hretries : (u.putBack.complete (.error e)).retries = u.retries + 1 := by
        rw [retries_complete, retries_putBack]
      have hsome := Option.isSome_iff_ne_none.1 (u.putBack.isSome_outcome_complete (.error e))
      exact hcu.retry rfl (hset w _ _) hretries ((canRetry_iff hu).1 hr).1
        (h.outcome_of_canRetry hu hr) (unfailed_of_started hw) fun ho ↦ absurd ho hsome
  | beginClose =>
    refine (hc ht).mono rfl rfl rfl (fun hn ↦ ?_) hsame
    split at hn
    · cases hn
    · exact hn
  | _ => exact (hc ht).mono rfl rfl rfl id hsame

theorem counted_run (config : Config) (as : List (Act P))
    (ht : ((make config : Courier P).run as).desk.tickets[n]? = some t) :
    Counted ((make config).run as) n t := by
  refine (Sound.make config).kept
    (I := fun k ↦ ∀ {n t}, k.desk.tickets[n]? = some t → Counted k n t) (fun k ↦ ?_)
    (fun h hs hc ↦ hs.counted h hc) (fun ht ↦ ?_) as ht
  · exact ⟨fun h n t ht ↦ { h ht with }, fun h n t ht ↦ { h ht with }⟩
  · simp [make] at ht

end GameServers.Courier
