import GameServers.Proofs.Courier.Dealings
import GameServers.Proofs.Courier.Progress
import GameServers.Proofs.SessionId.Exact

namespace GameServers

variable {P : Protocol}

namespace Desk

/-- Why a request cannot be registered. Of several reasons the first one counts. -/
inductive Objection (d : Desk P) (q : P.Request) (runtime : Bool) : Failure → Prop
  | closed (hc : d.closed = true) : Objection d q runtime .closed
  | noRuntime (hc : d.closed = false) (hr : runtime = false) : Objection d q runtime .noRuntime
  | unmapped (hc : d.closed = false) (hr : runtime = true)
      (hk : P.answerKind? (P.requestKind q) = none) :
    Objection d q runtime (.unmappedRequest (P.kindText (P.requestKind q)))
  | unresolved (hc : d.closed = false) (hr : runtime = true)
      (hk : P.answerKind? (P.requestKind q) ≠ none) (ha : P.recipient q = none) :
    Objection d q runtime (.unresolvedAddress (Envelope.request q : Envelope P).describe)

variable {d : Desk P} {n : Nat} {t : Ticket P} {runtime : Bool} {e : Failure}

theorem create_eq_error : (d.create n runtime).2 = .error e ↔ d.idFor n runtime = .error e := by
  unfold create
  cases d.idFor n runtime <;> simp

theorem create_failed (h : (d.create n runtime).2 = .error e) : (d.create n runtime).1 = d := by
  rw [create, create_eq_error.1 h]

theorem idFor_of_ready (ht : d.tickets[n]? = some t) (hc : d.closed = false) (hr : runtime = true) :
    d.idFor n runtime = (Envelope.request t.request : Envelope P).sessionId := by
  simp [idFor, hc, hr, ht]

/-- A ticket cannot be registered exactly if there is a reason against it, and the first reason is
what the caller is told. -/
theorem create_eq_error_iff (ht : d.tickets[n]? = some t) :
    (d.create n runtime).2 = .error e ↔ d.Objection t.request runtime e := by
  rw [create_eq_error]
  constructor
  · intro h
    cases hc : d.closed with
    | true =>
      obtain rfl : Failure.closed = e := by simpa [idFor, hc] using h
      exact .closed hc
    | false =>
      cases hr : runtime with
      | false =>
        obtain rfl : Failure.noRuntime = e := by simpa [idFor, hc, hr] using h
        exact .noRuntime hc rfl
      | true =>
        rw [idFor_of_ready ht hc hr, Envelope.sessionId_eq_error_iff] at h
        rcases h with ⟨k, ⟨q, hq, rfl, hk⟩, rfl⟩ | ⟨hmapped, ha, rfl⟩
        · obtain rfl := Envelope.request.inj hq
          exact .unmapped hc rfl hk
        · exact .unresolved hc rfl (fun hk ↦ hmapped _ ⟨_, rfl, rfl, hk⟩) ha
  · intro h
    cases h with
    | closed hc => simp [idFor, hc]
    | noRuntime hc hr => simp [idFor, hc, hr]
    | unmapped hc hr hk =>
      rw [idFor_of_ready ht hc hr]
      exact Envelope.sessionId_eq_error_iff.2 (.inl ⟨_, ⟨_, rfl, rfl, hk⟩, rfl⟩)
    | unresolved hc hr hk ha =>
      rw [idFor_of_ready ht hc hr]
      refine Envelope.sessionId_eq_error_iff.2 (.inr ⟨?_, ha, rfl⟩)
      rintro k ⟨q, hq, rfl, hk'⟩
      obtain rfl := Envelope.request.inj hq
      exact hk hk'

end Desk

namespace Courier

variable {m : Courier P} {n : Nat} {rest : List Nat} {e : Failure}

/-- The worker is about to take a request off the queue that cannot be registered. -/
structure Balks (m : Courier P) (n : Nat) (rest : List Nat) (e : Failure) : Prop where
  waiting : m.worker = .waiting
  untold : m.shutdown = false
  next : m.queue = n :: rest
  fresh : m.desk.canAdvance n .accepted = true
  refused : (m.desk.create n true).2 = .error e

/-- What becomes of a request that cannot be registered, and of all others. -/
structure Isolated (m : Courier P) (n : Nat) (rest : List Nat) (e : Failure) : Prop where
  cause : ∃ t, m.desk.tickets[n]? = some t ∧ t.outcome = none ∧ m.desk.Objection t.request true e
  /-- The request is settled and has left the queue. All else is as it was. -/
  effect : m.work.bare = { m.bare with
    desk := m.bare.desk.modify n fun t ↦ (t.advance .accepted).complete (.error e)
    queue := rest }
  others : ∀ k ≠ n, m.work.outcome? k = m.outcome? k
  /-- The outcome stays, and no write of the request begins any more. Only if the registry was
  closed can there have been any. -/
  later : ∀ after, let k := m.work.dealings after
    k.outcome? n = some (.error e) ∧ n ∉ k.queue ∧ k.isWriting n = false ∧
      k.attempts n = m.attempts n ∧ (e ≠ .closed → k.attempts n = 0)
  /-- The worker is ready for the next request, which gets the next index. -/
  onward : ∀ next behind id, rest = next :: behind → m.desk.canAdvance next .accepted = true →
    m.desk.idFor next true = .ok id → TakesUp m.work m.work.work (m.desk.nextSession next id)

theorem Isolated.rejected (h : m.Isolated n rest e) : m.work.outcome? n = some (.error e) :=
  (h.later []).1

theorem work_of_waiting (hw : m.worker = .waiting) (hd : m.shutdown = false)
    (hq : m.queue = n :: rest) : m.work = { m with queue := rest }.takeUp n := by
  simp only [work, hw, hd, hq, Bool.false_eq_true, if_false]

theorem takesUp_of_ready {id : SessionId} (hw : m.worker = .waiting) (hd : m.shutdown = false)
    (hq : m.queue = n :: rest) (ha : m.desk.canAdvance n .accepted = true)
    (hi : m.desk.idFor n true = .ok id) : TakesUp m m.work (m.desk.nextSession n id) := by
  have hb := bare_takeUp_of_ok (m := { m with queue := rest }) hw ha hi
  have hregistry : ({ m with queue := rest }.takeUp n).desk.registry =
      m.desk.registry.file (m.desk.nextSession n id) := (congrArg (·.desk.registry) hb :)
  rw [work_of_waiting hw hd hq]
  refine ⟨(congrArg writes hb :), ?_⟩
  rw [hregistry]
  exact Registry.mem_entries_file.2 (.inl rfl)

theorem outcome?_of_some {t : Ticket P} {o : Outcome P} (ht : m.desk.tickets[n]? = some t)
    (ho : t.outcome = some o) : m.outcome? n = some o := by
  simp only [outcome?, Desk.outcome?, ht, ho]

namespace Balks

theorem bare_work (h : m.Balks n rest e) : m.work.bare = { m.bare with
    desk := m.bare.desk.modify n fun t ↦ (t.advance .accepted).complete (.error e)
    queue := rest } := by
  rw [work_of_waiting h.waiting h.untold h.next]
  exact bare_takeUp_of_error (m := { m with queue := rest }) h.fresh
    (Desk.create_eq_error.1 h.refused)

theorem exists_pending (h : m.Balks n rest e) (hm : Fair m) :
    ∃ t, m.desk.tickets[n]? = some t ∧ t.outcome = none := by
  obtain ⟨t, ht, ha⟩ := Desk.canAdvance_eq_true.1 h.fresh
  refine ⟨t, ht, ?_⟩
  by_contra ho
  rw [hm.tidy.sealed ht ho] at ha
  cases ha

theorem count_rest (h : m.Balks n rest e) (hm : Fair m) : rest.count n + m.liveOf n = 0 := by
  have hlight : m.queue.count n + m.liveOf n ≤ 1 := hm.light n
  rw [h.next, List.count_cons_self] at hlight
  omega

theorem spent (h : m.Balks n rest e) (hm : Fair m) : m.work.Spent n (m.attempts n) := by
  have hb := h.bare_work
  obtain ⟨t, ht, -⟩ := h.exists_pending hm
  refine ⟨(hm.follows (.own .work)).desk.known (List.getElem?_eq_some_iff.1 ht).1, ?_, ?_⟩
  · change m.work.bare.load n = 0
    rw [hb]
    exact h.count_rest hm
  · change m.work.bare.attempts n = _
    rw [hb]
    rfl

theorem attempts_eq_zero (h : m.Balks n rest e) (hm : Fair m) (he : e ≠ .closed) :
    m.attempts n = 0 := by
  by_contra hne
  obtain ⟨t, id, ht, hid⟩ := hm.named n (Nat.pos_of_ne_zero hne)
  have hobj := (Desk.create_eq_error_iff ht).1 h.refused
  have hopen : m.desk.closed = false := by
    cases hobj with
    | closed => exact absurd rfl he
    | noRuntime hc | unmapped hc | unresolved hc => exact hc
  have hfor := Desk.create_eq_error.1 h.refused
  rw [Desk.idFor_of_ready ht hopen rfl, hid] at hfor
  cases hfor

theorem outcome?_of_ne (h : m.Balks n rest e) {k : Nat} (hk : k ≠ n) :
    m.work.outcome? k = m.outcome? k := by
  have hb := h.bare_work
  have hheld : m.work.isHeld k = m.isHeld k := by
    change m.work.bare.isHeld k = _
    rw [hb]
    simp [isHeld, h.next, hk, workerTicket?, bare, h.waiting]
  have htickets : m.work.bare.desk.tickets[k]? = m.desk.tickets[k]? := by
    rw [hb]
    exact Desk.getElem?_modify_of_ne hk
  have hkeeps : m.work.bare.desk.keeps k = m.desk.keeps k := by
    rw [hb]
    rfl
  change m.work.bare.desk.outcome? (m.work.isHeld k) k = m.desk.outcome? (m.isHeld k) k
  rw [hheld, Desk.outcome?, htickets, hkeeps, Desk.outcome?]

theorem ne_of_behind (h : m.Balks n rest e) (hm : Fair m) {k : Nat} (hk : k ∈ rest) : k ≠ n := by
  rintro rfl
  have hzero := h.count_rest hm
  have hpos : 0 < rest.count k := List.count_pos_iff.2 hk
  omega

theorem takesUp (h : m.Balks n rest e) (hm : Fair m) {next : Nat} {behind : List Nat}
    {id : SessionId} (hq : rest = next :: behind) (ha : m.desk.canAdvance next .accepted = true)
    (hi : m.desk.idFor next true = .ok id) :
    TakesUp m.work m.work.work (m.desk.nextSession next id) := by
  have hb := h.bare_work
  have hne : next ≠ n := h.ne_of_behind hm (hq ▸ .head _)
  have hwait : m.work.worker = .waiting := (congrArg worker hb :).trans h.waiting
  have huntold : m.work.shutdown = false := (congrArg shutdown hb :).trans h.untold
  have hqueue : m.work.queue = next :: behind := (congrArg queue hb :).trans hq
  have hclosed : m.work.desk.closed = m.desk.closed := (congrArg (·.desk.closed) hb :)
  have hsession : m.work.desk.nextSession next id = m.desk.nextSession next id :=
    (congrArg (·.desk.nextSession next id) hb :)
  have htickets : m.work.desk.tickets[next]? = m.desk.tickets[next]? :=
    (congrArg (·.desk.tickets[next]?) hb :).trans (Desk.getElem?_modify_of_ne hne)
  rw [← hsession]
  refine takesUp_of_ready hwait huntold hqueue ?_ ?_
  · rwa [Desk.canAdvance, htickets]
  · rwa [Desk.idFor, htickets, hclosed]

theorem rejected (h : m.Balks n rest e) (hm : Fair m) :
    ∃ t, m.work.desk.tickets[n]? = some t ∧ t.outcome = some (.error e) := by
  obtain ⟨t, ht, ho⟩ := h.exists_pending hm
  have htickets : m.work.desk.tickets[n]? = _ := (congrArg (·.desk.tickets[n]?) h.bare_work :)
  refine ⟨_, htickets.trans (Desk.getElem?_modify_of_some ht), ?_⟩
  rw [Ticket.complete_of_none _ _ ((t.outcome_advance _).trans ho)]

theorem isolated (h : m.Balks n rest e) (hm : Fair m) : m.Isolated n rest e where
  cause := by
    obtain ⟨t, ht, ho⟩ := h.exists_pending hm
    exact ⟨t, ht, ho, (Desk.create_eq_error_iff ht).1 h.refused⟩
  effect := h.bare_work
  others k hk := h.outcome?_of_ne hk
  later after := by
    have hwork : Fair m.work := (hm.follows (.own .work)).fair hm
    have hspent : (m.work.dealings after).Spent n (m.attempts n) :=
      hwork.kept (I := (·.Spent n _)) (fun hf ↦ hf.spent) (h.spent hm) after
    obtain ⟨t, ht, ho⟩ : ∃ t, (m.work.dealings after).desk.tickets[n]? = some t ∧
        t.outcome = some (.error e) := by
      refine hwork.kept (I := fun k ↦ ∃ t, k.desk.tickets[n]? = some t ∧ t.outcome = some (.error e))
        (fun hf ↦ ?_) (h.rejected hm) after
      rintro ⟨u, hu, huo⟩
      obtain ⟨u', hu', hl⟩ := hf.desk.leads hu
      exact ⟨u', hu', hl.2 _ huo⟩
    exact ⟨outcome?_of_some ht ho, hspent.not_queued, hspent.isWriting, hspent.attempts,
      fun he ↦ hspent.attempts.trans (h.attempts_eq_zero hm he)⟩
  onward next behind id hq ha hi := h.takesUp hm hq ha hi

end Balks

theorem dealings_own (m : Courier P) (as : List (Act P)) : m.dealings (as.map .own) = m.run as :=
  List.foldl_map

section Own

variable (config : Config) (as : List (Act P))

theorem fresh_of_queued (hn : n ∈ ((make config : Courier P).dealings (as.map .own)).queue) :
    ((make config : Courier P).dealings (as.map .own)).desk.canAdvance n .accepted = true := by
  rw [dealings_own] at hn ⊢
  obtain ⟨t, ht, hst⟩ := ((Sound.make config).run as).queued hn
  exact Desk.canAdvance_eq_true.2 ⟨t, ht, Status.canAdvanceTo_accepted.2 hst⟩

theorem ne_closed_of_balks (h : ((make config : Courier P).dealings (as.map .own)).Balks n rest e) :
    e ≠ .closed := by
  rw [dealings_own] at h
  obtain ⟨t, ht, -⟩ := Desk.canAdvance_eq_true.1 h.fresh
  rintro rfl
  cases (Desk.create_eq_error_iff ht).1 h.refused with
  | closed hc => exact absurd (((minds_run config as).closed hc).symm.trans h.untold) (by decide)

end Own

/-- A registration that fails has failed for the first reason that there was, and has changed
nothing. In a run of a courier, whatever others do at its desk, it costs the request its promise and
nobody else anything: the next request is registered with the index that this one would have had.
Only others at the desk can move a request before the worker comes to it, and only they can close
the registry between two writes of a request. -/
theorem failed_registration_is_isolated :
    (∀ (d : Desk P) n t runtime e, d.tickets[n]? = some t →
      ((d.create n runtime).2 = .error e ↔ d.Objection t.request runtime e) ∧
        ((d.create n runtime).2 = .error e → (d.create n runtime).1 = d)) ∧
    (∀ config before n rest e, ((make config : Courier P).dealings before).Balks n rest e →
      ((make config : Courier P).dealings before).Isolated n rest e) ∧
    ∀ config (as : List (Act P)), let m := (make config : Courier P).dealings (as.map .own)
      (∀ n ∈ m.queue, m.desk.canAdvance n .accepted = true) ∧
        ∀ n rest e after, m.Balks n rest e → (m.work.dealings after).attempts n = 0 := by
  have hisolated config before n rest e
      (h : ((make config : Courier P).dealings before).Balks n rest e) :
      ((make config : Courier P).dealings before).Isolated n rest e :=
    h.isolated ((Fair.make config).dealings before)
  refine ⟨fun d n t runtime e ht ↦ ⟨Desk.create_eq_error_iff ht, Desk.create_failed⟩, hisolated,
    fun config as ↦ ⟨fun n hn ↦ fresh_of_queued config as hn, fun n rest e after h ↦ ?_⟩⟩
  obtain ⟨-, -, -, -, hnone⟩ := (hisolated config _ n rest e h).later after
  exact hnone (ne_closed_of_balks config as h)

/-- Nothing answers the first request, and the second one is registered as if there had been no
first. When someone closes the registry, the third one is rejected too. -/
theorem orphan_and_latecomer_are_rejected :
    let orphan : Plain.Message := ⟨.orphan, none, ""⟩
    let sends : List (Act Plain.protocol) := [.send orphan true, .send ping true, .send ping true]
    let before := sends.map .own ++ [.own .work, .own .work, .other .close]
    let m := (make {} : Courier Plain.protocol).dealings (sends.map .own)
    let late := (make {} : Courier Plain.protocol).dealings before
    (m.desk.create 0 true).2 = .error (.unmappedRequest "Orphan") ∧
      (m.desk.create 0 true).1 = m.desk ∧
      m.work.outcome? 0 = some (.error (.unmappedRequest "Orphan")) ∧
      TakesUp m.work m.work.work ⟨⟨"PING:::1:1"⟩, 1, 1, 0⟩ ∧
      (∀ after, (m.work.dealings after).attempts 0 = 0) ∧
      late.work.outcome? 2 = some (.error .closed) := by
  intro orphan sends before m late
  obtain ⟨hcreate, hwork, hown⟩ := failed_registration_is_isolated (P := Plain.protocol)
  have hrefused : (m.desk.create 0 true).2 = .error (.unmappedRequest "Orphan") := by
    decide +kernel
  have hbalks : m.Balks 0 [1, 2] (.unmappedRequest "Orphan") :=
    ⟨by decide +kernel, by decide +kernel, by decide +kernel, by decide +kernel, hrefused⟩
  have hm : m.Isolated 0 [1, 2] (.unmappedRequest "Orphan") := hwork {} _ 0 [1, 2] _ hbalks
  have hlate : late.Isolated 2 [] .closed :=
    hwork {} before 2 [] _ ⟨by decide +kernel, by decide +kernel, by decide +kernel,
      by decide +kernel, by decide +kernel⟩
  have hid : m.desk.idFor 1 true = .ok ⟨"PING:::1:1"⟩ := by decide +kernel
  have hsession : m.desk.nextSession 1 ⟨"PING:::1:1"⟩ = ⟨⟨"PING:::1:1"⟩, 1, 1, 0⟩ := by
    decide +kernel
  obtain ⟨t, ht, -⟩ := hm.cause
  exact ⟨hrefused, (hcreate m.desk 0 t true _ ht).2 hrefused, hm.rejected,
    hsession ▸ hm.onward 1 [2] _ rfl (by decide +kernel) hid,
    fun after ↦ (hown {} sends).2 0 [1, 2] _ after hbalks, hlate.rejected⟩

end Courier

end GameServers
