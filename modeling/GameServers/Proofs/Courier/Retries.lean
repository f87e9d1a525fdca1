import GameServers.Proofs.Courier.Progress
import GameServers.Proofs.Courier.Tally

namespace GameServers.Courier

variable {P : Protocol} {m m' : Courier P} {w n : Nat} {x y : Write} {s : Session} {t : Ticket P}
  {e : Failure}

theorem Sound.queueOpen (h : Sound m) (hd : m.shutdown = false) : m.queueOpen = true := by
  rw [Courier.queueOpen, decide_eq_true_eq]
  intro hw
  rw [h.told (.inr (.inl hw))] at hd
  cases hd

theorem Sound.finishWrite_error (h : Sound m) (hw : m.writes[w]? = some ⟨s, .started⟩) (e : Failure) :
    let m' := m.finishWrite w (.error e)
    m'.writes = (m.setWrite w (.finished false)).writes ∧
      if m.canRetry s.ticket then
        if m.queueOpen && m.queueHasRoom then
          m'.queue = m.queue ++ [s.ticket] ∧
            m'.desk.tickets = m.desk.tickets.modify s.ticket Ticket.putBack
        else m'.desk.tickets = m.desk.tickets.modify s.ticket fun t ↦ t.putBack.complete (.error e)
      else m'.desk.tickets = m.desk.tickets.modify s.ticket (·.complete (.error e)) := by
  intro m'
  split
  · next hr =>
    split
    · next hq =>
      have hb := bare_finishWrite_putBack h.filed hw e hr hq
      exact ⟨(congrArg (·.writes) hb :), (congrArg (·.queue) hb :), (congrArg (·.desk.tickets) hb :)⟩
    · next hq =>
      have hb := bare_finishWrite_full h.filed hw e hr (by simpa using hq)
      exact ⟨(congrArg (·.writes) hb :), (congrArg (·.desk.tickets) hb :)⟩
  · next hr =>
    have hb := bare_finishWrite_fail h.filed hw e (by simpa using hr)
    exact ⟨(congrArg (·.writes) hb :), (congrArg (·.desk.tickets) hb :)⟩

/-- The request of a failing write goes back to the queue, or is settled with the failure. -/
inductive FailureOf (m m' : Courier P) (n : Nat) (e : Failure) : Prop
  | putBack (ha : m.attempts n ≤ m.config.maxWriteRetries) (hq : isPutBack n m m' = true)
      (ho : m'.outcome? n = none)
  | last (ha : m.attempts n = 1 + m.config.maxWriteRetries) (ho : m'.outcome? n = some (.error e))
  | turnedAway (ha : m.attempts n ≤ m.config.maxWriteRetries) (hq : isTurnedAway n m m' = true)
      (ho : m'.outcome? n = some (.error e))

theorem Sound.failureOf (h : Sound m) (hc : Counted m s.ticket t) (hd : m.shutdown = false)
    (hw : m.writes[w]? = some ⟨s, .started⟩) (ht : m.desk.tickets[s.ticket]? = some t)
    (ho : t.outcome = none) (e : Failure) :
    FailureOf m (m.finishWrite w (.error e)) s.ticket e := by
  obtain ⟨hwrites, hcases⟩ := h.finishWrite_error hw e
  have hattempts := hc.unfailed ho (unfailed_of_started hw)
  have hretry := h.canRetry_of_started hw ht ho
  have hopen : (m.finishWrite w (.error e)).isOpen = true :=
    isOpen_eq_true.2 ((shutdown_act (a := .finishWrite w (.error e)) trivial).trans hd)
  have hself {f : Ticket P → Ticket P} (hf : (m.finishWrite w (.error e)).desk.tickets =
      m.desk.tickets.modify s.ticket f) :
      (m.finishWrite w (.error e)).outcome? s.ticket = (f t).outcome := by
    refine (h.act (.finishWrite w (.error e))).outcome?_eq hopen ?_
    exact hf ▸ Desk.getElem?_modify_of_some ht
  split at hcases
  · next hr =>
    have hlt := hretry.1 hr
    split at hcases
    · next hq =>
      obtain ⟨hqueue, htickets⟩ := hcases
      refine .putBack (by omega) ?_ ?_
      · exact Bool.and_eq_true_iff.2 ⟨decide_eq_true (List.getElem?_eq_some_iff.1 ht).1,
          decide_eq_true hqueue⟩
      · exact (hself htickets).trans (t.outcome_putBack.trans ho)
    · next hq =>
      rw [h.queueOpen hd, Bool.true_and, Bool.not_eq_true] at hq
      refine .turnedAway (by omega) ?_ ((hself hcases).trans ?_)
      · have hpass :
            passes .started (.finished false) s.ticket m (m.finishWrite w (.error e)) = true :=
          (passes_of_setWrite (by simp) hw hwrites).trans (decide_eq_true ⟨rfl, rfl, rfl⟩)
        rw [isTurnedAway, hpass, hr, hq]
        rfl
      · rw [Ticket.complete_of_none _ _ (t.outcome_putBack.trans ho)]
  · next hr =>
    have hmax := hc.bounded
    have hnot : ¬ t.retries < m.config.maxWriteRetries := fun hlt ↦ hr (hretry.2 hlt)
    refine .last (by omega) ((hself hcases).trans ?_)
    rw [t.complete_of_none _ ho]

theorem isSettled_eq_true : m.desk.isSettled n = true ↔
    ∃ t, m.desk.tickets[n]? = some t ∧ t.outcome ≠ none := by
  unfold Desk.isSettled
  split
  · next t ht => simp [ht, Option.isSome_iff_ne_none]
  · next ht => simp [ht]

theorem Sound.isSettled_iff (h : Sound m) (ho : m.isOpen = true) :
    m.desk.isSettled n = true ↔ m.outcome? n ≠ none := by
  rw [isSettled_eq_true]
  cases ht : m.desk.tickets[n]? with
  | none => simp [outcome?, Desk.outcome?, ht]
  | some t =>
    rw [h.outcome?_eq ho ht]
    simp

theorem Sound.isSettled_run (h : Sound m) (hs : m.desk.isSettled n = true) (as : List (Act P)) :
    (m.run as).desk.isSettled n = true := by
  obtain ⟨t, ht, ho⟩ := isSettled_eq_true.1 hs
  obtain ⟨t', ht', hl⟩ := h.leads_run as ht
  obtain ⟨o, ho⟩ := Option.ne_none_iff_exists'.1 ho
  exact isSettled_eq_true.2 ⟨t', ht', by simp [hl.2 o ho]⟩

theorem Step.writes_of_settled (hs : Step m m') (h : Sound m) (hn : m.desk.isSettled n = true) :
    m'.attempts n = m.attempts n ∧ ∀ (w : Nat) (y : Write), m'.writes[w]? = some y → y.ticket = n →
      ∃ x, m.writes[w]? = some x ∧ x.ticket = n := by
  have hset (v : Nat) (ws : WriteState) : (m.setWrite v ws).attempts n = m.attempts n ∧
      ∀ (w : Nat) (y : Write), (m.setWrite v ws).writes[w]? = some y → y.ticket = n →
        ∃ x, m.writes[w]? = some x ∧ x.ticket = n := by
    refine ⟨congrFun (attempts_setWrite m v ws) n, fun w y hy hyn ↦ ?_⟩
    obtain ⟨x, hx, hxs, -⟩ := of_getElem?_setWrite hy
    exact ⟨x, hx, (Write.ticket_congr hxs).symm.trans hyn⟩
  cases hs with
  | take k rest t id _ _ hq =>
    have hk : k ≠ n := by
      rintro rfl
      obtain ⟨u, hu, ho, -⟩ := h.outcome_of_queued (n := k) (hq ▸ .head _)
      obtain ⟨u', hu', ho'⟩ := isSettled_eq_true.1 hn
      rw [Option.some.inj (hu.symm.trans hu')] at ho
      exact ho' ho
    refine ⟨(attempts_concat rfl).trans (congrArg _ (if_neg hk)), fun w y hy hyn ↦ ?_⟩
    rcases getElem?_concat hy with hy | ⟨-, rfl⟩
    · exact ⟨y, hy, hyn⟩
    · exact absurd hyn hk
  | start v => exact hset v _
  | sent v => exact hset v _
  | putBack v => exact hset v _
  | fail v => exact hset v _
  | abort v => exact hset v _
  | _ => exact ⟨rfl, fun w y hy hyn ↦ ⟨y, hy, hyn⟩⟩

theorem Sound.writes_of_settled (h : Sound m) (hn : m.desk.isSettled n = true) (as : List (Act P)) :
    (m.run as).attempts n = m.attempts n ∧ ∀ (w : Nat) (y : Write), (m.run as).writes[w]? = some y →
      y.ticket = n → ∃ x, m.writes[w]? = some x ∧ x.ticket = n := by
  induction as using List.reverseRecOn with
  | nil => exact ⟨rfl, fun w y hy hyn ↦ ⟨y, hy, hyn⟩⟩
  | append_singleton as a ih =>
    have hm := h.run as
    obtain ⟨hattempts, hwrites⟩ : ((m.run as).act a).attempts n = (m.run as).attempts n ∧ _ :=
      (act_step hm.filed a).writes_of_settled { hm with } (h.isSettled_run hn as)
    rw [run_concat]
    refine ⟨hattempts.trans ih.1, fun w y hy hyn ↦ ?_⟩
    obtain ⟨x, hx, hxn⟩ := hwrites w y hy hyn
    exact ih.2 w x hx hxn

theorem exists_settling (as : List (Act P)) (hn : m.desk.isSettled n = false)
    (hs : (m.run as).desk.isSettled n = true) : ∃ before a after, as = before ++ a :: after ∧
      (m.run before).desk.isSettled n = false ∧ ((m.run before).act a).desk.isSettled n = true := by
  induction as using List.reverseRecOn with
  | nil => exact absurd (hn.symm.trans hs) (by decide)
  | append_singleton as a ih =>
    cases hm : (m.run as).desk.isSettled n with
    | false => exact ⟨as, a, [], rfl, hm, run_concat m as a ▸ hs⟩
    | true =>
      obtain ⟨before, b, after, rfl, hb, hs'⟩ := ih hm
      exact ⟨before, b, after ++ [a], by simp, hb, hs'⟩

/-- Only a write of its own that fails settles a request by failing. -/
theorem Sound.started_of_settles (h : Sound m) (hn : m.desk.isSettled n = false)
    (hs : (m.finishWrite w (.error e)).desk.isSettled n = true) :
    ∃ s, m.writes[w]? = some ⟨s, .started⟩ ∧ s.ticket = n := by
  by_contra hno
  have hsame (ht : (m.finishWrite w (.error e)).desk.tickets[n]? = m.desk.tickets[n]?) : False := by
    rw [Desk.isSettled, ht] at hs
    exact absurd (hn.symm.trans hs) (by decide)
  by_cases hw : ∃ s, m.writes[w]? = some ⟨s, .started⟩
  · obtain ⟨s, hw⟩ := hw
    have hne : n ≠ s.ticket := fun he ↦ hno ⟨s, hw, he.symm⟩
    have hcases := (h.finishWrite_error hw e).2
    split at hcases
    · split at hcases
      · exact hsame (hcases.2 ▸ Desk.getElem?_modify_of_ne hne)
      · exact hsame (hcases ▸ Desk.getElem?_modify_of_ne hne)
    · exact hsame (hcases ▸ Desk.getElem?_modify_of_ne hne)
  · rw [finishWrite_of_not_started (not_exists.1 hw)] at hsame
    exact hsame rfl

theorem Sound.newest_of_settles (h : Sound m) (hw : m.writes[w]? = some ⟨s, .started⟩)
    (hs : (m.finishWrite w (.error e)).desk.isSettled s.ticket = true) (as : List (Act P)) :
    ((m.finishWrite w (.error e)).run as).attempts s.ticket = m.attempts s.ticket ∧
      ∀ (w' : Nat) (x : Write), ((m.finishWrite w (.error e)).run as).writes[w']? = some x →
        x.ticket = s.ticket → w' ≤ w := by
  have hwrites := (h.finishWrite_error hw e).1
  have hafter := (h.act (.finishWrite w (.error e))).writes_of_settled hs as
  constructor
  · calc ((m.finishWrite w (.error e)).run as).attempts s.ticket
        = (m.finishWrite w (.error e)).attempts s.ticket := hafter.1
      _ = (m.setWrite w (.finished false)).attempts s.ticket := by rw [attempts, attempts, hwrites]
      _ = m.attempts s.ticket := congrFun (attempts_setWrite m w _) _
  · intro w' x hx hxn
    obtain ⟨y, hy, hyn⟩ := hafter.2 w' x hx hxn
    have hy' : (m.setWrite w (.finished false)).writes[w']? = some y := hwrites ▸ hy
    obtain ⟨z, hz, hzs, -⟩ := of_getElem?_setWrite hy'
    have hzn : s.ticket = z.ticket := hyn.symm.trans (Write.ticket_congr hzs)
    by_contra hlt
    have hstate := h.superseded hw hz (not_le.1 hlt) hzn
    cases hstate

/-- How the attempts at a request go in a run. -/
structure Retried (start : Courier P) (as : List (Act P)) (n : Nat) : Prop where
  handedOver : tally (isHandedOver n) start as ≤ 1 + start.config.maxWriteRetries
  retries : ∀ t, (start.run as).desk.tickets[n]? = some t →
    t.retries = tally (isPutBack n) start as + tally (isTurnedAway n) start as
  turnedAway : tally (isTurnedAway n) start as ≤ 1
  /-- A new attempt has a session newer than all before it, whose sessions and timers have gone. -/
  fresh : ∀ a y, ((start.run as).act a).writes = (start.run as).writes ++ [y] → y.ticket = n →
    y.session ∈ ((start.run as).act a).desk.registry.entries ∧
      ∀ x ∈ (start.run as).writes, x.ticket = n → x.session.index < y.session.index ∧
        x.session ∉ ((start.run as).act a).desk.registry.entries ∧
        ∀ τ ∈ ((start.run as).act a).desk.timers, τ.index ≠ x.session.index
  failing : ∀ w s e, (start.run as).writes[w]? = some ⟨s, .started⟩ → s.ticket = n →
    (start.run as).outcome? n = none →
    FailureOf (start.run as) ((start.run as).act (.finishWrite w (.error e))) n e
  /-- If all attempts fail and nothing else settles the request, the last failure does. -/
  last : (∃ x ∈ (start.run as).writes, x.ticket = n) → ¬ (start.run as).Unfailed n →
    n ∉ (start.run as).queue →
    (∀ before a after, as = before ++ a :: after → (start.run before).outcome? n = none →
      ((start.run before).act a).outcome? n ≠ none → ∃ w e, a = .finishWrite w (.error e)) →
    ∃ before w s e after, as = before ++ .finishWrite w (.error e) :: after ∧
      (start.run before).writes[w]? = some ⟨s, .started⟩ ∧ s.ticket = n ∧
      (∀ w' x, (start.run as).writes[w']? = some x → x.ticket = n → w' ≤ w) ∧
      (start.run as).outcome? n = some (.error e) ∧
      (tally (isHandedOver n) start as = 1 + start.config.maxWriteRetries ∨
        isTurnedAway n (start.run before) ((start.run before).act (.finishWrite w (.error e))) = true)
  settled : (start.run as).outcome? n ≠ none → ∀ after,
    n ∉ ((start.run as).run after).queue ∧ tally (isPutBack n) (start.run as) after = 0

namespace Sound

theorem outcome?_run (h : Sound m) {o : Outcome P} (as : List (Act P)) (ho : (m.run as).isOpen = true)
    (hm : m.outcome? n = some o) : (m.run as).outcome? n = some o := by
  have hd : (m.run []).shutdown = false := h.isOpen_left ho
  cases ht : m.desk.tickets[n]? with
  | none => simp [outcome?, Desk.outcome?, ht] at hm
  | some t =>
    obtain ⟨t', ht', hl⟩ := h.leads_run as ht
    rw [(h.run as).outcome?_eq ho ht']
    exact hl.2 o ((h.outcome?_eq (isOpen_eq_true.2 hd) ht).symm.trans hm)

theorem fresh (h : Sound m') (hy : m'.writes = m.writes ++ [y]) (hf : y.state ≠ .finished false)
    (hx : x ∈ m.writes) (hn : x.ticket = y.ticket) : x.session.index < y.session.index ∧
      x.session ∉ m'.desk.registry.entries ∧ ∀ τ ∈ m'.desk.timers, τ.index ≠ x.session.index := by
  obtain ⟨w, hw⟩ := List.mem_iff_getElem?.1 hx
  have hlt := (List.getElem?_eq_some_iff.1 hw).1
  have hold : m'.writes[w]? = some x := by rw [hy, List.getElem?_append_left hlt, hw]
  have hnew : m'.writes[m.writes.length]? = some y := by rw [hy, List.getElem?_concat_length]
  have hindex : x.session.index < y.session.index := by
    have hi := h.numbered hold
    have hi' := h.numbered hnew
    omega
  have hgone : x.session ∉ m'.desk.registry.entries := by
    intro hs
    have he := h.entry_eq_of_ticket hnew hf hs hn
    rw [he] at hindex
    exact absurd hindex (lt_irrefl _)
  refine ⟨hindex, hgone, fun τ hτ hi ↦ ?_⟩
  obtain ⟨s', hs', rfl⟩ := List.mem_map.1 (h.timed.mem_iff.1 hτ)
  rw [h.entry_eq_of_index hold hs' hi] at hs'
  exact hgone hs'

theorem fresh_act (h : Sound m) (a : Act P) (hy : (m.act a).writes = m.writes ++ [y])
    (hn : y.ticket = n) : y.session ∈ (m.act a).desk.registry.entries ∧
      ∀ x ∈ m.writes, x.ticket = n → x.session.index < y.session.index ∧
        x.session ∉ (m.act a).desk.registry.entries ∧
        ∀ τ ∈ (m.act a).desk.timers, τ.index ≠ x.session.index := by
  have hlength : (m.act a).writes.length = m.writes.length + 1 := by
    rw [hy, List.length_append, List.length_singleton]
  obtain ⟨-, -, s, hs, hmem⟩ : _ ∧ _ ∧ ∃ s, TakesUp m (m.act a) s :=
    (act_step h.filed a).takesUp hlength
  obtain rfl : y = ⟨s, .spawned⟩ := List.singleton_inj.1 (List.append_cancel_left (hy.symm.trans hs))
  exact ⟨hmem, fun x hx hxn ↦ (h.act a).fresh hy (by simp) hx (hxn.trans hn.symm)⟩

theorem tally_putBack_of_settled (h : Sound m) (hs : m.desk.isSettled n = true) (as : List (Act P)) :
    n ∉ (m.run as).queue ∧ tally (isPutBack n) m as = 0 := by
  have habsent (as : List (Act P)) : n ∉ (m.run as).queue := by
    obtain ⟨t, ht, ho⟩ := isSettled_eq_true.1 (h.isSettled_run hs as)
    exact ((h.run as).released_of_settled ht ho).absent
  refine ⟨habsent as, ?_⟩
  induction as using List.reverseRecOn with
  | nil => rfl
  | append_singleton as a ih =>
    rw [tally_concat, ih, Nat.zero_add, Bool.toNat_eq_zero, Bool.eq_false_iff]
    intro hp
    have hq : ((m.run as).act a).queue = (m.run as).queue ++ [n] :=
      of_decide_eq_true (Bool.and_eq_true_iff.1 hp).2
    have hout := habsent (as ++ [a])
    rw [run_concat, hq] at hout
    exact hout (List.mem_append_right _ (.head _))

theorem outcome?_of_failed (h : Sound m) (ho : m.isOpen = true) (hx : ∃ x ∈ m.writes, x.ticket = n)
    (hf : ¬ m.Unfailed n) (hq : n ∉ m.queue) : m.outcome? n ≠ none := by
  obtain ⟨x, hx, rfl⟩ := hx
  obtain ⟨w, hw⟩ := List.mem_iff_getElem?.1 hx
  obtain ⟨t, ht, -⟩ := h.named hw
  intro hn
  rw [h.outcome?_eq ho ht] at hn
  rcases h.placed (isOpen_eq_true.1 ho) ht hn with hq' | ⟨s, hs, hsn⟩
  · exact hq hq'
  · obtain ⟨k, y, hy, rfl, hlive⟩ := h.known hs
    exact hf ⟨y, List.mem_of_getElem? hy, hsn, hlive⟩

end Sound

theorem attempts_le_max (config : Config) (as : List (Act P)) :
    ((make config : Courier P).run as).attempts n ≤ 1 + config.maxWriteRetries := by
  have hm : Sound ((make config : Courier P).run as) := (Sound.make config).run as
  cases ht : ((make config : Courier P).run as).desk.tickets[n]? with
  | none =>
    rw [hm.attempts_eq_zero (List.getElem?_eq_none_iff.1 ht)]
    exact Nat.zero_le _
  | some t =>
    have hc := counted_run config as ht
    have hmax := hc.bounded
    have hle := hc.attempts_le
    rw [config_run _ as (Sound.make config)] at hmax
    have hconfig : (make config : Courier P).config = config := rfl
    rw [hconfig] at hmax
    omega

section

variable (config : Config) (as : List (Act P))
  (hopen : ((make config : Courier P).run as).isOpen = true)
include hopen

theorem handedOver_make : tally (isHandedOver n) (make config) as +
    ((make config : Courier P).run as).spawnedOf n = ((make config : Courier P).run as).attempts n := by
  have hall := (Sound.make config).handedOver_run (n := n) as hopen
  have hnone : (make config : Courier P).attempts n = 0 := rfl
  have hnone' : (make config : Courier P).spawnedOf n = 0 := rfl
  omega

theorem handedOver_of_failed (hf : ¬ ((make config : Courier P).run as).Unfailed n) :
    tally (isHandedOver n) (make config) as = ((make config : Courier P).run as).attempts n := by
  have hall := handedOver_make config as hopen (n := n)
  have hnone : ((make config : Courier P).run as).spawnedOf n = 0 := by
    refine List.countP_eq_zero.2 fun x hx hxs ↦ hf ⟨x, hx, ?_⟩
    rw [Bool.and_eq_true, decide_eq_true_eq, decide_eq_true_eq] at hxs
    refine ⟨hxs.1, ?_⟩
    rw [hxs.2]
    simp
  omega

theorem failureOf_make {e : Failure}
    (hw : ((make config : Courier P).run as).writes[w]? = some ⟨s, .started⟩)
    (hn : ((make config : Courier P).run as).outcome? s.ticket = none) :
    FailureOf ((make config : Courier P).run as)
      (((make config).run as).act (.finishWrite w (.error e))) s.ticket e := by
  have hm : Sound ((make config : Courier P).run as) := (Sound.make config).run as
  obtain ⟨t, ht, -⟩ := hm.named hw
  rw [hm.outcome?_eq hopen (n := s.ticket) ht] at hn
  exact hm.failureOf (counted_run config as ht) (isOpen_eq_true.1 hopen) hw ht hn e

theorem last_of_failed (hx : ∃ x ∈ ((make config : Courier P).run as).writes, x.ticket = n)
    (hf : ¬ ((make config : Courier P).run as).Unfailed n)
    (hq : n ∉ ((make config : Courier P).run as).queue)
    (hcause : ∀ before a after, as = before ++ a :: after →
      ((make config : Courier P).run before).outcome? n = none →
      (((make config).run before).act a).outcome? n ≠ none → ∃ w e, a = .finishWrite w (.error e)) :
    ∃ before w s e after, as = before ++ .finishWrite w (.error e) :: after ∧
      ((make config : Courier P).run before).writes[w]? = some ⟨s, .started⟩ ∧ s.ticket = n ∧
      (∀ w' x, ((make config : Courier P).run as).writes[w']? = some x → x.ticket = n → w' ≤ w) ∧
      ((make config : Courier P).run as).outcome? n = some (.error e) ∧
      (tally (isHandedOver n) (make config) as = 1 + config.maxWriteRetries ∨
        isTurnedAway n ((make config).run before)
          (((make config).run before).act (.finishWrite w (.error e))) = true) := by
  have hm : Sound ((make config : Courier P).run as) := (Sound.make config).run as
  -- With no attempt left and none waiting, the request is settled, so some step settled it.
  have hsettled := (hm.isSettled_iff hopen).2 (hm.outcome?_of_failed hopen hx hf hq)
  have hgiven := handedOver_of_failed config as hopen hf
  obtain ⟨before, a, after, rfl, hb, hs⟩ := exists_settling as rfl hsettled
  have hk : Sound ((make config : Courier P).run before) := (Sound.make config).run before
  have hkopen : ((make config : Courier P).run before).isOpen = true :=
    isOpen_eq_true.2 ((Sound.make config).isOpen_left hopen)
  have hjopen : (((make config : Courier P).run before).act a).isOpen = true := by
    have hsplit : ((make config : Courier P).run (before ++ [a] ++ after)).isOpen = true := by
      rwa [List.append_assoc]
    rw [← run_concat]
    exact isOpen_eq_true.2 ((Sound.make config).isOpen_left hsplit)
  have hb' : ((make config : Courier P).run before).outcome? n = none := by
    by_contra hne
    exact absurd ((hk.isSettled_iff hkopen).2 hne) (by simp [hb])
  have hs' := ((hk.act a).isSettled_iff hjopen).1 hs
  obtain ⟨w, e, rfl⟩ := hcause before a after rfl hb' hs'
  obtain ⟨s, hw, rfl⟩ := hk.started_of_settles hb hs
  obtain ⟨hattempts, hnewest⟩ := hk.newest_of_settles hw hs after
  have hrun : (make config : Courier P).run (before ++ .finishWrite w (.error e) :: after) =
      (((make config).run before).act (.finishWrite w (.error e))).run after := run_append _ _ _
  rw [hrun] at hopen hgiven ⊢
  refine ⟨before, w, s, e, after, rfl, hw, rfl, hnewest, ?_⟩
  have hconfig : ((make config : Courier P).run before).config = config :=
    config_run _ before (Sound.make config)
  cases failureOf_make config before hkopen hw hb' with
  | putBack _ _ ho => exact absurd ho hs'
  | last ha ho =>
    refine ⟨(hk.act _).outcome?_run after hopen ho, .inl ?_⟩
    exact (hgiven.trans hattempts).trans (ha.trans (by rw [hconfig]))
  | turnedAway _ hq ho => exact ⟨(hk.act _).outcome?_run after hopen ho, .inr hq⟩

end

/-- As long as a courier is open, the transport is given a request at most once more than the
configuration has retries. Each attempt runs under a session of its own, after those before it have
gone. A request that only its failing writes settle is settled by the last of them. -/
theorem retries_bounded_and_fresh (config : Config) (as : List (Act P)) (n : Nat)
    (hopen : ((make config : Courier P).run as).isOpen = true) : Retried (make config) as n where
  handedOver := by
    have hall := handedOver_make config as hopen (n := n)
    have hmax := attempts_le_max config as (P := P) (n := n)
    exact (Nat.le_add_right _ _).trans (hall.le.trans hmax)
  retries t ht := by
    have hcounts := (Sound.make config).retriesOf_run (n := n) as hopen
    have hnone : (make config : Courier P).retriesOf n = 0 := rfl
    rw [retriesOf_of_some ht, hnone, Nat.zero_add] at hcounts
    exact hcounts
  turnedAway := by
    rcases (Sound.make config).turnedAway_once (n := n) as with h | ⟨h, -⟩
    · exact h.le.trans (Nat.zero_le _)
    · exact h.le
  fresh a y := ((Sound.make config).run as).fresh_act a
  failing w s e hw := by
    rintro rfl hn
    exact failureOf_make config as hopen hw hn
  last := last_of_failed config as hopen
  settled hs after := by
    have hm : Sound ((make config : Courier P).run as) := (Sound.make config).run as
    exact hm.tally_putBack_of_settled ((hm.isSettled_iff hopen).2 hs) after

def twoFailures : List (Act Plain.protocol) :=
  [.send ping true, .work, .startWrite 0, .finishWrite 0 (.error .noRuntime),
    .work, .startWrite 1, .finishWrite 1 (.error .closed)]

theorem second_failure_settles :
    let start : Courier Plain.protocol := make { maxWriteRetries := 1 }
    let m := start.run twoFailures
    m.isOpen = true ∧ Retried start twoFailures 0 ∧ tally (isHandedOver 0) start twoFailures = 2 ∧
      m.writes.map Write.state = [.finished false, .finished false] ∧ m.queue = [] ∧
      (m.outcome? 0 matches some (.error .closed)) := by
  have hopen : ((make { maxWriteRetries := 1 } : Courier Plain.protocol).run twoFailures).isOpen =
      true := by decide +kernel
  exact ⟨hopen, retries_bounded_and_fresh _ twoFailures 0 hopen, by decide +kernel, by decide +kernel,
    by decide +kernel, by decide +kernel⟩

/-- A request that finds the queue full was not put back, and counts as retried. -/
theorem retry_without_putting_back :
    let start : Courier Plain.protocol :=
      make { mode := .synchronous, queueCapacity := 1, maxWriteRetries := 1 }
    let as : List (Act Plain.protocol) :=
      [.send ping true, .work, .startWrite 0, .send ping true, .finishWrite 0 (.error .closed)]
    (start.run as).isOpen = true ∧ tally (isPutBack 0) start as = 0 ∧
      (start.run as).desk.tickets[0]?.map Ticket.retries = some 1 := by
  decide +kernel

end GameServers.Courier
