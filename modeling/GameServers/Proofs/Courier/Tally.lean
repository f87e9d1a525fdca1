import GameServers.Proofs.Courier.Attempts

namespace GameServers.Courier

variable {P : Protocol} {m m' : Courier P} {w n : Nat} {x y : Write} {s : Session} {t : Ticket P}
  {ws : WriteState}

def tally (f : Courier P → Courier P → Bool) (m : Courier P) : List (Act P) → Nat
  | [] => 0
  | a :: as => (f m (m.act a)).toNat + tally f (m.act a) as

theorem tally_concat (f : Courier P → Courier P → Bool) (m : Courier P) (as : List (Act P))
    (a : Act P) :
    tally f m (as ++ [a]) = tally f m as + (f (m.run as) ((m.run as).act a)).toNat := by
  induction as generalizing m with
  | nil => exact Nat.add_comm _ _
  | cons b as ih =>
    rw [List.cons_append, tally, ih, tally, Nat.add_assoc]
    rfl

def passes (a b : WriteState) (n : Nat) (m m' : Courier P) : Bool :=
  (m.writes.zip m'.writes).any fun x ↦ x.1.ticket = n && x.1.state = a && x.2.state = b

def isHandedOver (n : Nat) (m m' : Courier P) : Bool := passes .spawned .started n m m'

/-- The request, which is not new, goes to the end of the queue. -/
def isPutBack (n : Nat) (m m' : Courier P) : Bool :=
  n < m.desk.tickets.length && m'.queue = m.queue ++ [n]

def isTurnedAway (n : Nat) (m m' : Courier P) : Bool :=
  passes .started (.finished false) n m m' && m.canRetry n && !m.queueHasRoom

section

variable {a b : WriteState}

theorem passes_eq_true : passes a b n m m' = true ↔ ∃ (w : Nat) (x y : Write),
    m.writes[w]? = some x ∧ m'.writes[w]? = some y ∧ x.ticket = n ∧ x.state = a ∧ y.state = b := by
  simp only [passes, List.any_eq_true, List.mem_iff_getElem?, List.getElem?_zip_eq_some, Prod.exists,
    Bool.and_eq_true, decide_eq_true_eq]
  constructor
  · rintro ⟨x, y, ⟨w, hx, hy⟩, ⟨hn, ha⟩, hb⟩
    exact ⟨w, x, y, hx, hy, hn, ha, hb⟩
  · rintro ⟨w, x, y, hx, hy, hn, ha, hb⟩
    exact ⟨x, y, ⟨w, hx, hy⟩, ⟨hn, ha⟩, hb⟩

theorem passes_of_kept (hab : a ≠ b) (hw : m'.writes = m.writes ∨ ∃ x, m'.writes = m.writes ++ [x]) :
    passes a b n m m' = false := by
  rw [Bool.eq_false_iff, Ne, passes_eq_true]
  rintro ⟨w, x, y, hx, hy, -, rfl, rfl⟩
  have hkept : m'.writes[w]? = some x := by
    rcases hw with hw | ⟨z, hw⟩
    · rw [hw, hx]
    · rw [hw, List.getElem?_append_left (List.getElem?_eq_some_iff.1 hx).1, hx]
  exact hab (congrArg Write.state (Option.some.inj (hkept.symm.trans hy)))

theorem passes_of_setWrite (hab : a ≠ b) (hx : m.writes[w]? = some x)
    (hw : m'.writes = (m.setWrite w ws).writes) :
    passes a b n m m' = decide (x.ticket = n ∧ x.state = a ∧ ws = b) := by
  rw [Bool.eq_iff_iff, passes_eq_true, decide_eq_true_eq]
  constructor
  · rintro ⟨k, y, z, hy, hz, hn, ha, hb⟩
    obtain ⟨y', hy', -, ⟨rfl, hst⟩ | ⟨-, hst⟩⟩ := of_getElem?_setWrite (hw ▸ hz)
    · obtain rfl := Option.some.inj (hy.symm.trans hx)
      exact ⟨hn, ha, hst.symm.trans hb⟩
    · obtain rfl := Option.some.inj (hy.symm.trans hy')
      exact absurd (ha.symm.trans (hst.symm.trans hb)) hab
  · rintro ⟨hn, ha, hb⟩
    obtain ⟨y, hy, -, ⟨-, hst⟩ | ⟨hne, -⟩⟩ := getElem?_setWrite_of_some w ws hx
    · exact ⟨w, x, y, hx, hw ▸ hy, hn, ha, hst.trans hb⟩
    · exact absurd rfl hne

theorem isPutBack_of_le (hq : m'.queue.length ≤ m.queue.length) : isPutBack n m m' = false := by
  rw [Bool.eq_false_iff]
  intro h
  have he : m'.queue = m.queue ++ [n] := of_decide_eq_true (Bool.and_eq_true_iff.1 h).2
  rw [he, List.length_append, List.length_singleton] at hq
  omega

end

def retriesOf (m : Courier P) (n : Nat) : Nat :=
  match m.desk.tickets[n]? with
  | some t => t.retries
  | none => 0

theorem retriesOf_of_some (ht : m.desk.tickets[n]? = some t) : m.retriesOf n = t.retries := by
  simp only [retriesOf, ht]

theorem retriesOf_modify {f : Ticket P → Ticket P} {k : Nat}
    (ht : m'.desk.tickets = m.desk.tickets.modify k f) (hf : n = k → ∀ t, (f t).retries = t.retries) :
    m'.retriesOf n = m.retriesOf n := by
  simp only [retriesOf, ht, List.getElem?_modify]
  cases m.desk.tickets[n]? with
  | none => rfl
  | some t =>
    by_cases hk : k = n
    · simp [hk, hf hk.symm t]
    · simp [hk]

/-- The retries of a request are the times it was put back, and the times it found the queue full. -/
def CountsRetries (n : Nat) (m m' : Courier P) : Prop :=
  m'.retriesOf n = m.retriesOf n + (isPutBack n m m').toNat + (isTurnedAway n m m').toNat

theorem countsRetries_of_quiet (hr : m'.retriesOf n = m.retriesOf n) (hp : isPutBack n m m' = false)
    (ht : passes .started (.finished false) n m m' = false) : CountsRetries n m m' := by
  simp [CountsRetries, hr, hp, isTurnedAway, ht]

theorem countsRetries_of_failed {f : Ticket P → Ticket P} (hw : m.writes[w]? = some ⟨s, .started⟩)
    (hw' : m'.writes = (m.setWrite w (.finished false)).writes)
    (ht : m'.desk.tickets = m.desk.tickets.modify s.ticket f) {u : Ticket P}
    (hu : m.desk.tickets[s.ticket]? = some u)
    (hr : (f u).retries = u.retries + (m.canRetry s.ticket).toNat)
    (hq : m'.queue =
      if m.canRetry s.ticket && m.queueHasRoom then m.queue ++ [s.ticket] else m.queue) :
    CountsRetries n m m' := by
  have hpass := passes_of_setWrite (n := n) (a := .started) (b := .finished false) (by simp) hw hw'
  by_cases hn : n = s.ticket
  · subst hn
    have hlt := (List.getElem?_eq_some_iff.1 hu).1
    have hnew : m'.retriesOf s.ticket = (f u).retries := by
      apply retriesOf_of_some
      rw [ht]
      exact Desk.getElem?_modify_of_some hu
    have hpassed : passes .started (.finished false) s.ticket m m' = true :=
      hpass.trans (decide_eq_true ⟨rfl, rfl, rfl⟩)
    rw [CountsRetries, hnew, hr, retriesOf_of_some hu, isTurnedAway, hpassed, isPutBack, hq]
    cases m.canRetry s.ticket <;> cases m.queueHasRoom <;> simp [hlt]
  · apply countsRetries_of_quiet
    · exact retriesOf_modify ht fun h ↦ absurd h hn
    · rw [Bool.eq_false_iff]
      intro h
      have he : m'.queue = m.queue ++ [n] := of_decide_eq_true (Bool.and_eq_true_iff.1 h).2
      rw [hq] at he
      split at he
      · exact hn (List.append_cancel_left he |> List.singleton_inj.1).symm
      · simpa using congrArg List.length he
    · rw [hpass]
      simp [Write.ticket, Ne.symm hn]

theorem Step.countsRetries (hs : Step m m') (h : Sound m) (hd : m.shutdown = false) (n : Nat) :
    CountsRetries n m m' := by
  have hopen : m.queueOpen = true := by
    rw [queueOpen, decide_eq_true_eq]
    intro hw
    rw [h.told (.inr (.inl hw))] at hd
    cases hd
  have hquiet {m' : Courier P} (ht : m'.retriesOf n = m.retriesOf n)
      (hq : m'.queue.length ≤ m.queue.length)
      (hw : m'.writes = m.writes ∨ ∃ x, m'.writes = m.writes ++ [x]) : CountsRetries n m m' :=
    countsRetries_of_quiet ht (isPutBack_of_le hq) (passes_of_kept (by simp) hw)
  have hlength {k : Nat} {rest : List Nat} (hq : m.queue = k :: rest) :
      rest.length ≤ m.queue.length := by
    rw [hq]
    exact Nat.le_succ _
  cases hs with
  | enqueue r =>
    apply countsRetries_of_quiet
    · simp only [retriesOf, Desk.issue]
      by_cases hn : n < m.desk.tickets.length
      · rw [List.getElem?_append_left hn]
      · rw [List.getElem?_append_right (by omega),
          List.getElem?_eq_none (l := m.desk.tickets) (by omega)]
        cases n - m.desk.tickets.length <;> rfl
    · rw [Bool.eq_false_iff]
      intro hp
      obtain ⟨hn, he⟩ := Bool.and_eq_true_iff.1 hp
      have he := List.singleton_inj.1 (List.append_cancel_left (of_decide_eq_true he))
      rw [decide_eq_true_eq] at hn
      omega
    · exact passes_of_kept (by simp) (.inl rfl)
  | settle s o => exact hquiet (retriesOf_modify rfl fun _ t ↦ retries_complete t o) le_rfl (.inl rfl)
  | take k rest t id _ _ hq =>
    exact hquiet (retriesOf_modify rfl fun _ t ↦ retries_takeUp t) (hlength hq) (.inr ⟨_, rfl⟩)
  | refuse k rest e _ _ hq =>
    refine hquiet (retriesOf_modify rfl fun _ t ↦ ?_) (hlength hq) (.inl rfl)
    rw [retries_complete, retries_advance]
  | skip k rest _ _ hq => exact hquiet rfl (hlength hq) (.inl rfl)
  -- As long as nobody has told the worker to stop, it neither stops nor is given up.
  | stop hd' | abort _ _ hd' =>
    rw [hd] at hd'
    cases hd'
  | leave k hw =>
    rw [h.told (.inr (.inr ⟨k, hw⟩))] at hd
    cases hd
  | start w s hw =>
    refine countsRetries_of_quiet rfl (isPutBack_of_le le_rfl) ?_
    exact (passes_of_setWrite (by simp) hw rfl).trans (by simp)
  | sent w s hw =>
    refine countsRetries_of_quiet (retriesOf_modify rfl fun _ t ↦ retries_advance t _)
      (isPutBack_of_le le_rfl) ?_
    exact (passes_of_setWrite (by simp) hw rfl).trans (by simp)
  | putBack w s hw hr _ hroom =>
    obtain ⟨u, hu, -⟩ := h.named hw
    refine countsRetries_of_failed hw rfl rfl hu ?_ ?_
    · rw [hr]
      exact retries_putBack u
    · rw [hr, hroom]
      rfl
  | fail w s e f hw hf =>
    obtain ⟨u, hu, -⟩ := h.named hw
    refine countsRetries_of_failed hw rfl rfl hu ?_ ?_
    · rcases hf with ⟨rfl, hr⟩ | ⟨rfl, hr, -⟩
      · rw [hr]
        exact retries_complete u _
      · rw [hr, retries_complete]
        exact retries_putBack u
    · rcases hf with ⟨-, hr⟩ | ⟨-, hr, hq⟩
      · rw [hr]
        rfl
      · rw [hopen, Bool.true_and] at hq
        rw [hr, hq]
        rfl
  | beginClose =>
    refine hquiet rfl ?_ (.inl rfl)
    split
    · exact Nat.zero_le _
    · exact le_rfl
  | _ => exact hquiet rfl le_rfl (.inl rfl)

namespace Sound

theorem isOpen_left (h : Sound m) {as bs : List (Act P)} (ho : (m.run (as ++ bs)).isOpen = true) :
    (m.run as).shutdown = false := by
  rw [isOpen_eq_true, run_append] at ho
  by_contra hd
  have htold := (h.run as).kept (I := (·.shutdown = true)) (fun _ ↦ .rfl) (fun _ hs hd ↦ hs.told hd)
    (by simpa using hd) bs
  rw [ho] at htold
  cases htold

theorem countsRetries_act (h : Sound m) (hd : m.shutdown = false) (a : Act P) (n : Nat) :
    CountsRetries n m (m.act a) :=
  (act_step h.filed a).countsRetries { h with } hd n

theorem retriesOf_run (h : Sound m) (as : List (Act P)) (ho : (m.run as).isOpen = true) :
    (m.run as).retriesOf n =
      m.retriesOf n + tally (isPutBack n) m as + tally (isTurnedAway n) m as := by
  induction as using List.reverseRecOn with
  | nil => rfl
  | append_singleton as a ih =>
    have hd := h.isOpen_left ho
    have hcounts : _ = _ := (h.run as).countsRetries_act hd a n
    rw [run_concat, hcounts, ih (isOpen_eq_true.2 hd), tally_concat, tally_concat]
    omega

end Sound

theorem Step.settled_of_turnedAway (hs : Step m m') (h : Sound m) (ht : isTurnedAway n m m' = true) :
    (∃ t, m.desk.tickets[n]? = some t ∧ t.outcome = none) ∧
      ∃ t, m'.desk.tickets[n]? = some t ∧ t.outcome ≠ none := by
  rw [isTurnedAway, Bool.and_eq_true, Bool.and_eq_true, Bool.not_eq_true'] at ht
  obtain ⟨⟨hp, hr⟩, hroom⟩ := ht
  obtain ⟨w, x, y, hx, hy, rfl, hst, hf⟩ := passes_eq_true.1 hp
  obtain ⟨t, ht, -⟩ := h.named hx
  refine ⟨⟨t, ht, h.outcome_of_canRetry ht hr⟩, ?_⟩
  have hkept (hw : m'.writes = m.writes ∨ ∃ x, m'.writes = m.writes ++ [x]) :
      ∃ t, m'.desk.tickets[x.ticket]? = some t ∧ t.outcome ≠ none := by
    rw [passes_of_kept (by simp) hw] at hp
    cases hp
  have hset {v : Nat} {z : Write} {ws : WriteState} (hz : m.writes[v]? = some z)
      (hw : m'.writes = (m.setWrite v ws).writes) :
      z.ticket = x.ticket ∧ z.state = .started ∧ ws = .finished false := by
    rwa [passes_of_setWrite (by simp) hz hw, decide_eq_true_eq] at hp
  -- The steps that fail no write with a full queue are not at issue.
  cases hs with
  | start v s hv => cases (hset hv rfl).2.2
  | sent v s hv => cases (hset hv rfl).2.2
  | abort v z _ hv => cases (hset hv rfl).2.2
  | putBack v s hv _ _ hq =>
    rw [hroom] at hq
    cases hq
  | fail v s e f hv hf =>
    obtain ⟨u, hu, -⟩ := h.named hv
    refine ⟨f u, ?_, ?_⟩
    · rw [← (hset hv rfl).1]
      exact Desk.getElem?_modify_of_some hu
    · rcases hf with ⟨rfl, -⟩ | ⟨rfl, -⟩
      · exact Option.isSome_iff_ne_none.1 (u.isSome_outcome_complete _)
      · exact Option.isSome_iff_ne_none.1 (u.putBack.isSome_outcome_complete _)
  | take => exact hkept (.inr ⟨_, rfl⟩)
  | _ => exact hkept (.inl rfl)

theorem Sound.turnedAway_once (h : Sound m) (as : List (Act P)) :
    tally (isTurnedAway n) m as = 0 ∨ tally (isTurnedAway n) m as = 1 ∧
      ∃ t, (m.run as).desk.tickets[n]? = some t ∧ t.outcome ≠ none := by
  induction as using List.reverseRecOn with
  | nil => exact .inl rfl
  | append_singleton as a ih =>
    have hm := h.run as
    have hstep := act_step hm.filed a
    rw [tally_concat, run_concat]
    cases ht : isTurnedAway n (m.run as) ((m.run as).act a) with
    | false =>
      rcases ih with ih | ⟨ih, t, hk, ho⟩
      · exact .inl ih
      · obtain ⟨t', hk', hl⟩ := hm.leads_act a hk
        refine .inr ⟨ih, t', hk', ?_⟩
        obtain ⟨o, ho⟩ := Option.ne_none_iff_exists'.1 ho
        rw [hl.2 o ho]
        simp
    | true =>
      obtain ⟨⟨t, hk, ho⟩, hsettled⟩ := hstep.settled_of_turnedAway { hm with } ht
      rcases ih with ih | ⟨-, t', hk', ho'⟩
      · exact .inr ⟨by rw [ih]; rfl, hsettled⟩
      · rw [Option.some.inj (hk.symm.trans hk')] at ho
        exact absurd ho ho'

def spawnedOf (m : Courier P) (n : Nat) : Nat :=
  m.writes.countP fun x ↦ x.ticket = n && x.state = .spawned

theorem countP_modify {α : Type} {p : α → Bool} {f : α → α} {a : α} {xs : List α} {i : Nat}
    (h : xs[i]? = some a) :
    (xs.modify i f).countP p + (p a).toNat = xs.countP p + (p (f a)).toNat := by
  induction xs generalizing i with
  | nil => simp at h
  | cons x xs ih =>
    cases i with
    | zero =>
      obtain rfl : x = a := by simpa using h
      rw [List.modify_zero_cons, List.countP_cons, List.countP_cons]
      cases p x <;> cases p (f x) <;> simp
    | succ i =>
      have hi := ih (i := i) (by simpa using h)
      rw [List.modify_succ_cons, List.countP_cons, List.countP_cons]
      omega

theorem Step.handsOver (hs : Step m m') (hd : m.shutdown = false) (n : Nat) :
    (isHandedOver n m m').toNat + m'.spawnedOf n + m.attempts n = m.spawnedOf n + m'.attempts n := by
  have hkept (hw : m'.writes = m.writes) : isHandedOver n m m' = false ∧
      m'.spawnedOf n = m.spawnedOf n ∧ m'.attempts n = m.attempts n := by
    rw [spawnedOf, attempts, hw]
    exact ⟨passes_of_kept (by simp) (.inl hw), rfl, rfl⟩
  have hset {w : Nat} {x : Write} {ws : WriteState} (hx : m.writes[w]? = some x) (hws : ws ≠ .spawned)
      (hw : m'.writes = (m.setWrite w ws).writes) : isHandedOver n m m' =
        decide (x.ticket = n ∧ x.state = .spawned ∧ ws = .started) ∧
      m'.spawnedOf n + (x.ticket = n && x.state = .spawned).toNat = m.spawnedOf n ∧
      m'.attempts n = m.attempts n := by
    refine ⟨passes_of_setWrite (by simp) hx hw, ?_, ?_⟩
    · rw [spawnedOf, hw]
      refine (countP_modify hx).trans ?_
      simp [Write.setState, hws, spawnedOf]
    · rw [attempts, hw]
      exact congrFun (attempts_setWrite m w ws) n
  have hconcat {x : Write} (hst : x.state = .spawned) (hw : m'.writes = m.writes ++ [x]) :
      isHandedOver n m m' = false ∧ m'.spawnedOf n = m.spawnedOf n + (if x.ticket = n then 1 else 0) ∧
        m'.attempts n = m.attempts n + if x.ticket = n then 1 else 0 := by
    refine ⟨passes_of_kept (by simp) (.inr ⟨x, hw⟩), ?_, attempts_concat hw⟩
    simp [spawnedOf, hw, hst, List.countP_append, List.countP_singleton]
  cases hs with
  -- Taking up makes an attempt, and starting it hands it to the transport.
  | take k rest t id =>
    obtain ⟨hover, hspawned, hattempts⟩ := hconcat rfl rfl
    rw [hover, hspawned, hattempts, Bool.toNat_false]
    omega
  | start w s hw =>
    obtain ⟨hover, hspawned, hattempts⟩ := hset hw (by simp) rfl
    rw [hover, hattempts, ← hspawned]
    simp only [decide_true, and_true, Bool.and_true]
    omega
  | sent w s hw | putBack w s hw | fail w s e f hw =>
    obtain ⟨hover, hspawned, hattempts⟩ := hset hw (by simp) rfl
    rw [hover, hattempts, ← hspawned]
    simp
  -- Only a courier that shuts down gives up an attempt before it is started.
  | abort _ _ hd' =>
    rw [hd] at hd'
    cases hd'
  | _ =>
    obtain ⟨hover, hspawned, hattempts⟩ := hkept rfl
    rw [hover, hspawned, hattempts, Bool.toNat_false, Nat.zero_add]

theorem Sound.handedOver_run (h : Sound m) (as : List (Act P)) (ho : (m.run as).isOpen = true) :
    tally (isHandedOver n) m as + (m.run as).spawnedOf n + m.attempts n =
      m.spawnedOf n + (m.run as).attempts n := by
  induction as using List.reverseRecOn with
  | nil =>
    rw [tally, Nat.zero_add]
    rfl
  | append_singleton as a ih =>
    have hd := h.isOpen_left ho
    have hm := h.run as
    have hstep : (isHandedOver n (m.run as) ((m.run as).act a)).toNat +
        ((m.run as).act a).spawnedOf n + (m.run as).attempts n =
          (m.run as).spawnedOf n + ((m.run as).act a).attempts n :=
      (act_step hm.filed a).handsOver hd n
    have hbefore := ih (isOpen_eq_true.2 hd)
    rw [tally_concat, run_concat]
    omega

end GameServers.Courier
