import GameServers.Proofs.Courier.Placement
import GameServers.Proofs.Courier.Tally
import GameServers.Proofs.Desk.Use

namespace GameServers.Courier

variable {P : Protocol} {m m' : Courier P} {n : Nat} {t : Ticket P}

/-- What happens to a courier whose desk others use as well. -/
inductive Dealing (P : Protocol)
  | own (a : Act P)
  | other (u : Desk.Use P)

def deal (m : Courier P) : Dealing P → Courier P
  | .own a => m.act a
  | .other u => m.mapDesk (·.use u)

def dealings (m : Courier P) (xs : List (Dealing P)) : Courier P := xs.foldl deal m

def liveOf (m : Courier P) (n : Nat) : Nat := m.writes.countP fun x ↦ x.isLive && x.ticket = n

/-- In how many places the request is: in the queue, or in the hands of a write. -/
def load (m : Courier P) (n : Nat) : Nat := m.queue.count n + m.liveOf n

/-- What a dealing leads to. Only a new request comes from nowhere, and only a request in the queue
that has an id is written. -/
structure Follows (m' m : Courier P) : Prop where
  desk : m'.desk.Succeeds m.desk
  load : ∀ n, m'.load n ≤ m.load n ∨
    n = m.desk.tickets.length ∧ m'.load n ≤ m.load n + 1 ∧ n < m'.desk.tickets.length
  attempts : ∀ n, m'.attempts n = m.attempts n ∨ n ∈ m.queue ∧ ∃ t id,
    m.desk.tickets[n]? = some t ∧ (Envelope.request t.request : Envelope P).sessionId = .ok id

theorem mild_of_failed {f : Ticket P → Ticket P} {e : Failure} {n : Nat} {b : Bool}
    (hf : f = (·.complete (.error e)) ∧ m.canRetry n = false ∨
      f = (fun t ↦ t.putBack.complete (.error e)) ∧ m.canRetry n = true ∧ b = false) :
    Ticket.Mild f := by
  rcases hf with ⟨rfl, -⟩ | ⟨rfl, -⟩
  · exact .complete _
  · exact (Ticket.Mild.complete _).comp .putBack

theorem Step.succeeds (hs : Step m m') (h : m.desk.Tidy) : m'.desk.Succeeds m.desk := by
  cases hs with
  | clock => exact ⟨{ h with }, h.same.leads⟩
  | doze τ => exact h.doze τ.index
  | enqueue r => exact h.issue r
  | settle s o => exact h.withdraw s (.complete o)
  | take k rest t id =>
    have hfile := h.file (s := m.desk.nextSession k id) rfl
    exact (hfile _).trans ((hfile _).tidy.modify k .takeUp)
  | refuse k rest e => exact h.modify k ((Ticket.Mild.complete _).comp (.advance .accepted))
  | sent w s => exact h.modify s.ticket (.advance .sent)
  | putBack w s => exact h.withdraw s .putBack
  | fail w s e f _ hf => exact h.withdraw s (mild_of_failed hf)
  | closeRegistry => exact h.clear _
  | _ => exact h.same

theorem liveOf_concat (s : Session) (hw : m'.writes = m.writes ++ [⟨s, .spawned⟩]) :
    m'.liveOf n = m.liveOf n + if s.ticket = n then 1 else 0 := by
  have hx : ((⟨s, .spawned⟩ : Write).isLive && (⟨s, .spawned⟩ : Write).ticket = n) =
      decide (s.ticket = n) := rfl
  rw [liveOf, hw, List.countP_append, List.countP_singleton, hx]
  simp only [liveOf, decide_eq_true_eq]

theorem liveOf_ended {w : Nat} {x : Write} {ws : WriteState} (hx : m.writes[w]? = some x)
    (hl : x.isLive = true) (hws : (x.setState ws).isLive = false) :
    (m.setWrite w ws).liveOf n + (if x.ticket = n then 1 else 0) = m.liveOf n := by
  have hc : (m.setWrite w ws).liveOf n + _ = m.liveOf n + _ :=
    countP_modify (p := fun x ↦ x.isLive && x.ticket = n) (f := (·.setState ws)) hx
  by_cases hn : x.ticket = n
  · simpa [hl, hws, hn] using hc
  · simpa [hl, hws, hn] using hc

theorem liveOf_started {w : Nat} {s : Session} (hx : m.writes[w]? = some ⟨s, .spawned⟩) :
    (m.setWrite w .started).liveOf n = m.liveOf n := by
  have hc : (m.setWrite w .started).liveOf n + _ = m.liveOf n + _ :=
    countP_modify (p := fun x ↦ x.isLive && x.ticket = n) (f := (·.setState .started)) hx
  exact Nat.add_right_cancel hc

theorem Step.load (hs : Step m m') (n : Nat) : m'.load n ≤ m.load n ∨
    n = m.desk.tickets.length ∧ m'.load n ≤ m.load n + 1 ∧ n < m'.desk.tickets.length := by
  have hrest {k : Nat} {rest : List Nat} (hq : m.queue = k :: rest) :
      m.queue.count n = rest.count n + if k = n then 1 else 0 := by
    rw [hq, List.count_cons]
    simp
  have hconcat (k : Nat) : (m.queue ++ [k]).count n = m.queue.count n + if k = n then 1 else 0 := by
    rw [List.count_append, List.count_singleton]
    simp
  have hended {w : Nat} {s : Session} (b : Bool) (hw : m.writes[w]? = some ⟨s, .started⟩) :
      (m.setWrite w (.finished b)).liveOf n + (if s.ticket = n then 1 else 0) = m.liveOf n :=
    liveOf_ended hw rfl rfl
  cases hs with
  | enqueue r =>
    have hq := hconcat m.desk.tickets.length
    by_cases hn : m.desk.tickets.length = n
    · right
      refine ⟨hn.symm, ?_, ?_⟩
      · change List.count n _ + m.liveOf n ≤ m.queue.count n + m.liveOf n + 1
        rw [hq, if_pos hn]
        omega
      · simp [Desk.issue, hn]
    · left
      change List.count n _ + m.liveOf n ≤ m.queue.count n + m.liveOf n
      rw [hq, if_neg hn]
      omega
  -- The request goes from one place to another.
  | take k rest t id _ _ hq =>
    left
    rw [Courier.load, liveOf_concat (m := m) (m.desk.nextSession k id)]
    · change rest.count n + (m.liveOf n + if k = n then 1 else 0) ≤ m.queue.count n + m.liveOf n
      rw [hrest hq]
      omega
    · rfl
  | refuse k rest e _ _ hq =>
    left
    change rest.count n + m.liveOf n ≤ m.queue.count n + m.liveOf n
    rw [hrest hq]
    omega
  | skip k rest _ _ hq =>
    left
    change rest.count n + m.liveOf n ≤ m.queue.count n + m.liveOf n
    rw [hrest hq]
    omega
  | stop | leave => exact .inl (Nat.add_le_add_right (Nat.zero_le _) _)
  | abort w x _ hx hl =>
    left
    have hlive : (m.setWrite w .aborted).liveOf n + (if x.ticket = n then 1 else 0) = m.liveOf n :=
      liveOf_ended hx hl rfl
    change 0 + (m.setWrite w .aborted).liveOf n ≤ m.queue.count n + m.liveOf n
    omega
  | start w s hw => exact .inl (Nat.add_le_add_left (liveOf_started hw).le _)
  | sent w s hw =>
    left
    have hlive := hended true hw
    change m.queue.count n + (m.setWrite w (.finished true)).liveOf n ≤ m.queue.count n + m.liveOf n
    omega
  | putBack w s hw =>
    left
    have hlive := hended false hw
    have hq := hconcat s.ticket
    change (m.queue ++ [s.ticket]).count n + (m.setWrite w (.finished false)).liveOf n ≤
      m.queue.count n + m.liveOf n
    omega
  | fail w s e f hw =>
    left
    have hlive := hended false hw
    change m.queue.count n + (m.setWrite w (.finished false)).liveOf n ≤ m.queue.count n + m.liveOf n
    omega
  | beginClose =>
    left
    refine Nat.add_le_add_right ?_ _
    simp only
    split
    · exact Nat.zero_le _
    · exact le_rfl
  | _ => exact .inl le_rfl

theorem Step.attempts (hs : Step m m') (n : Nat) : m'.attempts n = m.attempts n ∨
    n ∈ m.queue ∧ ∃ t id, m.desk.tickets[n]? = some t ∧
      (Envelope.request t.request : Envelope P).sessionId = .ok id := by
  cases hs with
  | take k rest t id _ _ hq ht _ hi =>
    by_cases hk : k = n
    · subst hk
      exact .inr ⟨hq ▸ .head _, t, id, ht, hi⟩
    · exact .inl ((attempts_concat rfl).trans (congrArg _ (if_neg hk)))
  | abort w | start w | sent w | putBack w | fail w => exact .inl (congrFun (attempts_setWrite m w _) n)
  | _ => exact .inl rfl

/-- What a courier keeps whatever others do at its desk. -/
structure Fair (m : Courier P) : Prop where
  tidy : m.desk.Tidy
  light : ∀ n, m.load n ≤ 1
  known : ∀ n, 0 < m.load n → n < m.desk.tickets.length
  named : ∀ n, 0 < m.attempts n → ∃ t id, m.desk.tickets[n]? = some t ∧
    (Envelope.request t.request : Envelope P).sessionId = .ok id

theorem Fair.make (config : Config) : Fair (make config : Courier P) where
  tidy := ⟨.empty, fun s hs ↦ by simp [Courier.make, Registry.entries] at hs,
    fun ht ↦ by simp [Courier.make] at ht⟩
  light _ := Nat.zero_le _
  known _ hn := absurd hn (lt_irrefl 0)
  named _ hn := absurd hn (lt_irrefl 0)

theorem Fair.follows (h : Fair m) (x : Dealing P) : (m.deal x).Follows m := by
  cases x with
  | own a =>
    have hs := act_step h.tidy.filed a
    exact ⟨.of_bare (hs.succeeds (Desk.Tidy.bare_iff.2 h.tidy)), hs.load, hs.attempts⟩
  | other u => exact ⟨h.tidy.use u, fun _ ↦ .inl le_rfl, fun _ ↦ .inl rfl⟩

theorem Follows.fair (hf : m'.Follows m) (h : Fair m) : Fair m' where
  tidy := hf.desk.tidy
  light n := by
    have hlight := h.light n
    rcases hf.load n with hle | ⟨rfl, hle, -⟩
    · omega
    · -- The number of a new request was in no place before.
      have hzero : ¬ 0 < m.load m.desk.tickets.length := fun hn ↦ lt_irrefl _ (h.known _ hn)
      omega
  known n hn := by
    rcases hf.load n with hle | ⟨-, -, hlt⟩
    · exact hf.desk.known (h.known n (by omega))
    · exact hlt
  named n hn := by
    have hid : ∃ t id, m.desk.tickets[n]? = some t ∧
        (Envelope.request t.request : Envelope P).sessionId = .ok id := by
      rcases hf.attempts n with ha | ⟨-, hid⟩
      · exact h.named n (ha ▸ hn)
      · exact hid
    obtain ⟨t, id, ht, hid⟩ := hid
    obtain ⟨t', ht', hl⟩ := hf.desk.leads ht
    exact ⟨t', id, ht', hl.1 ▸ hid⟩

/-- What holds of a fair courier and after everything that follows it holds after all dealings. -/
theorem Fair.kept {I : Courier P → Prop} (hI : ∀ {k k'}, Follows k' k → I k → I k')
    (h : Fair m) (hm : I m) (xs : List (Dealing P)) : I (m.dealings xs) := by
  induction xs generalizing m with
  | nil => exact hm
  | cons x xs ih => exact ih ((h.follows x).fair h) (hI (h.follows x) hm)

theorem Fair.dealings (h : Fair m) (xs : List (Dealing P)) : Fair (m.dealings xs) :=
  h.kept (fun hf hk ↦ hf.fair hk) h xs

/-- The request is in no place, so it will not be written any more. -/
structure Spent (m : Courier P) (n k : Nat) : Prop where
  known : n < m.desk.tickets.length
  load : m.load n = 0
  attempts : m.attempts n = k

theorem Spent.not_queued {k : Nat} (h : m.Spent n k) : n ∉ m.queue := by
  intro hq
  have hpos : 0 < m.queue.count n := List.count_pos_iff.2 hq
  have hzero : m.queue.count n + m.liveOf n = 0 := h.load
  omega

theorem Spent.isWriting {k : Nat} (h : m.Spent n k) : m.isWriting n = false := by
  have hzero : m.queue.count n + m.liveOf n = 0 := h.load
  have hlive : m.writes.countP (fun x ↦ x.isLive && x.ticket = n) = 0 := by
    change m.liveOf n = 0
    omega
  exact List.any_eq_false.2 (List.countP_eq_zero.1 hlive)

theorem Follows.spent {k : Nat} (hf : m'.Follows m) (h : m.Spent n k) : m'.Spent n k where
  known := hf.desk.known h.known
  load := by
    have hzero := h.load
    rcases hf.load n with hle | ⟨rfl, -, -⟩
    · omega
    · exact absurd h.known (lt_irrefl _)
  attempts := by
    rcases hf.attempts n with ha | ⟨hq, -⟩
    · exact ha.trans h.attempts
    · exact absurd hq h.not_queued

end GameServers.Courier
