import GameServers.Proofs.Courier.Progress

namespace GameServers.Courier

variable {P : Protocol} {m m' : Courier P} {r : P.Request} {runtime : Bool} {e : Failure} {n : Nat}

theorem Step.length_queue_le (hs : Step m m') (hq : m.queue.length ≤ m.capacity) :
    m'.queue.length ≤ m'.capacity := by
  have hc : m'.capacity = m.capacity := congrArg (max 1 ·.queueCapacity) hs.config
  have hconcat (hr : m.queueHasRoom = true) (k : Nat) : (m.queue ++ [k]).length ≤ m.capacity := by
    rw [List.length_append, List.length_singleton]
    exact of_decide_eq_true hr
  have hrest {k : Nat} {rest : List Nat} (he : m.queue = k :: rest) : rest.length ≤ m.capacity := by
    rw [he, List.length_cons] at hq
    omega
  rw [hc]
  cases hs with
  | enqueue r _ _ hr => exact hconcat hr _
  | putBack w s _ _ _ hr => exact hconcat hr _
  | take k rest t id _ _ he => exact hrest he
  | refuse k rest e _ _ he => exact hrest he
  | skip k rest _ _ he => exact hrest he
  | stop | abort | leave => exact Nat.zero_le _
  | beginClose =>
    simp only
    split
    · exact Nat.zero_le _
    · exact hq
  | _ => exact hq

theorem length_queue_run (config : Config) (as : List (Act P)) :
    ((make config : Courier P).run as).queue.length ≤ max 1 config.queueCapacity := by
  have hm := Sound.make (P := P) config
  have hq := hm.kept (I := fun k ↦ k.queue.length ≤ k.capacity) (fun _ ↦ .rfl)
    (fun _ hs hq ↦ hs.length_queue_le hq) (Nat.zero_le _) as
  rwa [capacity, config_run _ as hm] at hq

def Untouched (m m' : Courier P) : Prop :=
  { m' with desk := { m'.desk with journal := m.desk.journal } } = m

/-- A courier refuses a request because it is closed or cannot start, and then says nothing, or
because the queue is full, and then reports that. -/
theorem send_refused (h : (m.send r runtime).2 = .error e) :
    (e = .closed ∨ e = .noRuntime) ∧ (m.send r runtime).1 = m ∨
      e = .queueFull m.config.queueCapacity ∧ (m.send r runtime).1 = m.log (.queueFull r) := by
  unfold send at h ⊢
  split at h
  · cases h
  · next e' hr =>
    obtain rfl : e' = e := Except.error.inj h
    unfold refusal? at hr
    split at hr
    · cases hr
      exact .inl ⟨.inl rfl, rfl⟩
    · split at hr
      · cases hr
        exact .inl ⟨.inr rfl, rfl⟩
      · split at hr
        · cases hr
          exact .inl ⟨.inl rfl, rfl⟩
        · split at hr
          · cases hr
            exact .inr ⟨rfl, rfl⟩
          · cases hr

theorem untouched_of_refused (h : (m.send r runtime).2 = .error e) :
    m.Untouched (m.send r runtime).1 := by
  rcases send_refused h with ⟨-, hm⟩ | ⟨-, hm⟩
  · rw [hm]
    rfl
  · rw [hm]
    rfl

theorem Act.lets_or_send (a : Act P) : (∃ rs, a.Lets [] rs) ∨ ∃ q runtime, a = .send q runtime := by
  cases a with
  | send q runtime => exact .inr ⟨q, runtime, rfl⟩
  | accept x =>
    cases x with
    | error x => exact .inl ⟨[], trivial⟩
    | ok r => exact .inl ⟨[r], .head _⟩
  | _ => exact .inl ⟨[], trivial⟩

theorem exists_send {q : P.Request} {as : List (Act P)} (hn : m.ledger.length ≤ n)
    (hq : ((m.run as).ledger.map Prod.fst)[n]? = some q) :
    ∃ xs runtime ys, as = xs ++ .send q runtime :: ys ∧
      ((m.run xs).send q runtime).2 = .ok n := by
  induction as using List.reverseRecOn with
  | nil =>
    have hlen : (m.ledger.map Prod.fst).length ≤ n := by rwa [List.length_map]
    cases hq.symm.trans (List.getElem?_eq_none hlen)
  | append_singleton as a ih =>
    have hbefore (hq : ((m.run as).ledger.map Prod.fst)[n]? = some q) :
        ∃ xs runtime ys, as ++ [a] = xs ++ .send q runtime :: ys ∧
          ((m.run xs).send q runtime).2 = .ok n := by
      obtain ⟨xs, runtime, ys, rfl, ho⟩ := ih hq
      exact ⟨xs, runtime, ys ++ [a], by simp, ho⟩
    rw [run_concat] at hq
    rcases a.lets_or_send with ⟨rs, ha⟩ | ⟨q', runtime, rfl⟩
    · rw [requests_act ha] at hq
      exact hbefore hq
    · rw [act, ledger_send] at hq
      rcases send_cases (m.run as) q' runtime with ⟨hr, hs⟩ | ⟨e, hr, -⟩
      · rw [hr, Option.isNone_none, if_pos rfl, List.map_append] at hq
        rcases getElem?_concat hq with hq | ⟨rfl, rfl⟩
        · exact hbefore hq
        · refine ⟨as, runtime, [], rfl, ?_⟩
          rw [hs]
          simp [ledger, Desk.ledger]
      · rw [hr, Option.isNone_some, if_neg (by simp), List.append_nil] at hq
        exact hbefore hq

/-- The courier has a request to queue, to register or to write under the number. -/
def Serves (m : Courier P) (n : Nat) : Prop :=
  n ∈ m.queue ∨ (∃ s ∈ m.desk.registry.entries, s.ticket = n) ∨ ∃ x ∈ m.writes, x.ticket = n

theorem Sound.ticket_of_serves (h : Sound m) (hn : m.Serves n) :
    ∃ t, m.desk.tickets[n]? = some t := by
  rcases hn with hn | ⟨s, hs, rfl⟩ | ⟨x, hx, rfl⟩
  · obtain ⟨t, ht, -⟩ := h.queued hn
    exact ⟨t, ht⟩
  · obtain ⟨t, ht, -⟩ := h.pending hs
    exact ⟨t, ht⟩
  · obtain ⟨w, hw⟩ := List.mem_iff_getElem?.1 hx
    obtain ⟨t, ht, -⟩ := h.named hw
    exact ⟨t, ht⟩

/-- In no state does the queue hold more than its capacity, which is one at least. A request that
is refused changes nothing but the reports, and whatever is queued, registered or written in the
course of the run belongs to another request, which was accepted. -/
theorem refused_send_leaves_no_trace (config : Config) (before : List (Act P)) :
    let m := (make config : Courier P).run before
    m.queue.length ≤ max 1 config.queueCapacity ∧
      ∀ r runtime e, (m.send r runtime).2 = .error e →
        (e = .closed ∨ e = .noRuntime ∨ e = .queueFull config.queueCapacity) ∧
        m.Untouched (m.send r runtime).1 ∧
        (∀ k, (m.send r runtime).1.outcome? k = m.outcome? k) ∧
        ∀ after n, ((m.send r runtime).1.run after).Serves n →
          ∃ xs q runtime' ys, before ++ .send r runtime :: after = xs ++ .send q runtime' :: ys ∧
            xs.length ≠ before.length ∧
            (((make config : Courier P).run xs).send q runtime').2 = .ok n ∧
            ∃ t, ((m.send r runtime).1.run after).desk.tickets[n]? = some t ∧ t.request = q := by
  intro m
  have hmake := Sound.make (P := P) config
  have hm : Sound m := hmake.run before
  refine ⟨length_queue_run config before,
    fun r runtime e he ↦ ⟨?_, untouched_of_refused he, ?_, ?_⟩⟩
  · have hc : m.config = config := config_run _ before hmake
    rcases send_refused he with ⟨h | h, -⟩ | ⟨h, -⟩
    · exact .inl h
    · exact .inr (.inl h)
    · exact .inr (.inr (hc ▸ h))
  · intro k
    rcases send_refused he with ⟨-, h⟩ | ⟨-, h⟩
    · rw [h]
    · rw [h]
      rfl
  · intro after n hn
    have hrun : (m.send r runtime).1.run after =
        (make config : Courier P).run (before ++ .send r runtime :: after) :=
      (run_append _ before (.send r runtime :: after)).symm
    obtain ⟨t, ht⟩ := ((hm.act (.send r runtime)).run after).ticket_of_serves hn
    have hq : (((make config : Courier P).run (before ++ .send r runtime :: after)).ledger.map
        Prod.fst)[n]? = some t.request := by
      rw [← hrun]
      simp only [ledger, Desk.ledger, List.map_map, List.getElem?_map]
      exact congrArg (Option.map _) ht
    obtain ⟨xs, runtime', ys, hsplit, ho⟩ := exists_send (Nat.zero_le n) hq
    refine ⟨xs, t.request, runtime', ys, hsplit, fun hlen ↦ ?_, ho, t, ht, rfl⟩
    -- The request at this place of the run was refused, and has no number.
    obtain ⟨rfl, hrest⟩ := List.append_inj hsplit hlen.symm
    obtain ⟨hact, -⟩ := List.cons.inj hrest
    obtain ⟨hr, hruntime⟩ := Act.send.inj hact
    rw [← hr, ← hruntime] at ho
    cases ho.symm.trans he

/-- The second request finds no room, and the first is still the only one that is served. -/
theorem ping_refused_by_full_queue :
    let m := (make { queueCapacity := 0 } : Courier Plain.protocol).run [.send ping true]
    (m.send ping true).2 = .error (.queueFull 0) ∧ m.Untouched (m.send ping true).1 ∧
      ∃ xs q runtime ys, [.send ping true, .send ping true, .work] = xs ++ .send q runtime :: ys ∧
        xs.length ≠ 1 ∧ (((make { queueCapacity := 0 } : Courier Plain.protocol).run xs).send q
          runtime).2 = .ok 0 := by
  obtain ⟨-, huntouched, -, hlater⟩ := (refused_send_leaves_no_trace (P := Plain.protocol)
    { queueCapacity := 0 } [.send ping true]).2 ping true (.queueFull 0) rfl
  obtain ⟨xs, q, runtime, ys, hsplit, hne, ho, -⟩ :=
    hlater [.work] 0 (.inr (.inr ⟨_, .head _, rfl⟩))
  exact ⟨rfl, huntouched, xs, q, runtime, ys, hsplit, hne, ho⟩

end GameServers.Courier
