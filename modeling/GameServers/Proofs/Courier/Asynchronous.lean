import GameServers.Proofs.Courier.Retries
import Mathlib.Algebra.GroupWithZero.Nat

namespace GameServers.Courier

variable {P : Protocol} {m m' : Courier P} {w n : Nat} {x : Write} {s : Session} {t : Ticket P}

/-- No task can go on. -/
structure AtRest (m : Courier P) : Prop where
  worker : m.canWork = false
  writes : ∀ x ∈ m.writes, x.state ≠ .spawned

/-- The worker waits neither for a write nor for an outcome. -/
def Unbound (m : Courier P) : Prop :=
  (∀ w, m.worker ≠ .writing w) ∧ ∀ n, m.worker ≠ .settling n

theorem Step.unbound (hs : Step m m') (ha : m.config.mode = .asynchronous) (hu : Unbound m) :
    Unbound m' := by
  cases hs with
  | enqueue | beginClose =>
    unfold Unbound
    simp only
    split
    · exact ⟨by simp, by simp⟩
    · exact hu
  | take =>
    unfold Unbound
    simp only [ha]
    exact ⟨by simp, by simp⟩
  | written w hw => exact absurd hw (hu.1 w)
  | release | unwritten | stop | abort | leave | abortWorker => exact ⟨by simp, by simp⟩
  | _ => exact hu

theorem unbound_run (config : Config) (ha : config.mode = .asynchronous) (as : List (Act P)) :
    Unbound ((make config : Courier P).run as) := by
  have hm := Sound.make (P := P) config
  have hi := hm.kept (I := fun k ↦ k.config = config ∧ Unbound k) (fun _ ↦ .rfl)
    (fun _ hs hi ↦ ⟨hs.config.trans hi.1, hs.unbound (hi.1 ▸ ha) hi.2⟩)
    ⟨rfl, by simp [make], by simp [make]⟩ as
  exact hi.2

theorem attempts_pos_iff : 0 < m.attempts n ↔ ∃ (w : Nat) (x : Write),
    m.writes[w]? = some x ∧ x.ticket = n := by
  constructor
  · intro h
    obtain ⟨x, hx, rfl⟩ := List.mem_map.1 (List.count_pos_iff.1 h)
    obtain ⟨w, hw⟩ := List.mem_iff_getElem?.1 hx
    exact ⟨w, x, hw, rfl⟩
  · rintro ⟨w, x, hx, rfl⟩
    exact attempts_pos hx

theorem Step.attempts_pos (hs : Step m m') (h : 0 < m.attempts n) : 0 < m'.attempts n := by
  obtain ⟨w, x, hx, rfl⟩ := attempts_pos_iff.1 h
  obtain ⟨y, hy, hsession⟩ := hs.writes hx
  exact attempts_pos_iff.2 ⟨w, y, hy, Write.ticket_congr hsession⟩

/-- The request has no id, and its caller was told why. -/
def Unregistrable (m : Courier P) (n : Nat) : Prop :=
  ∃ t e, m.desk.tickets[n]? = some t ∧
    (Envelope.request t.request : Envelope P).sessionId = .error e ∧ t.outcome = some (.error e)

theorem Step.unregistrable (hs : Step m m') (h : m.Unregistrable n) : m'.Unregistrable n := by
  obtain ⟨t, e, ht, hid, ho⟩ := h
  obtain ⟨t', ht', hl⟩ := hs.leads ht
  exact ⟨t', e, ht', hl.1 ▸ hid, hl.2 _ ho⟩

theorem Step.leaves (hs : Step m m') (h : Sound m) (hm : Minds m) (hd : m'.shutdown = false)
    (hn : n ∈ m.queue) : n ∈ m'.queue ∨ 0 < m'.attempts n ∨ m'.Unregistrable n := by
  cases hs with
  | enqueue | putBack => exact .inl (List.mem_append_left _ hn)
  | take k rest u id _ _ hq =>
    rw [hq] at hn
    rcases List.mem_cons.1 hn with rfl | hn
    · refine .inr (.inl (attempts_pos_iff.2 ⟨m.writes.length, _, List.getElem?_concat_length, rfl⟩))
    · exact .inl hn
  | refuse k rest e _ hd' hq hi =>
    obtain ⟨u, hu, ho, -⟩ := h.outcome_of_queued hn
    rw [hq] at hn
    rcases List.mem_cons.1 hn with rfl | hn
    · have hc : m.desk.closed = false := by
        by_contra hc
        exact absurd ((hm.closed (by simpa using hc)).symm.trans hd') (by decide)
      refine .inr (.inr ⟨_, e, Desk.getElem?_modify_of_some hu, ?_, ?_⟩)
      · simpa [Desk.idFor, hc, hu] using hi
      · rw [Ticket.complete_of_none _ _ (by simpa using ho)]
    · exact .inl hn
  | skip k rest _ _ hq hc =>
    obtain ⟨u, hu, hst⟩ := h.queued hn
    rw [hq] at hn
    rcases List.mem_cons.1 hn with rfl | hn
    · have ha := Desk.canAdvance_eq_true.2 ⟨u, hu, Status.canAdvanceTo_accepted.2 hst⟩
      exact absurd (ha.symm.trans hc) (by decide)
    · exact .inl hn
  | stop hd' | abort _ _ hd' => exact absurd (hd'.symm.trans hd) (by decide)
  | leave k hw => exact absurd ((h.told (.inr (.inr ⟨k, hw⟩))).symm.trans hd) (by decide)
  | beginClose => cases hd
  | _ => exact .inl hn

theorem Step.issues (hs : Step m m') : m'.desk.tickets.length = m.desk.tickets.length ∨
    ∃ r, m'.desk.tickets = m.desk.tickets ++ [{ request := r, createdAt := m.desk.now }] ∧
      m'.queue = m.queue ++ [m.desk.tickets.length] ∧ m'.writes = m.writes := by
  cases hs with
  | enqueue r => exact .inr ⟨r, rfl, rfl, rfl⟩
  | settle | take | refuse | sent | putBack | fail =>
    refine .inl ?_
    simp [Desk.modify, Desk.strike, Desk.enroll]
  | _ => exact .inl rfl

/-- The request waits in the queue, or attempts at it were begun, or it has no id. -/
def Handled (m : Courier P) (n : Nat) : Prop :=
  n ∈ m.queue ∨ 0 < m.attempts n ∨ m.Unregistrable n

theorem Step.handled (hs : Step m m') (h : Sound m) (hm : Minds m) (hd : m'.shutdown = false)
    (hall : ∀ k < m.desk.tickets.length, m.Handled k) (hn : n < m'.desk.tickets.length) :
    m'.Handled n := by
  rcases Nat.lt_or_ge n m.desk.tickets.length with hlt | hge
  · rcases hall n hlt with hq | ha | hu
    · exact hs.leaves h hm hd hq
    · exact .inr (.inl (hs.attempts_pos ha))
    · exact .inr (.inr (hs.unregistrable hu))
  · rcases hs.issues with hlen | ⟨r, htickets, hqueue, -⟩
    · omega
    · rw [htickets, List.length_append, List.length_singleton] at hn
      obtain rfl : n = m.desk.tickets.length := by omega
      rw [Handled, hqueue]
      exact .inl (List.mem_append_right _ (.head _))

theorem handled_run (config : Config) (as : List (Act P))
    (hopen : ((make config : Courier P).run as).isOpen = true)
    (hn : n < ((make config : Courier P).run as).desk.tickets.length) :
    ((make config : Courier P).run as).Handled n := by
  have hall := (Sound.make (P := P) config).kept
    (I := fun k ↦ Minds k ∧ (k.shutdown = false → ∀ k' < k.desk.tickets.length, k.Handled k'))
    (fun _ ↦ and_congr Minds.bare_iff .rfl)
    (fun h hs hi ↦ ⟨hi.1.step h hs, fun hd k' hk' ↦ ?_⟩)
    ⟨.make config, fun _ k' hk' ↦ absurd hk' (Nat.not_lt_zero k')⟩ as
  · exact hall.2 (isOpen_eq_true.1 hopen) n hn
  · refine hs.handled h hi.1 hd (hi.2 ?_) hk'
    by_contra hd'
    exact absurd ((hs.told (by simpa using hd')).symm.trans hd) (by decide)

theorem Sound.queue_of_rest (h : Sound m) (hm : Minds m) (hu : Unbound m) (ho : m.isOpen = true)
    (hw : m.canWork = false) : m.queue = [] := by
  have hd := isOpen_eq_true.1 ho
  cases hwk : m.worker with
  | unstarted => exact (hm.fresh hwk).1
  | waiting => simpa [canWork, hwk, hd] using hw
  | writing w => exact absurd hwk (hu.1 w)
  | settling n => exact absurd hwk (hu.2 n)
  | givenUp n => exact absurd (.inr ⟨n, hwk⟩) (h.worker_of_open ho)
  | stopped => exact absurd (.inl hwk) (h.worker_of_open ho)

theorem handedOver_of_rest (config : Config) (as : List (Act P))
    (hopen : ((make config : Courier P).run as).isOpen = true)
    (hr : AtRest ((make config : Courier P).run as))
    (ha : 0 < ((make config : Courier P).run as).attempts n) :
    0 < tally (isHandedOver n) (make config) as := by
  have hall := handedOver_make config as hopen (n := n)
  have hnone : ((make config : Courier P).run as).spawnedOf n = 0 := by
    refine List.countP_eq_zero.2 fun x hx hxs ↦ hr.writes x hx ?_
    exact of_decide_eq_true (Bool.and_eq_true_iff.1 hxs).2
  omega

def stagesLeft : WriteState → Nat
  | .spawned => 2
  | .started => 1
  | _ => 0

def writesLeft (m : Courier P) : Nat := (m.writes.map fun x ↦ stagesLeft x.state).sum

def retriesLeft (m : Courier P) : Nat :=
  (m.desk.tickets.map fun t ↦ m.config.maxWriteRetries - t.retries).sum

/-- What the tasks may still do to the queue and to the writes, if no more requests come. -/
def workload (m : Courier P) : Nat := 3 * m.queue.length + m.writesLeft + 3 * m.retriesLeft

/-- Something happens in the queue or to a write. -/
def stirs (m m' : Courier P) : Bool := m'.queue ≠ m.queue || m'.writes ≠ m.writes

theorem sum_map_modify {α : Type} {g : α → Nat} {f : α → α} {a : α} {xs : List α} {i : Nat}
    (h : xs[i]? = some a) :
    ((xs.modify i f).map g).sum + g a = (xs.map g).sum + g (f a) := by
  induction xs generalizing i with
  | nil => simp at h
  | cons x xs ih =>
    cases i with
    | zero =>
      obtain rfl : x = a := by simpa using h
      simp only [List.modify_zero_cons, List.map_cons, List.sum_cons]
      omega
    | succ i =>
      have hi := ih (i := i) (by simpa using h)
      simp only [List.modify_succ_cons, List.map_cons, List.sum_cons]
      omega

theorem writesLeft_setWrite (ws : WriteState) (hx : m.writes[w]? = some x) :
    (m.setWrite w ws).writesLeft + stagesLeft x.state = m.writesLeft + stagesLeft ws :=
  sum_map_modify (g := fun x : Write ↦ stagesLeft x.state) hx

theorem retriesLeft_congr (hc : m'.config = m.config)
    (ht : m'.desk.tickets.map Ticket.retries = m.desk.tickets.map Ticket.retries) :
    m'.retriesLeft = m.retriesLeft := by
  have hmap := congrArg (fun l ↦ (l.map (m.config.maxWriteRetries - ·)).sum) ht
  simpa [retriesLeft, hc, Function.comp_def] using hmap

theorem retriesLeft_modify {f : Ticket P → Ticket P} (hc : m'.config = m.config)
    (hm : m'.desk.tickets = m.desk.tickets.modify n f) (ht : m.desk.tickets[n]? = some t) :
    m'.retriesLeft + (m.config.maxWriteRetries - t.retries) =
      m.retriesLeft + (m.config.maxWriteRetries - (f t).retries) := by
  rw [retriesLeft, hc, hm]
  exact sum_map_modify ht

theorem writesLeft_concat (hw : m'.writes = m.writes ++ [⟨s, .spawned⟩]) :
    m'.writesLeft = m.writesLeft + 2 := by
  rw [writesLeft, hw, List.map_append, List.sum_append]
  rfl

/-- What has happened to the queue and to the writes was part of the work. -/
def Spends (m m' : Courier P) : Prop := m'.workload + (stirs m m').toNat ≤ m.workload

namespace Spends

theorem of_eq (hq : m'.queue = m.queue) (hw : m'.writes = m.writes)
    (hr : m'.retriesLeft = m.retriesLeft) : Spends m m' := by
  have hstirs : stirs m m' = false := by simp [stirs, hq, hw]
  simp [Spends, hstirs, workload, writesLeft, hq, hw, hr]

theorem of_lt (hlt : m'.workload < m.workload) : Spends m m' := by
  have hstirs : (stirs m m').toNat ≤ 1 := Bool.toNat_le _
  unfold Spends
  omega

theorem of_shorter (hq : m'.queue.length < m.queue.length) (hw : m'.writesLeft ≤ m.writesLeft + 2)
    (hr : m'.retriesLeft = m.retriesLeft) : Spends m m' := by
  refine of_lt ?_
  unfold workload
  omega

theorem of_empty (hq : m'.queue = []) (hw : m'.writes = m.writes)
    (hr : m'.retriesLeft = m.retriesLeft) : Spends m m' := by
  cases hm : m.queue with
  | nil => exact of_eq (hq.trans hm.symm) hw hr
  | cons n rest =>
    refine of_shorter ?_ ?_ hr
    · rw [hq, hm, List.length_nil, List.length_cons]
      exact Nat.succ_pos _
    · rw [writesLeft, hw, ← writesLeft]
      exact Nat.le_add_right _ _

theorem of_stage (hq : m'.queue.length ≤ m.queue.length) (hw : m'.writesLeft < m.writesLeft)
    (hr : m'.retriesLeft ≤ m.retriesLeft) : Spends m m' := by
  refine of_lt ?_
  unfold workload
  omega

theorem of_retry (hq : m'.queue.length = m.queue.length + 1) (hw : m'.writesLeft < m.writesLeft)
    (hr : m'.retriesLeft < m.retriesLeft) : Spends m m' := by
  refine of_lt ?_
  unfold workload
  omega

end Spends

/-- Whatever happens to the queue and to the writes takes away from the work there is, unless a
request comes in. -/
theorem Step.spends (hs : Step m m') (h : Sound m)
    (hlen : m'.desk.tickets.length = m.desk.tickets.length) : Spends m m' := by
  have hkept {f : Ticket P → Ticket P} {k : Nat} (hf : ∀ t, (f t).retries = t.retries)
      (ht : m'.desk.tickets = m.desk.tickets.modify k f) : m'.retriesLeft = m.retriesLeft :=
    retriesLeft_congr hs.config
      ((congrArg (List.map _) ht).trans (m.desk.map_modify k Ticket.retries hf))
  have hset {w : Nat} {s : Session} {ws ws' : WriteState} (hx : m.writes[w]? = some ⟨s, ws⟩)
      (hw : m'.writes = (m.setWrite w ws').writes) (hlt : stagesLeft ws' < stagesLeft ws) :
      m'.writesLeft < m.writesLeft := by
    have hleft : _ + stagesLeft ws = _ := writesLeft_setWrite ws' hx
    rw [writesLeft, ← hw, ← writesLeft] at hleft
    omega
  have hmodify {f : Ticket P → Ticket P} {k : Nat} {u : Ticket P}
      (hu : m.desk.tickets[k]? = some u) (ht : m'.desk.tickets = m.desk.tickets.modify k f) :
      m'.retriesLeft + (m.config.maxWriteRetries - u.retries) =
        m.retriesLeft + (m.config.maxWriteRetries - (f u).retries) :=
    retriesLeft_modify hs.config ht hu
  have hpop {k : Nat} {rest : List Nat} (hq : m.queue = k :: rest) :
      rest.length < m.queue.length := by
    rw [hq, List.length_cons]
    exact Nat.lt_succ_self _
  cases hs with
  | enqueue r => simp [Desk.issue] at hlen
  | settle s o => exact .of_eq rfl rfl (hkept (retries_complete · o) rfl)
  | take k rest u id _ _ hq =>
    exact .of_shorter (hpop hq) (writesLeft_concat rfl).le (hkept retries_takeUp rfl)
  | refuse k rest e _ _ hq =>
    refine .of_shorter (hpop hq) (Nat.le_add_right _ _) (hkept (fun t ↦ ?_) rfl)
    rw [retries_complete, retries_advance]
  | skip k rest _ _ hq => exact .of_shorter (hpop hq) (Nat.le_add_right _ _) rfl
  | stop | leave => exact .of_empty rfl rfl rfl
  | abort w x _ hx hl =>
    obtain ⟨s, ws⟩ := x
    refine .of_stage (Nat.zero_le _) (hset hx rfl ?_) le_rfl
    rcases ws with _ | _ | _ | _
    · decide
    · decide
    · cases hl
    · cases hl
  | start w s hx => exact .of_stage le_rfl (hset hx rfl (by decide)) le_rfl
  | sent w s hx =>
    exact .of_stage le_rfl (hset hx rfl (by decide)) (hkept (retries_advance · .sent) rfl).le
  -- What this adds to the queue is paid for by one of the retries that are left.
  | putBack w s hx hr =>
    obtain ⟨u, hu, -⟩ := h.named hx
    have hlt := ((canRetry_iff hu).1 hr).1
    have hretries := hmodify hu rfl
    rw [retries_putBack] at hretries
    refine .of_retry (List.length_append ..) (hset hx rfl (by decide)) ?_
    omega
  | fail w s e f hx hf =>
    obtain ⟨u, hu, -⟩ := h.named hx
    have hretries := hmodify hu rfl
    have hle : u.retries ≤ (f u).retries := by
      rcases hf with ⟨rfl, -⟩ | ⟨rfl, -⟩
      · exact (retries_complete u _).ge
      · rw [retries_complete, retries_putBack]
        exact Nat.le_succ _
    refine .of_stage le_rfl (hset hx rfl (by decide)) ?_
    omega
  | beginClose =>
    by_cases hu : m.worker = .unstarted
    · exact .of_empty (if_pos hu) rfl rfl
    · exact .of_eq (if_neg hu) rfl rfl
  | _ => exact .of_eq rfl rfl rfl

/-- What a request may come to, its arrival included. -/
def share (config : Config) : Nat := 4 + 3 * config.maxWriteRetries

theorem Step.pays (hs : Step m m') (h : Sound m) :
    m'.workload + (stirs m m').toNat + share m.config * m.desk.tickets.length ≤
      m.workload + share m.config * m'.desk.tickets.length := by
  rcases hs.issues with hlen | ⟨r, htickets, hqueue, hwrites⟩
  · have hspends : _ ≤ _ := hs.spends h hlen
    rw [hlen]
    omega
  · have hstirs : (stirs m m').toNat ≤ 1 := Bool.toNat_le _
    have hretries : m'.retriesLeft = m.retriesLeft + m.config.maxWriteRetries := by
      rw [retriesLeft, htickets, hs.config, List.map_append, List.sum_append]
      rfl
    have hmul : share m.config * (m.desk.tickets.length + 1) =
        share m.config * m.desk.tickets.length + (4 + 3 * m.config.maxWriteRetries) :=
      Nat.mul_succ _ _
    simp only [workload, writesLeft, hwrites, hqueue, htickets, hretries, List.length_append,
      List.length_singleton, hmul]
    omega

theorem Sound.pays_run (h : Sound m) (as : List (Act P)) :
    (m.run as).workload + tally stirs m as + share m.config * m.desk.tickets.length ≤
      m.workload + share m.config * (m.run as).desk.tickets.length := by
  induction as using List.reverseRecOn with
  | nil => exact le_rfl
  | append_singleton as a ih =>
    have hm := h.run as
    have hstep : ((m.run as).act a).workload + (stirs (m.run as) ((m.run as).act a)).toNat +
        share (m.run as).config * (m.run as).desk.tickets.length ≤
          (m.run as).workload + share (m.run as).config * ((m.run as).act a).desk.tickets.length :=
      (act_step hm.filed a).pays { hm with }
    rw [config_run m as h] at hstep
    rw [tally_concat, run_concat]
    omega

theorem tally_stirs_le (config : Config) (as : List (Act P)) :
    tally stirs (make config) as ≤
      share config * ((make config : Courier P).run as).desk.tickets.length := by
  have hall := (Sound.make (P := P) config).pays_run as
  have hnone : (make config : Courier P).workload = 0 := rfl
  have hstart : (make config : Courier P).desk.tickets.length = 0 := rfl
  have hconfig : (make config : Courier P).config = config := rfl
  rw [hnone, hstart, hconfig] at hall
  omega

theorem stirs_startWrite (hx : m.writes[w]? = some x) (hst : x.state = .spawned) :
    stirs m (m.startWrite w) = true := by
  obtain ⟨s, ws⟩ := x
  obtain rfl : ws = .spawned := hst
  have hstart : m.startWrite w = m.setWrite w .started := by simp only [startWrite, hx]
  have hne : (m.setWrite w .started).writes ≠ m.writes := by
    intro heq
    obtain ⟨y, hy, -, ⟨-, hst⟩ | ⟨hne, -⟩⟩ := getElem?_setWrite_of_some w .started hx
    · rw [heq, hx] at hy
      cases Option.some.inj hy
      cases hst
    · exact hne rfl
  rw [hstart, stirs, Bool.or_eq_true, decide_eq_true_eq, decide_eq_true_eq]
  exact .inr hne

theorem queue_takeUp (m : Courier P) (n : Nat) : (m.takeUp n).queue = m.queue := by
  simp only [takeUp]
  split
  · split
    · rw [spawnWrite_eq]
      rfl
    · rfl
  · rfl

theorem stirs_work (h : Sound m) (hu : Unbound m) (ho : m.isOpen = true) (hw : m.canWork = true) :
    stirs m m.work = true := by
  have hd := isOpen_eq_true.1 ho
  cases hwk : m.worker with
  | unstarted | stopped => simp [canWork, hwk] at hw
  | writing w => exact absurd hwk (hu.1 w)
  | settling n => exact absurd hwk (hu.2 n)
  | givenUp n => exact absurd (.inr ⟨n, hwk⟩) (h.worker_of_open ho)
  | waiting =>
    cases hq : m.queue with
    | nil => simp [canWork, hwk, hd, hq] at hw
    | cons n rest =>
      have hwork : m.work = { m with queue := rest }.takeUp n := by simp [work, hwk, hd, hq]
      rw [stirs, hwork, queue_takeUp, hq, Bool.or_eq_true, decide_eq_true_eq]
      exact .inl List.ne_cons_self

theorem exists_stirs (h : Sound m) (hu : Unbound m) (ho : m.isOpen = true) (hr : ¬ AtRest m) :
    stirs m (m.act .work) = true ∨ ∃ w, stirs m (m.act (.startWrite w)) = true := by
  cases hw : m.canWork with
  | true => exact .inl (stirs_work h hu ho hw)
  | false =>
    by_contra hnone
    rw [not_or, not_exists] at hnone
    refine hr ⟨hw, fun x hx hst ↦ ?_⟩
    obtain ⟨w, hw⟩ := List.mem_iff_getElem?.1 hx
    exact hnone.2 w (stirs_startWrite hw hst)

end GameServers.Courier
