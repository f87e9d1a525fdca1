import GameServers.Proofs.Courier.Reports
import GameServers.Proofs.Courier.Routing

namespace GameServers

theorem Registry.WellFiled.eq_empty {r : Registry} (h : r.WellFiled) (he : r.entries = []) :
    r = {} := by
  obtain ⟨bs⟩ := r
  cases bs with
  | nil => rfl
  | cons b bs =>
    have hb : b.sessions = [] := (List.append_eq_nil_iff.1 he).1
    exact absurd hb (h.filled b (.head _))

namespace Courier

variable {P : Protocol} {m m' : Courier P} {n : Nat} {t : Ticket P}

/-- Closed, with a worker that takes up nothing. -/
structure Shut (m : Courier P) : Prop where
  closed : m.isClosed = true
  told : m.shutdown = true
  idle : m.worker = .stopped ∨ ∃ n, m.worker = .givenUp n
  empty : m.desk.registry.entries = []

/-- The worker has gone, and the queue with it. -/
structure Gone (m : Courier P) : Prop extends Shut m where
  stopped : m.worker = .stopped
  unqueued : m.queue = []

theorem Shut.bare_iff : Shut m.bare ↔ Shut m :=
  ⟨fun h ↦ { h with }, fun h ↦ { h with }⟩

theorem Shut.entries_remove (h : Sound m) (hz : Shut m) (s : Session) :
    (m.desk.registry.remove s).entries = [] := by
  rw [h.filed.entries_remove, hz.empty, List.filter_nil]

theorem Step.shut (hs : Step m m') (h : Sound m) (hz : Shut m) : Shut m' := by
  obtain ⟨hc, hd, hi, he⟩ := hz
  have hwaiting : m.worker ≠ .waiting := by rcases hi with hi | ⟨k, hi⟩ <;> simp [hi]
  cases hs with
  | enqueue r hopen =>
    rw [hc] at hopen
    cases hopen
  | settle s o hm =>
    rw [he] at hm
    cases hm
  | take n rest t id hw => exact absurd hw hwaiting
  | refuse n rest e hw => exact absurd hw hwaiting
  | skip n rest hw => exact absurd hw hwaiting
  | release n hn =>
    rcases hi with hi | ⟨k, hi⟩ <;> rcases hn with hn | ⟨w, hn, -⟩ <;> simp [hi] at hn
  | written w hw => rcases hi with hi | ⟨k, hi⟩ <;> simp [hi] at hw
  | unwritten w hw => rcases hi with hi | ⟨k, hi⟩ <;> simp [hi] at hw
  | beginClose hp => simp [Courier.isClosed, hp] at hc
  | stop | leave => exact ⟨hc, hd, .inl rfl, he⟩
  | abort => exact ⟨hc, hd, .inl rfl, he⟩
  | abortWorker n => exact ⟨hc, hd, .inr ⟨n, rfl⟩, he⟩
  | putBack w s => exact ⟨hc, hd, hi, Shut.entries_remove h ⟨hc, hd, hi, he⟩ s⟩
  | fail w s => exact ⟨hc, hd, hi, Shut.entries_remove h ⟨hc, hd, hi, he⟩ s⟩
  | closeRegistry => exact ⟨rfl, hd, hi, rfl⟩
  | endClose => exact ⟨rfl, hd, hi, he⟩
  | drop => exact ⟨hc, rfl, hi, he⟩
  | _ => exact ⟨hc, hd, hi, he⟩

theorem Step.gone (hs : Step m m') (h : Sound m) (hg : Gone m) : Gone m' := by
  have hz := hs.shut h hg.toShut
  obtain ⟨⟨hc, -, -, -⟩, hw, hq⟩ := hg
  cases hs with
  | enqueue r hopen =>
    rw [hc] at hopen
    cases hopen
  | take n rest t id hw' => simp [hw] at hw'
  | refuse n rest e hw' => simp [hw] at hw'
  | skip n rest hw' => simp [hw] at hw'
  | release n hn => rcases hn with hn | ⟨w, hn, -⟩ <;> simp [hw] at hn
  | written w hw' => simp [hw] at hw'
  | unwritten w hw' => simp [hw] at hw'
  | abortWorker n hp hw' => exact absurd hw hw'
  | putBack w s hx hr ho => simp [queueOpen, hw] at ho
  | beginClose hp => simp [Courier.isClosed, hp] at hc
  | stop | leave => exact ⟨hz, rfl, rfl⟩
  | abort => exact ⟨hz, rfl, rfl⟩
  | _ => exact ⟨hz, hw, hq⟩

theorem Sound.shut_run (h : Sound m) (hz : Shut m) (as : List (Act P)) : Shut (m.run as) :=
  h.kept (I := Shut) (fun _ ↦ Shut.bare_iff) (fun hk hs hz ↦ hs.shut hk hz) hz as

theorem Sound.gone_run (h : Sound m) (hg : Gone m) (as : List (Act P)) : Gone (m.run as) :=
  h.kept (I := Gone) (fun _ ↦ ⟨fun h ↦ { h with }, fun h ↦ { h with }⟩)
    (fun hk hs hg ↦ hs.gone hk hg) hg as

theorem send_of_closed (hc : m.isClosed = true) (r : P.Request) (runtime : Bool) :
    m.send r runtime = (m, .error .closed) := by
  simp [send, refusal?, hc]

theorem bare_accept_of_empty (h : Sound m) (he : m.desk.registry.entries = []) (x : Delivery P) :
    (m.accept x).bare = m.bare := by
  have hr := h.filed.eq_empty he
  match x with
  | .ok r => exact bare_accept_of_none fun id _ ↦ by rw [hr]; rfl
  | .error ⟨none, e⟩ => rfl
  | .error ⟨some origin, e⟩ =>
    refine bare_accept_of_no_session ?_
    cases ho : origin.ticket with
    | none => rfl
    | some n => exact h.sessionOf?_of_not_mem fun s hs ↦ by rw [he] at hs; cases hs

theorem timers_of_empty (h : Sound m) (he : m.desk.registry.entries = []) : m.desk.timers = [] := by
  have hp := h.timed
  rw [he] at hp
  exact List.perm_nil.1 hp

theorem runTimer_of_empty (h : Sound m) (he : m.desk.registry.entries = []) (i : Nat) :
    m.desk.runTimer i = m.desk := by
  simp [Desk.runTimer, Desk.timerAt?, timers_of_empty h he]

theorem Shut.work (hz : Shut m) : m.work.desk = m.desk := by
  rcases hz.idle with hi | ⟨n, hi⟩ <;> simp [Courier.work, hi]

theorem Shut.act_quiet (h : Sound m) (hz : Shut m) {a : Act P}
    (ha : ∀ w result, a ≠ .finishWrite w result) (hn : ∀ e, a = .note e → e.report? = none) :
    (m.act a).desk.tickets = m.desk.tickets ∧ (m.act a).reports = m.reports := by
  cases a with
  | send r runtime => simp only [act, send_of_closed hz.closed, and_self]
  | accept x =>
    have hb := bare_accept_of_empty h hz.empty x
    exact ⟨(congrArg (fun k : Courier P ↦ k.desk.tickets) hb :), m.reports_accept x⟩
  | work => exact ⟨congrArg Desk.tickets hz.work, congrArg Desk.reports hz.work⟩
  | startWrite w =>
    simp only [act, startWrite]
    split <;> exact ⟨rfl, rfl⟩
  | finishWrite w result => exact absurd rfl (ha w result)
  | runTimer i =>
    have hr := runTimer_of_empty h hz.empty i
    exact ⟨congrArg Desk.tickets hr, congrArg Desk.reports hr⟩
  | clock time => exact ⟨rfl, rfl⟩
  | schedule agenda => exact ⟨rfl, rfl⟩
  | note e => exact ⟨rfl, m.reports_log (hn e rfl)⟩
  | beginClose => simp only [act, beginClose, hz.closed, if_true, and_self]
  | abortWorker =>
    simp only [act]
    split
    · exact ⟨rfl, m.reports_log rfl⟩
    · exact ⟨rfl, rfl⟩
  | closeRegistry =>
    have hb := m.desk.bare_close
    have hr := m.desk.reports_close fun s hs ↦ by rw [hz.empty] at hs; cases hs
    rw [hz.empty, List.map_nil, List.append_nil] at hr
    simp only [act, hz.closed, if_true]
    exact ⟨(congrArg Desk.tickets hb :), hr⟩
  | endClose =>
    simp only [act]
    split <;> exact ⟨rfl, rfl⟩
  | drop => exact ⟨rfl, rfl⟩

/-- Whatever happens after the close, nothing more is reported. -/
theorem Sound.reports_run (h : Sound m) (hz : Shut m) {as : List (Act P)}
    (hn : ∀ e, .note e ∈ as → e.report? = none) : (m.run as).reports = m.reports := by
  induction as generalizing m with
  | nil => rfl
  | cons a as ih =>
    have hrest := ih (h.act a) (h.shut_run hz [a]) fun e he ↦ hn e (.tail _ he)
    refine hrest.trans ?_
    by_cases ha : ∃ w result, a = .finishWrite w result
    · obtain ⟨w, result, rfl⟩ := ha
      exact m.reports_finishWrite w result
    · refine (hz.act_quiet h (fun w result he ↦ ha ⟨w, result, he⟩) fun e he ↦ ?_).2
      exact hn e (he ▸ .head _)

theorem Step.unanswered (hs : Step m m') (hz : Shut m) (ht : m.desk.tickets[n]? = some t)
    (hno : ∀ r, t.outcome ≠ some (.ok r)) :
    ∃ t', m'.desk.tickets[n]? = some t' ∧ ∀ r, t'.outcome ≠ some (.ok r) := by
  have hmodify (k : Nat) (f : Ticket P → Ticket P)
      (hf : ∀ t r, t.outcome ≠ some (.ok r) → (f t).outcome ≠ some (.ok r)) :
      ∃ t', (m.desk.modify k f).tickets[n]? = some t' ∧ ∀ r, t'.outcome ≠ some (.ok r) := by
    by_cases hk : n = k
    · refine ⟨f t, ?_, fun r ↦ hf t r (hno r)⟩
      rw [← hk]
      exact Desk.getElem?_modify_of_some ht
    · exact ⟨t, (Desk.getElem?_modify_of_ne hk).trans ht, hno⟩
  cases hs with
  | enqueue r hopen =>
    rw [hz.closed] at hopen
    cases hopen
  | settle s o hm =>
    rw [hz.empty] at hm
    cases hm
  | take k rest u id => exact hmodify k _ fun t r h ↦ by rwa [t.outcome_takeUp]
  | refuse k rest e hw hd =>
    rw [hz.told] at hd
    cases hd
  | sent w s => exact hmodify s.ticket _ fun t r h ↦ by rwa [t.outcome_advance]
  | putBack w s => exact hmodify s.ticket _ fun t r h ↦ by rwa [t.outcome_putBack]
  | fail w s e f hw hf =>
    have herror (t : Ticket P) (r : P.Response) (h : t.outcome ≠ some (.ok r)) :
        (t.complete (.error e)).outcome ≠ some (.ok r) := by
      cases ho : t.outcome with
      | none => simp [t.complete_of_none _ ho]
      | some o => rwa [t.complete_of_some _ (by simp [ho])]
    rcases hf with ⟨rfl, -⟩ | ⟨rfl, -⟩
    · exact hmodify s.ticket _ herror
    · exact hmodify s.ticket _ fun t r h ↦ herror _ r (by rwa [t.outcome_putBack])
  | _ => exact ⟨t, ht, hno⟩

/-- After the close no request is answered. -/
theorem Sound.never_answered (h : Sound m) (hz : Shut m) (ht : m.desk.tickets[n]? = some t)
    (ho : t.outcome = none) (as : List (Act P)) {t' : Ticket P} {r : P.Response}
    (ht' : (m.run as).desk.tickets[n]? = some t') : t'.outcome ≠ some (.ok r) := by
  let I (k : Courier P) : Prop :=
    Shut k ∧ ∃ t, k.desk.tickets[n]? = some t ∧ ∀ r, t.outcome ≠ some (.ok r)
  have hrun : I (m.run as) := by
    refine h.kept (fun k ↦ and_congr_left' Shut.bare_iff) (fun hk hs ⟨hz, t, ht, hno⟩ ↦ ?_)
      ⟨hz, t, ht, fun r ↦ by simp [ho]⟩ as
    exact ⟨hs.shut hk hz, hs.unanswered hz ht hno⟩
  obtain ⟨-, u, hu, hno⟩ := hrun
  rw [Option.some.inj (ht'.symm.trans hu)]
  exact hno r

end Courier

end GameServers
