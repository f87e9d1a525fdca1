import GameServers.Proofs.Courier.Closing
import GameServers.Proofs.Courier.OneAtATime

namespace GameServers.Courier

variable {P : Protocol} {m m' : Courier P} {w n : Nat} {t : Ticket P} {s : Session} {e : Failure}
  {x y : Write} {ws : WriteState}

def isWriting (m : Courier P) (n : Nat) : Bool := m.writes.any fun w ↦ w.isLive && w.ticket = n

def FailsIn (m : Courier P) (as : List (Act P)) (n : Nat) (e : Failure) : Prop :=
  ∃ bs w s cs, as = bs ++ .finishWrite w (.error e) :: cs ∧
    (m.run bs).writes[w]? = some ⟨s, .started⟩ ∧ s.ticket = n

theorem isWriting_eq_false : m.isWriting n = false ↔
    ∀ (w : Nat) (x : Write), m.writes[w]? = some x → x.ticket = n → x.isLive = false := by
  unfold isWriting
  rw [List.any_eq_false]
  constructor
  · intro h w x hx hn
    simpa [hn] using h x (List.mem_of_getElem? hx)
  · intro h x hx hlive
    obtain ⟨w, hw⟩ := List.mem_iff_getElem?.1 hx
    obtain ⟨hl, hn⟩ : x.isLive = true ∧ x.ticket = n := by simpa using hlive
    rw [h w x hw hn] at hl
    cases hl

theorem isWriting_of_live (hx : m.writes[w]? = some x) (hl : x.isLive = true) :
    m.isWriting x.ticket = true := by
  by_contra hno
  have hdead := isWriting_eq_false.1 (by simpa using hno) w x hx rfl
  rw [hl] at hdead
  cases hdead

theorem isLive_congr (h : y.state = x.state) : y.isLive = x.isLive := by
  simp only [Write.isLive, h]

theorem live_of_setWrite {k : Nat} (hx : m.writes[k]? = some x) (hlive : x.isLive = true)
    (hy : (m.setWrite k ws).writes[w]? = some y) (hl : y.isLive = true) :
    ∃ z, m.writes[w]? = some z ∧ z.isLive = true ∧ z.ticket = y.ticket := by
  obtain ⟨z, hz, hs, ⟨rfl, -⟩ | ⟨-, hst⟩⟩ := of_getElem?_setWrite hy
  · obtain rfl : z = x := Option.some.inj (hz.symm.trans hx)
    exact ⟨z, hz, hlive, (Write.ticket_congr hs).symm⟩
  · exact ⟨z, hz, (isLive_congr hst).symm.trans hl, (Write.ticket_congr hs).symm⟩

theorem Step.live (hs : Step m m') (hy : m'.writes[w]? = some y) (hl : y.isLive = true) :
    (∃ x, m.writes[w]? = some x ∧ x.isLive = true ∧ x.ticket = y.ticket) ∨
      m.shutdown = false ∧ w = m.writes.length ∧
        m'.worker = if m.config.mode = .synchronous then .writing w else .waiting := by
  cases hs with
  | take k rest u id hw hd =>
    rcases getElem?_concat hy with hy | ⟨rfl, -⟩
    · exact .inl ⟨y, hy, hl, rfl⟩
    · exact .inr ⟨hd, rfl, rfl⟩
  | abort k x hd hx hlive => exact .inl (live_of_setWrite hx hlive hy hl)
  | start k s hx | sent k s hx | putBack k s hx | fail k s e f hx =>
    exact .inl (live_of_setWrite hx rfl hy hl)
  | _ => exact .inl ⟨y, hy, hl, rfl⟩

theorem Step.told (hs : Step m m') (hd : m.shutdown = true) : m'.shutdown = true := by
  cases hs with
  | beginClose | drop => rfl
  | _ => exact hd

theorem Step.isWriting (hs : Step m m') (hd : m.shutdown = true) (hn : m.isWriting n = false) :
    m'.isWriting n = false := by
  rw [isWriting_eq_false] at hn ⊢
  intro w y hy hyn
  by_contra hl
  rcases hs.live hy (by simpa using hl) with ⟨x, hx, hlive, hxn⟩ | ⟨hd', -⟩
  · rw [hn w x hx (hxn.trans hyn)] at hlive
    cases hlive
  · rw [hd] at hd'
    cases hd'

theorem Gone.bare_finishWrite (h : Sound m) (hg : Gone m) (hw : m.writes[w]? = some ⟨s, .started⟩)
    (e : Failure) : ∃ f : Ticket P → Ticket P,
      (∀ t, t.outcome = none → (f t).outcome = some (.error e)) ∧
      (m.finishWrite w (.error e)).bare = { m.bare.setWrite w (.finished false) with
        desk := (m.desk.bare.modify s.ticket f).strike s } := by
  have hcomplete (t : Ticket P) (ho : t.outcome = none) :
      (t.complete (.error e)).outcome = some (.error e) := by
    rw [t.complete_of_none _ ho]
  cases hr : m.canRetry s.ticket with
  | false => exact ⟨_, hcomplete, bare_finishWrite_fail h.filed hw e hr⟩
  | true =>
    have hq : (m.queueOpen && m.queueHasRoom) = false := by simp [queueOpen, hg.stopped]
    refine ⟨_, fun t ho ↦ ?_, bare_finishWrite_full h.filed hw e hr hq⟩
    exact hcomplete _ (t.outcome_putBack.trans ho)

theorem Gone.settled_of_failed (h : Sound m) (hg : Gone m)
    (hw : m.writes[w]? = some ⟨s, .started⟩) (ht : m.desk.tickets[s.ticket]? = some t)
    (ho : t.outcome = none) :
    (∃ t', (m.act (.finishWrite w (.error e))).desk.tickets[s.ticket]? = some t' ∧
      t'.outcome = some (.error e)) ∧
    (m.act (.finishWrite w (.error e))).isWriting s.ticket = false := by
  obtain ⟨f, hf, hb⟩ := hg.bare_finishWrite h hw e
  have htickets : (m.finishWrite w (.error e)).desk.tickets =
      (m.desk.modify s.ticket f).tickets := (congrArg (fun k : Courier P ↦ k.desk.tickets) hb :)
  have hwrites : (m.finishWrite w (.error e)).writes =
      (m.setWrite w (.finished false)).writes := (congrArg writes hb :)
  refine ⟨⟨f t, ?_, hf t ho⟩, ?_⟩
  · exact htickets ▸ Desk.getElem?_modify_of_some ht
  · rw [isWriting_eq_false]
    intro k y hy hyn
    obtain ⟨x, hx, hs, ⟨-, hst⟩ | ⟨hk, hst⟩⟩ := of_getElem?_setWrite (hwrites ▸ hy)
    · simp [Write.isLive, hst]
    · have hxn : x.ticket = s.ticket := (Write.ticket_congr hs).symm.trans hyn
      have hfailed := h.state_of_other hw (by simp) hx hk hxn
      simp [Write.isLive, hst, hfailed]

theorem Gone.unsettled_act (h : Sound m) (hg : Gone m) (ht : m.desk.tickets[n]? = some t)
    (ho : t.outcome = none) {a : Act P}
    (ha : ∀ w e s, a = .finishWrite w (.error e) → m.writes[w]? = some ⟨s, .started⟩ →
      s.ticket ≠ n) :
    ∃ t', (m.act a).desk.tickets[n]? = some t' ∧ t'.outcome = none := by
  by_cases hf : ∃ w result, a = .finishWrite w result
  · obtain ⟨w, result, rfl⟩ := hf
    by_cases hw : ∃ s, m.writes[w]? = some ⟨s, .started⟩
    · obtain ⟨s, hw⟩ := hw
      cases result with
      | ok =>
        have htickets : (m.finishWrite w (.ok ())).desk.tickets =
            (m.desk.modify s.ticket (·.advance .sent)).tickets :=
          (congrArg (fun k : Courier P ↦ k.desk.tickets) (bare_finishWrite_ok hw) :)
        by_cases hn : n = s.ticket
        · subst hn
          exact ⟨_, htickets ▸ Desk.getElem?_modify_of_some ht, (t.outcome_advance _).trans ho⟩
        · exact ⟨t, htickets ▸ (Desk.getElem?_modify_of_ne hn).trans ht, ho⟩
      | error e =>
        obtain ⟨f, -, hb⟩ := hg.bare_finishWrite h hw e
        have htickets : (m.finishWrite w (.error e)).desk.tickets =
            (m.desk.modify s.ticket f).tickets :=
          (congrArg (fun k : Courier P ↦ k.desk.tickets) hb :)
        exact ⟨t, htickets ▸ (Desk.getElem?_modify_of_ne (ha w e s rfl hw).symm).trans ht, ho⟩
    · have hsame : m.act (.finishWrite w result) = m :=
        finishWrite_of_not_started (not_exists.1 hw) result
      rw [hsame]
      exact ⟨t, ht, ho⟩
  · have hn : (m.act a).desk.tickets = m.desk.tickets := by
      cases a with
      | note e => rfl
      | _ => exact (hg.act_quiet h (fun w result he ↦ hf ⟨w, result, he⟩) (by simp)).1
    exact ⟨t, hn ▸ ht, ho⟩

theorem failsIn_cons {a : Act P} {as : List (Act P)} : m.FailsIn (a :: as) n e ↔
    (∃ w s, a = .finishWrite w (.error e) ∧ m.writes[w]? = some ⟨s, .started⟩ ∧ s.ticket = n) ∨
      (m.act a).FailsIn as n e := by
  constructor
  · rintro ⟨bs, w, s, cs, hbs, hw, hs⟩
    cases bs with
    | nil => exact .inl ⟨w, s, (List.cons.inj hbs).1, hw, hs⟩
    | cons b bs =>
      obtain ⟨rfl, rfl⟩ := List.cons.inj hbs
      exact .inr ⟨bs, w, s, cs, rfl, hw, hs⟩
  · rintro (⟨w, s, rfl, hw, hs⟩ | ⟨bs, w, s, cs, rfl, hw, hs⟩)
    · exact ⟨[], w, s, as, rfl, hw, hs⟩
    · exact ⟨a :: bs, w, s, cs, rfl, hw, hs⟩

theorem Gone.isWriting_run (h : Sound m) (hg : Gone m) (hn : m.isWriting n = false)
    (as : List (Act P)) : (m.run as).isWriting n = false := by
  let I (k : Courier P) : Prop := k.shutdown = true ∧ k.isWriting n = false
  have hrun : I (m.run as) := by
    refine h.kept (fun _ ↦ .rfl) (fun hk hs ⟨hd, hn⟩ ↦ ⟨?_, hs.isWriting hd hn⟩) ⟨hg.told, hn⟩ as
    exact hs.told hd
  exact hrun.2

theorem Gone.not_failsIn (h : Sound m) (hg : Gone m) (hn : m.isWriting n = false)
    (as : List (Act P)) : ¬ m.FailsIn as n e := by
  rintro ⟨bs, w, s, cs, -, hw, rfl⟩
  have hlive : (m.run bs).isWriting s.ticket = true := isWriting_of_live hw rfl
  rw [hg.isWriting_run h hn bs] at hlive
  cases hlive

theorem Gone.fate_of_failed (h : Sound m) (hg : Gone m) (hw : m.writes[w]? = some ⟨s, .started⟩)
    (ht : m.desk.tickets[s.ticket]? = some t) (ho : t.outcome = none) (as : List (Act P)) :
    (∃ t', (m.run (.finishWrite w (.error e) :: as)).desk.tickets[s.ticket]? = some t' ∧
      t'.outcome = some (.error e)) ∧
    ∀ e', ¬ (m.act (.finishWrite w (.error e))).FailsIn as s.ticket e' := by
  have ha := h.act (.finishWrite w (.error e))
  have hga := h.gone_run hg [.finishWrite w (.error e)]
  obtain ⟨⟨u, hu, hue⟩, hn⟩ := hg.settled_of_failed (e := e) h hw ht ho
  constructor
  · obtain ⟨v, hv, hl⟩ := ha.leads_run as hu
    exact ⟨v, hv, hl.2 _ hue⟩
  · intro e'
    exact hga.not_failsIn ha hn as

/-- A request that is unsettled when the worker has gone is settled by a write of its own that fails,
and by nothing else. -/
theorem Gone.fate (h : Sound m) (hg : Gone m) (ht : m.desk.tickets[n]? = some t)
    (ho : t.outcome = none) (as : List (Act P)) :
    ∃ t', (m.run as).desk.tickets[n]? = some t' ∧
      (∀ e, m.FailsIn as n e → t'.outcome = some (.error e)) ∧
      ((∀ e, ¬ m.FailsIn as n e) → t'.outcome = none) := by
  induction as generalizing m t with
  | nil =>
    refine ⟨t, ht, ?_, fun _ ↦ ho⟩
    rintro e ⟨bs, w, s, cs, hbs, -⟩
    cases bs <;> cases hbs
  | cons a as ih =>
    by_cases hf : ∃ w e s, a = .finishWrite w (.error e) ∧ m.writes[w]? = some ⟨s, .started⟩ ∧
      s.ticket = n
    · obtain ⟨w, e, s, rfl, hw, rfl⟩ := hf
      obtain ⟨⟨v, hv, hve⟩, hlast⟩ := hg.fate_of_failed (e := e) h hw ht ho as
      refine ⟨v, hv, ?_, ?_⟩
      · intro e' hf
        rcases failsIn_cons.1 hf with ⟨w', s', he, -⟩ | hf
        · cases he
          exact hve
        · exact absurd hf (hlast e')
      · intro hno
        exact absurd (failsIn_cons.2 (.inl ⟨w, s, rfl, hw, rfl⟩)) (hno e)
    · have hother : ∀ w e s, a = .finishWrite w (.error e) →
          m.writes[w]? = some ⟨s, .started⟩ → s.ticket ≠ n := by
        intro w e s ha hw hn
        exact hf ⟨w, e, s, ha, hw, hn⟩
      obtain ⟨u, hu, huo⟩ := hg.unsettled_act h ht ho hother
      obtain ⟨v, hv, hfail, hnone⟩ := ih (h.act a) (h.gone_run hg [a]) hu huo
      refine ⟨v, hv, ?_, ?_⟩
      · intro e hf
        rcases failsIn_cons.1 hf with ⟨w, s, rfl, hw, hn⟩ | hf
        · exact absurd hn (hother w e s rfl hw)
        · exact hfail e hf
      · intro hno
        apply hnone
        intro e hf
        exact hno e (failsIn_cons.2 (.inr hf))

/-- When the worker has gone, a request that is not settled counts as closed, unless a write of its
own goes on. -/
theorem Gone.outcome?_cases (hg : Gone m) (ht : m.desk.tickets[n]? = some t) :
    (∀ o, t.outcome = some o → m.outcome? n = some o) ∧
      (t.outcome = none → m.outcome? n = if m.isWriting n then none else some (.error .closed)) := by
  have hheld : m.isHeld n = m.isWriting n := by
    simp [isHeld, hg.unqueued, workerTicket?, hg.stopped, isWriting]
  have hkeeps : m.desk.keeps n = false := by simp [Desk.keeps, hg.empty]
  constructor
  · intro o ho
    simp [outcome?, Desk.outcome?, ht, ho]
  · intro ho
    simp [outcome?, Desk.outcome?, ht, ho, hheld, hkeeps]

theorem Gone.rejected (h : Sound m) (hg : Gone m) (ht : m.desk.tickets[n]? = some t)
    (ho : t.outcome = none) (as : List (Act P)) :
    (∀ e, m.FailsIn as n e → (m.run as).outcome? n = some (.error e)) ∧
      ((∀ e, ¬ m.FailsIn as n e) → (m.run as).outcome? n =
        if (m.run as).isWriting n then none else some (.error .closed)) ∧
      (m.isWriting n = false → (m.run as).outcome? n = some (.error .closed)) := by
  obtain ⟨t', ht', hfails, hnone⟩ := hg.fate h ht ho as
  obtain ⟨hsome, hclosed⟩ := (h.gone_run hg as).outcome?_cases ht'
  refine ⟨fun e hf ↦ hsome _ (hfails e hf), fun hf ↦ hclosed (hnone hf), fun hn ↦ ?_⟩
  have hnever (e : Failure) : ¬ m.FailsIn as n e := hg.not_failsIn h hn as
  rw [hclosed (hnone hnever), hg.isWriting_run h hn as]
  rfl

/-- The worker waits for the write of the request at hand; no other write of a request that is
unsettled goes on. -/
def Attended (m : Courier P) : Prop :=
  m.shutdown = false → ∀ (w : Nat) (x : Write), m.writes[w]? = some x → x.isLive = true →
    m.worker = .writing w ∨ ∃ t, m.desk.tickets[x.ticket]? = some t ∧ t.outcome ≠ none

theorem Step.attended (hs : Step m m') (h : Sound m) (hc : m.config.mode = .synchronous)
    (ha : Attended m) : Attended m' := by
  intro hd' w y hy hl
  have hd : m.shutdown = false := by
    by_contra hno
    rw [hs.told (by simpa using hno)] at hd'
    cases hd'
  rcases hs.live hy hl with ⟨x, hx, hlive, hxy⟩ | ⟨-, -, hw⟩
  · rw [← hxy]
    rcases ha hd w x hx hlive with hw | ⟨t, ht, ho⟩
    · have hresult : m.writeResult? w = none := by
        obtain ⟨s, ws⟩ := x
        cases ws <;> simp_all [writeResult?, Write.isLive]
      cases hs with
      | enqueue r => simp [hw]
      | take n rest u id hw' => simp [hw] at hw'
      | release n hn hdone =>
        rcases hn with hn | ⟨v, hv, rfl⟩
        · simp [hw] at hn
        · obtain rfl : w = v := by simpa [hw] using hv
          obtain ⟨t, ht, -⟩ := h.named hx
          have hdone' : t.status = .done := by
            simpa [Desk.isDone, writeTicket_of_some hx, ht, Ticket.isDone] using hdone
          have hsome := (h.coherent ht).1 hdone'
          exact .inr ⟨t, ht, fun ho ↦ by rw [ho] at hsome; cases hsome⟩
      | written v hv hr =>
        obtain rfl : w = v := by simpa [hw] using hv
        simp [hresult] at hr
      | unwritten v hv hr =>
        obtain rfl : w = v := by simpa [hw] using hv
        simp [hresult] at hr
      | stop hd'' => simp [hd] at hd''
      | abort k x hd'' => simp [hd] at hd''
      | leave n hn => simp [hw] at hn
      | beginClose hp => cases hd'
      | abortWorker n hp => simp [h.told (.inl hp)] at hd
      | _ => exact .inl hw
    · obtain ⟨t', ht', hl⟩ := hs.leads ht
      obtain ⟨o, ho⟩ := Option.ne_none_iff_exists'.1 ho
      exact .inr ⟨t', ht', by simp [hl.2 o ho]⟩
  · rw [if_pos hc] at hw
    exact .inl hw

theorem Attended.run (config : Config) (hc : config.mode = .synchronous) (as : List (Act P)) :
    Attended ((make config : Courier P).run as) := by
  let I (k : Courier P) : Prop := k.config.mode = .synchronous ∧ Attended k
  have hrun : I ((make config : Courier P).run as) := by
    refine (Sound.make config).kept (fun _ ↦ .rfl) (fun hk hs ⟨hc, ha⟩ ↦ ?_) ⟨hc, ?_⟩ as
    · exact ⟨hs.config ▸ hc, hs.attended hk hc ha⟩
    · intro _ w x hx
      cases hx
  exact hrun.2

end GameServers.Courier
