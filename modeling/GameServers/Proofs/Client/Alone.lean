import GameServers.Proofs.Client.Course
import GameServers.Proofs.Courier.Progress

namespace GameServers.World

variable {c : Client} {w : World c} {i j n : Nat} {expects : c.Pending → c.P.Request → Prop}

theorem length_requests (w : World c) : w.requests.length = w.courier.desk.tickets.length := by
  simp [requests, Courier.ledger, Desk.ledger]

theorem bare_refresh (w : World c) : w.refresh.courier.bare = w.courier.bare := by
  have hw (m : Courier c.P) : m.wakeWorker.bare = m.bare := by
    unfold Courier.wakeWorker
    split <;> rfl
  exact (hw _).trans (foldl_keeps Courier.bare (fun m i ↦ m.bare_wake (.call i)) _ _)

theorem bare_report (w : World c) (events : List (Event c.P)) :
    (w.report events).courier.bare = w.courier.bare :=
  foldl_keeps Courier.bare Courier.bare_log events w.courier

theorem requests_congr {w w' : World c} (h : w'.courier.bare = w.courier.bare) :
    w'.requests = w.requests := congrArg (·.ledger.map Prod.fst) h

theorem requests_make {move : Move c.P c.State c.Pending c.Result}
    (hr : w.courier.refusal? true = none) :
    (w.make i move).requests = w.requests ++ move.turn.request?.toList := by
  have hb := bare_report { w with state := move.state } move.events
  have hr' : ({ w with state := move.state }.report move.events).courier.refusal? true = none :=
    (congrArg (·.refusal? true) hb).trans hr
  have hq : ({ w with state := move.state }.report move.events).requests = w.requests :=
    congrArg (·.ledger.map Prod.fst) hb
  unfold make
  split
  · next ht =>
    rw [ht]
    exact hq.trans (List.append_nil _).symm
  · next q p ht =>
    rw [ht, ← hq]
    have hs := Courier.ledger_send ({ w with state := move.state }.report move.events).courier q true
    rw [hr'] at hs
    exact (congrArg (List.map Prod.fst) hs).trans List.map_append

theorem calls_make {move : Move c.P c.State c.Pending c.Result} {q : c.P.Request} {p : c.Pending}
    (hr : w.courier.refusal? true = none) (ht : move.turn = .ask q p) :
    (w.make i move).calls = w.calls.set i (.waiting (.ok w.courier.desk.tickets.length) p) := by
  have hb := bare_report { w with state := move.state } move.events
  have hr' : ({ w with state := move.state }.report move.events).courier.refusal? true = none :=
    (congrArg (·.refusal? true) hb).trans hr
  have hlen : ({ w with state := move.state }.report move.events).courier.desk.tickets.length =
      w.courier.desk.tickets.length := congrArg (·.desk.tickets.length) hb
  simp only [make, ht, Courier.send, hr', hlen]
  rfl

def Awaits (w : World c) (i n : Nat) : Prop := ∃ p, w.calls[i]? = some (.waiting (.ok n) p)

theorem owned_make {move : Move c.P c.State c.Pending c.Result} {t : Ticket c.P}
    (hi : i < w.calls.length) (hn : w.courier.desk.tickets.length ≤ n)
    (ht : (w.make i move).courier.desk.tickets[n]? = some t) :
    (w.make i move).Awaits i n := by
  have hb := bare_report { w with state := move.state } move.events
  let k := ({ w with state := move.state }.report move.events).courier
  have htickets : k.desk.tickets = w.courier.desk.tickets := congrArg (·.desk.tickets) hb
  have hold (hk : k.desk.tickets[n]? = some t) : False := by
    have := (List.getElem?_eq_some_iff.1 (htickets ▸ hk)).1
    omega
  cases hturn : move.turn with
  | answer result =>
    simp only [make, hturn] at ht
    exact (hold ht).elim
  | ask q p =>
    have hmake : w.make i move = { w with
        state := move.state
        courier := (k.send q true).1
        calls := w.calls.set i (.waiting (k.send q true).2 p) } := by
      simp only [make, hturn]
      rfl
    rw [hmake] at ht ⊢
    rcases k.send_cases q true with ⟨-, hs⟩ | ⟨e, -, -, hs⟩
    · refine ⟨p, ?_⟩
      have hlen : (k.enqueue q).desk.tickets.length = k.desk.tickets.length + 1 :=
        (congrArg (·.desk.tickets.length) (k.bare_enqueue q)).trans List.length_append
      have hlt := (List.getElem?_eq_some_iff.1 ht).1
      have hlen' : k.desk.tickets.length = w.courier.desk.tickets.length :=
        congrArg List.length htickets
      have hnew : n = k.desk.tickets.length := by
        rw [hs] at hlt
        change n < (k.enqueue q).desk.tickets.length at hlt
        omega
      rw [hs, hnew]
      exact List.getElem?_set_self hi
    · exact (hold (hs ▸ ht)).elim

/-- A client that was never closed. -/
structure Open (expects : c.Pending → c.P.Request → Prop) (w : World c) : Prop
    extends Asking expects w where
  allHeard : w.AllHeard
  opened : w.courier.shutdown = false
  minds : w.courier.Minds
  /-- Some call waits for every request that has no outcome. -/
  owned : ∀ {n : Nat} {t : Ticket c.P}, w.courier.desk.tickets[n]? = some t → t.outcome = none →
    ∃ i, w.Awaits i n

theorem requests_of_silent {rs : List c.P.Response} {w' : World c} (h : Goes [] rs w w') :
    w'.requests = w.requests :=
  Courier.RunsBy.kept (I := (·.ledger.map Prod.fst = w.requests)) h
    (fun _ _ ha hk ↦ (Courier.requests_act ha.1).trans hk) rfl

namespace Open

variable {a : Act c} {t : Ticket c.P}

theorem of_make {config : Config} (hw : w.courier = Courier.make config) (hn : w.calls = [])
    (hs : w.AllHeard) : Open expects w where
  toAsking := .of_make hw hn
  allHeard := hs
  opened := by rw [hw]; rfl
  minds := hw ▸ .make config
  owned ht := by rw [hw] at ht; cases ht

theorem ne_closing (h : Open expects w) : w.calls[i]? ≠ some .closing := by
  intro hc
  have htold := h.sound.told (.inl (Courier.ne_running (h.closing hc)))
  rw [h.opened] at htold
  cases htold

theorem goes (h : Open expects w) (ha : a ≠ .close) :
    Goes (w.asked a).toList (w.arrivals a) w (w.act a) :=
  goes_act h.allHeard ha fun _ _ ↦ h.ne_closing

theorem outcome_of_resumption {x : Resumption c} (h : Open expects w)
    (hx : w.resumption? i a = some x) (hi : w.Awaits i n)
    (ht : w.courier.desk.tickets[n]? = some t) : t.outcome = some x.outcome := by
  obtain ⟨p, hi⟩ := hi
  obtain ⟨-, -, ticket, hi', ho⟩ := resumption?_eq_some hx
  have hcall := Option.some.inj (hi'.symm.trans hi)
  injection hcall with hticket
  rw [hticket] at ho
  exact (h.sound.outcome?_eq (Courier.isOpen_eq_true.2 h.opened) ht).symm.trans ho

theorem makes_or_silent (w : World c) (ha : a ≠ .close) : w.asked a = none ∨
    ∃ (k : World c) (i : Nat) (move : Move c.P c.State c.Pending c.Result),
      k.courier = w.courier ∧ i < k.calls.length ∧ w.act a = (k.make i move).refresh := by
  cases a with
  | start call =>
    exact .inr ⟨w.addCall .closed, w.calls.length, _, rfl, by simp [addCall], rfl⟩
  | close => exact absurd rfl ha
  | task t =>
    cases t with
    | call i =>
      cases hx : w.resumption? i (.task (.call i)) with
      | none => exact .inl (by simp [asked, hx])
      | some x =>
        obtain ⟨-, -, ticket, hi, -⟩ := resumption?_eq_some hx
        refine .inr ⟨w, i, x.move, rfl, (List.getElem?_eq_some_iff.1 hi).1, ?_⟩
        exact congrArg refresh (resumeCall_of_some hx)
    | _ => exact .inl rfl
  | _ => exact .inl rfl

theorem owned_act (h : Open expects w) (ha : a ≠ .close) (hn : w.courier.desk.tickets.length ≤ n)
    (ht : (w.act a).courier.desk.tickets[n]? = some t) : ∃ i, (w.act a).Awaits i n := by
  rcases makes_or_silent w ha with hnone | ⟨k, i, move, hk, hi, hact⟩
  · have hr := h.goes ha
    rw [hnone] at hr
    have hlen := congrArg List.length (requests_of_silent hr)
    rw [length_requests, length_requests] at hlen
    have := (List.getElem?_eq_some_iff.1 ht).1
    omega
  · rw [hact] at ht ⊢
    have hb := congrArg (·.desk.tickets[n]?) (bare_refresh (k.make i move))
    exact ⟨i, owned_make hi (hk ▸ hn) (hb.symm.trans ht)⟩

theorem act (h : Open expects w) (hc : c.AsksFor expects) (ha : a ≠ .close) :
    Open expects (w.act a) where
  toAsking := h.toAsking.act hc a
  allHeard := h.allHeard.act a
  opened := Courier.RunsBy.kept (I := (·.shutdown = false)) (h.goes ha)
    (fun _ _ ha hk ↦ (Courier.shutdown_act ha.2).trans hk) h.opened
  minds := by
    have hI := Courier.RunsBy.kept (I := fun k ↦ k.Sound ∧ k.Minds) (h.goes ha)
      (fun _ a _ hk ↦ ⟨hk.1.act a, hk.2.act hk.1 a⟩) ⟨h.sound, h.minds⟩
    exact hI.2
  owned {n t'} ht' ho := by
    rcases Nat.lt_or_ge n w.courier.desk.tickets.length with hlt | hge
    · obtain ⟨u, hu, hl⟩ := (h.goes ha).runs.leads h.sound (List.getElem?_eq_getElem hlt)
      obtain rfl : u = t' := Option.some.inj (hu.symm.trans ht')
      have hopen : w.courier.desk.tickets[n].outcome = none := by
        by_contra hne
        obtain ⟨o, hno⟩ := Option.ne_none_iff_exists'.1 hne
        cases ho.symm.trans (hl.2 o hno)
      obtain ⟨i, p, hi⟩ := h.owned (List.getElem?_eq_getElem hlt) hopen
      have hnone : w.resumption? i a = none := by
        by_contra hne
        obtain ⟨x, hx⟩ := Option.ne_none_iff_exists'.1 hne
        cases hopen.symm.trans
          (h.outcome_of_resumption hx ⟨p, hi⟩ (List.getElem?_eq_getElem hlt))
      exact ⟨i, p, (getElem?_calls_act (List.getElem?_eq_some_iff.1 hi).1 h.ne_closing hnone).trans hi⟩
    · exact h.owned_act ha hge ht'

theorem perform (h : Open expects w) (hc : c.AsksFor expects) {as : List (Act c)}
    (has : ∀ a ∈ as, a ≠ .close) : Open expects (w.perform as) := by
  induction as generalizing w with
  | nil => exact h
  | cons a as ih => exact ih (h.act hc (has a (.head _))) fun b hb ↦ has b (.tail _ hb)

end Open

def Act.Continues : Act c → Prop
  | .start _ | .close => False
  | _ => True

theorem Act.Continues.ne_close {a : Act c} (ha : a.Continues) : a ≠ .close := by
  rintro rfl
  exact ha

def Idle (w : World c) : Prop :=
  ∀ (i : Nat) (ticket : Except Failure Nat) (p : c.Pending), w.calls[i]? ≠ some (.waiting ticket p)

/-- No call but one waits for anything, and its request was not refused. -/
structure Alone (expects : c.Pending → c.P.Request → Prop) (w : World c) (i : Nat) : Prop
    extends Open expects w where
  only : ∀ {j : Nat} {ticket : Except Failure Nat} {p : c.Pending},
    w.calls[j]? = some (.waiting ticket p) → j = i ∧ ∃ n, ticket = .ok n

theorem only_make {move : Move c.P c.State c.Pending c.Result}
    (hr : w.courier.refusal? true = none)
    (hothers : ∀ (j : Nat) (ticket : Except Failure Nat) (p : c.Pending), j ≠ i →
      w.calls[j]? ≠ some (.waiting ticket p)) {ticket : Except Failure Nat} {p : c.Pending}
    (hj : (w.make i move).calls[j]? = some (.waiting ticket p)) : j = i ∧ ∃ n, ticket = .ok n := by
  by_cases hji : j = i
  · subst hji
    refine ⟨rfl, ?_⟩
    cases ht : move.turn with
    | answer result =>
      have hcalls : (w.make j move).calls = w.calls.set j (.over result) := by
        simp only [make, ht]
        rfl
      rw [hcalls, List.getElem?_set] at hj
      split at hj
      · split at hj <;> cases hj
      · contradiction
    | ask q p' =>
      rw [calls_make hr ht, List.getElem?_set] at hj
      split at hj
      · split at hj
        · injection Option.some.inj hj with hticket
          exact ⟨_, hticket.symm⟩
        · cases hj
      · contradiction
  · exact absurd ((getElem?_calls_make (Ne.symm hji) move).symm.trans hj) (hothers j ticket p hji)

namespace Open

theorem refusal?_of_idle (h : Open expects w) (hi : w.Idle) : w.courier.refusal? true = none := by
  refine h.sound.refusal?_eq_none h.opened fun t ht ho ↦ ?_
  obtain ⟨n, hn⟩ := List.mem_iff_getElem?.1 ht
  obtain ⟨i, p, hp⟩ := h.owned hn ho
  exact hi i _ p hp

theorem start (h : Open expects w) (hc : c.AsksFor expects) (hi : w.Idle) (call : c.Call) :
    Alone expects (w.act (.start call)) w.calls.length ∧
      (w.act (.start call)).requests =
        w.requests ++ (c.begin w.net call w.state).turn.request?.toList := by
  have hr : (w.addCall .closed).courier.refusal? true = none := h.refusal?_of_idle hi
  refine ⟨{ h.act hc (a := .start call) (by simp) with only := fun hj ↦ ?_ }, ?_⟩
  · refine only_make (w := w.addCall .closed) hr (fun j ticket p hji hj ↦ ?_) hj
    rcases Courier.getElem?_concat hj with hj | ⟨hlen, -⟩
    · exact hi j ticket p hj
    · exact hji hlen
  · exact (requests_congr (bare_refresh _)).trans (requests_make hr)

end Open

namespace Alone

theorem refusal?_of_resumption {a : Act c} {x : Resumption c} (h : Alone expects w i)
    (hx : w.resumption? i a = some x) : w.courier.refusal? true = none := by
  refine h.sound.refusal?_eq_none h.opened fun t ht ho ↦ ?_
  obtain ⟨n, hn⟩ := List.mem_iff_getElem?.1 ht
  obtain ⟨j, p, hj⟩ := h.owned hn ho
  obtain ⟨rfl, -⟩ := h.only hj
  cases ho.symm.trans (h.outcome_of_resumption hx ⟨p, hj⟩ hn)

theorem calls_act {a : Act c} (ha : a.Continues) (hn : ∀ j, w.resumption? j a = none)
    (hc : ∀ j : Nat, w.calls[j]? ≠ some .closing) : (w.act a).calls = w.calls ∧ w.asked a = none := by
  cases a with
  | start | close => cases ha
  | task t =>
    cases t with
    | worker | timer | attend => exact ⟨rfl, rfl⟩
    | write n => exact ⟨(Follows.runWrite w n).2, rfl⟩
    | reader r => exact ⟨(Follows.mapTransport w _).2, rfl⟩
    | call j =>
      refine ⟨congrArg (·.refresh.calls) (resumeCall_of_none (hn j) (hc j)), ?_⟩
      rw [asked, hn j]
      rfl
  | signal s => exact ⟨(Follows.hear w s).2, rfl⟩
  | turn => exact ⟨(Follows.takeTurn w).2, rfl⟩
  | network | clock | schedule => exact ⟨rfl, rfl⟩

theorem act (h : Alone expects w i) (hc : c.AsksFor expects) {a : Act c} (ha : a.Continues) :
    Alone expects (w.act a) i ∧ (w.act a).requests =
      w.requests ++ ((w.resumption? i a).bind (·.move.turn.request?)).toList := by
  have hopen : Open expects (w.act a) := h.toOpen.act hc ha.ne_close
  cases hx : w.resumption? i a with
  | some x =>
    obtain ⟨rfl, -⟩ := resumption?_eq_some hx
    have hr := h.refusal?_of_resumption hx
    have hact : w.act (.task (.call i)) = (w.make i x.move).refresh :=
      congrArg refresh (resumeCall_of_some hx)
    refine ⟨{ hopen with only := fun hj ↦ ?_ }, ?_⟩
    · rw [hact] at hj
      exact only_make hr (fun j _ _ hji hj ↦ hji (h.only hj).1) hj
    · rw [hact]
      exact (requests_congr (bare_refresh _)).trans (requests_make hr)
  | none =>
    have hn (j : Nat) : w.resumption? j a = none := by
      by_contra hne
      obtain ⟨x, hj⟩ := Option.ne_none_iff_exists'.1 hne
      obtain ⟨-, -, ticket, hcall, -⟩ := resumption?_eq_some hj
      obtain ⟨rfl, -⟩ := h.only hcall
      cases hj.symm.trans hx
    obtain ⟨hcalls, hasked⟩ := calls_act ha hn fun _ ↦ h.ne_closing
    have hgoes := h.goes ha.ne_close
    rw [hasked] at hgoes
    refine ⟨{ hopen with only := fun hj ↦ h.only (hcalls ▸ hj) }, ?_⟩
    exact (requests_of_silent hgoes).trans (List.append_nil _).symm

/-- In every run the requests are those that the call makes as it goes on. -/
theorem perform (h : Alone expects w i) (hc : c.AsksFor expects) {as : List (Act c)}
    (has : ∀ a ∈ as, a.Continues) : Alone expects (w.perform as) i ∧ (w.perform as).requests =
      w.requests ++ (resumptions i w as).filterMap (·.move.turn.request?) := by
  induction as generalizing w with
  | nil => exact ⟨h, (List.append_nil _).symm⟩
  | cons a as ih =>
    obtain ⟨hact, hreq⟩ := h.act hc (has a (.head _))
    obtain ⟨hrun, hrest⟩ := ih hact fun b hb ↦ has b (.tail _ hb)
    refine ⟨hrun, hrest.trans ?_⟩
    rw [hreq, List.append_assoc, resumptions, List.filterMap_append]
    cases w.resumption? i a with
    | none => simp
    | some x => cases hx : x.move.turn.request? <;> simp [hx]

end Alone

/-- The worker takes its turn, a response comes, and a call goes on. -/
def round (i : Nat) (r : c.P.Response) : List (Act c) :=
  [.task .worker, .signal (.delivery (.ok r)), .task (.call i)]

/-- The worker takes its turn, no response comes in time, and a call goes on. The timer of its request
goes to sleep, and fires when it runs again. -/
def silence (i index : Nat) (time : Time) : List (Act c) :=
  [.task .worker, .task (.timer index), .clock time, .task (.timer index), .task (.call i)]

/-- Whatever has happened to the request of a call, the call can go on: with the outcome of the
request, or else with each response that has its id and with a timeout. -/
def GoesOn (w : World c) (i : Nat) (q : c.P.Request) (p : c.Pending) : Prop :=
  (∃ o, resumptions i w [.task (.call i)] = [⟨p, o, w.state⟩]) ∨
  (∀ r, (Envelope.response r : Envelope c.P).sessionId = (Envelope.request q).sessionId →
    resumptions i w (round i r) = [⟨p, .ok r, w.state⟩]) ∧
  ∃ time index id elapsed,
    resumptions i w (silence i index time) = [⟨p, .error (.readTimeout id elapsed), w.state⟩]

theorem Alone.lone {t : Ticket c.P} {p : c.Pending} (h : Alone expects w i)
    (hi : w.calls[i]? = some (.waiting (.ok n) p)) (ht : w.courier.desk.tickets[n]? = some t)
    (ho : t.outcome = none) : w.courier.Lone n t.request where
  sound := h.sound
  minds := h.minds
  opened := h.opened
  waits := ⟨t, ht, rfl, ho⟩
  sole k u hu hn := by
    obtain ⟨j, p', hj⟩ := h.owned hu hn
    obtain ⟨rfl, -⟩ := h.only hj
    injection Option.some.inj (hj.symm.trans hi) with hk
    injection hk

theorem resumption?_of_outcome {w : World c} {p : c.Pending} {o : Outcome c.P}
    (hi : w.calls[i]? = some (.waiting (.ok n) p)) (ho : w.courier.outcome? n = some o) :
    w.resumption? i (.task (.call i)) = some ⟨p, o, w.state⟩ := by
  have ho' : w.courier.outcomeOf? (.ok n) = some o := ho
  simp only [resumption?, if_true, hi, ho']
  rfl

theorem outcome?_refresh (w : World c) (n : Nat) :
    w.refresh.courier.outcome? n = w.courier.outcome? n :=
  congrArg (·.outcome? n) (bare_refresh w)

theorem Open.outcome?_act {a : Act c} {o : Outcome c.P} (h : Open expects w)
    (hc : c.AsksFor expects) (ha : a ≠ .close) (hn : n < w.courier.desk.tickets.length)
    (ho : w.courier.outcome? n = some o) : (w.act a).courier.outcome? n = some o := by
  have hopen := h.act hc ha
  have ht := List.getElem?_eq_getElem hn
  obtain ⟨t', ht', hl⟩ := (h.goes ha).runs.leads h.sound ht
  have hout := (h.sound.outcome?_eq (Courier.isOpen_eq_true.2 h.opened) ht).symm.trans ho
  exact (hopen.sound.outcome?_eq (Courier.isOpen_eq_true.2 hopen.opened) ht').trans (hl.2 o hout)

/-- The timer of a session goes to sleep if it is not due, and fires when it is. -/
theorem Alone.timesOut {q : c.P.Request} {s : Session} (h : Alone expects w i)
    (hc : c.AsksFor expects) (hl : w.courier.Lone n q)
    (hs : s ∈ w.courier.desk.registry.entries) (hsn : s.ticket = n) : ∃ time elapsed,
    (w.perform [.task (.timer s.index), .clock time, .task (.timer s.index)]).courier.outcome? n =
      some (.error (.readTimeout s.id elapsed)) := by
  obtain ⟨t, ht, -⟩ := hl.waits
  have hn := (List.getElem?_eq_some_iff.1 ht).1
  let slept := w.act (.task (.timer s.index))
  have hslept : Alone expects slept i := (h.act hc (a := .task (.timer s.index)) trivial).1
  have hlength : n < slept.courier.desk.tickets.length := by
    obtain ⟨t', ht', -⟩ := (h.goes (a := .task (.timer s.index)) (by simp)).runs.leads h.sound ht
    exact (List.getElem?_eq_some_iff.1 ht').1
  have hb : slept.courier.bare = (w.courier.mapDesk (·.runTimer s.index)).bare :=
    bare_refresh (w.mapCourier fun m ↦ m.mapDesk (·.runTimer s.index))
  by_cases hd : w.courier.desk.dueAt s.index ≤ w.courier.desk.now
  · have hfired : slept.courier.outcome? n = _ :=
      (outcome?_refresh (w.mapCourier fun m ↦ m.mapDesk (·.runTimer s.index)) n).trans
        (hl.runTimer hs hsn hd)
    have hclock := hslept.outcome?_act hc (a := .clock 0) (by simp) hlength hfired
    exact ⟨0, _, (hslept.act hc (a := .clock 0) trivial).1.outcome?_act hc
      (a := .task (.timer s.index)) (by simp) hlength hclock⟩
  · obtain ⟨hl', hs', hnaps⟩ := hl.doze hs (Nat.lt_of_not_le hd)
    have hlone : slept.courier.Lone n q := hl'.congr hb
    let due := slept.courier.desk.dueAt s.index
    let late := slept.act (.clock due)
    have hlate : late.courier.Lone n q := hlone.act (a := .clock due) trivial rfl
    have hmem : s ∈ late.courier.desk.registry.entries :=
      (congrArg (·.desk.registry.entries) hb).symm ▸ hs'
    have hslept' : slept.courier.desk.naps s.index ≠ none :=
      (congrArg (·.desk.naps s.index) hb).symm ▸ hnaps
    have hdue : late.courier.desk.dueAt s.index ≤ late.courier.desk.now := by
      have hfixed : late.courier.desk.dueAt s.index = due := Desk.dueAt_of_slept hslept' rfl rfl
      exact hfixed.trans_le (le_max_right _ _)
    exact ⟨due, _, (outcome?_refresh (late.mapCourier fun m ↦ m.mapDesk (·.runTimer s.index)) n).trans
      (hlate.runTimer hmem hsn hdue)⟩

theorem Alone.goesOn {q : c.P.Request} {p : c.Pending} (h : Alone expects w i)
    (hc : c.AsksFor expects) (hP : Courier.NamesAll c.P) (hs : w.Shows i (.ask q p)) : w.GoesOn i q p := by
  obtain ⟨ticket, hi, hq⟩ := hs
  obtain ⟨-, n, rfl⟩ := h.only hi
  obtain ⟨t, ht, rfl⟩ := hq n rfl
  cases ho : t.outcome with
  | some o =>
    have hout : w.courier.outcome? n = some o :=
      (h.sound.outcome?_eq (Courier.isOpen_eq_true.2 h.opened) ht).trans ho
    refine .inl ⟨o, ?_⟩
    rw [resumptions, resumption?_of_outcome hi hout]
    rfl
  | none =>
    have hl := h.lone hi ht ho
    obtain ⟨hl', s, hs, hsn⟩ := hl.runWorker hP
    -- The worker has taken its turn.
    let k := w.act (.task .worker)
    have hb : k.courier.bare = w.courier.runWorker.bare := bare_refresh _
    have hk : k.courier.Lone n t.request := hl'.congr hb
    have hsk : s ∈ k.courier.desk.registry.entries :=
      (congrArg (·.desk.registry.entries) hb).symm ▸ hs
    refine .inr ⟨fun r hr ↦ ?_, ?_⟩
    · obtain ⟨id, hid⟩ := hP t.request
      have hout := hk.accept hsk hsn hid (hr.trans hid)
      have hresume : (k.act (.signal (.delivery (.ok r)))).resumption? i (.task (.call i)) =
          some ⟨p, .ok r, w.state⟩ :=
        resumption?_of_outcome hi ((outcome?_refresh _ n).trans hout)
      simp only [round, resumptions]
      rw [hresume]
      rfl
    · have hkA : Alone expects k i := (h.act hc (a := .task .worker) trivial).1
      obtain ⟨time, elapsed, hout⟩ := hkA.timesOut hc hk hsk hsn
      have hcalls : (k.perform [.task (.timer s.index), .clock time, .task (.timer s.index)]).calls[i]? =
          some (.waiting (.ok n) p) := hi
      have hresume := resumption?_of_outcome hcalls hout
      refine ⟨time, s.index, s.id, elapsed, ?_⟩
      simp only [silence, resumptions]
      exact congrArg (fun x ↦ Option.toList x ++ []) hresume

end GameServers.World
