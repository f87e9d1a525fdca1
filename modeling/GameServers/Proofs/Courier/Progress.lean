import GameServers.Proofs.Courier.Closing
import GameServers.Proofs.Courier.OneAtATime
import GameServers.Proofs.Courier.Responses
import Mathlib.Data.List.Perm.Subperm

namespace GameServers.Courier

variable {P : Protocol} {m m' : Courier P} {w n : Nat} {x : Write} {s : Session} {t : Ticket P}

theorem shutdown_work (m : Courier P) : m.work.shutdown = m.shutdown := by
  have hstop (k : Courier P) : k.stop.shutdown = k.shutdown := congrArg (·.shutdown) k.bare_stop
  have habort (w : Nat) : (m.abortWrite w).shutdown = m.shutdown := by
    unfold abortWrite
    split
    · split <;> rfl
    · rfl
  have htake (k : Courier P) (n : Nat) : (k.takeUp n).shutdown = k.shutdown := by
    simp only [takeUp]
    split
    · split
      · rw [spawnWrite_eq]
        rfl
      · rfl
    · rfl
  unfold work
  split
  · split
    · exact hstop m
    · split
      · rfl
      · exact htake _ _
  · simp only
    split
    · exact (hstop _).trans (habort _)
    · split
      · rfl
      · split <;> rfl
  · split
    · exact hstop m
    · split <;> rfl
  · rfl
  · rfl

theorem shutdown_act {a : Act P} (ha : a.Keeps) : (m.act a).shutdown = m.shutdown := by
  cases a with
  | send r runtime =>
    simp only [act, send]
    split
    · exact congrArg (·.shutdown) (m.bare_enqueue r)
    · split <;> rfl
  | work => exact m.shutdown_work
  | startWrite w =>
    simp only [act, startWrite]
    split <;> rfl
  | finishWrite w result =>
    simp only [act, finishWrite]
    split
    · split
      · rfl
      · simp only [retry, requeue]
        split
        · split <;> rfl
        · rfl
    · rfl
  | accept | runTimer | clock | schedule | note => rfl
  | beginClose | abortWorker | closeRegistry | endClose | drop => cases ha

/-- A write that the worker waits for was made, and a request that it waits for was written. -/
structure Minds (m : Courier P) : Prop where
  fresh : Fresh m
  closed : m.desk.closed = true → m.shutdown = true
  writing : ∀ w, m.worker = .writing w → w < m.writes.length
  settling : ∀ n, m.worker = .settling n →
    ∃ (w : Nat) (x : Write), m.writes[w]? = some x ∧ x.ticket = n ∧ x.state = .finished true

theorem Step.ended (hs : Step m m') (hx : m.writes[w]? = some x) (hl : x.isLive = false) :
    m'.writes[w]? = some x := by
  have hset {k : Nat} {y : Write} (ws : WriteState) (hy : m.writes[k]? = some y)
      (hly : y.isLive = true) : (m.setWrite k ws).writes[w]? = some x := by
    rw [getElem?_setWrite, if_neg, hx]
    rintro rfl
    obtain rfl : y = x := Option.some.inj (hy.symm.trans hx)
    rw [hl] at hly
    cases hly
  cases hs with
  | take =>
    have hlt := (List.getElem?_eq_some_iff.1 hx).1
    exact (List.getElem?_append_left hlt).trans hx
  | abort k y hd hy hly => exact hset _ hy hly
  | start k s hy | sent k s hy | putBack k s hy | fail k s e f hy => exact hset _ hy rfl
  | _ => exact hx

theorem Step.worker (hs : Step m m') : m'.worker = m.worker ∨
    (m'.worker = .writing m.writes.length ∧ m'.writes.length = m.writes.length + 1) ∨
    (∃ w, m.worker = .writing w ∧ m.writeResult? w = some true ∧
      m'.worker = .settling (m.writeTicket w)) ∨
    (∀ w, m'.worker ≠ .writing w) ∧ ∀ n, m'.worker ≠ .settling n := by
  cases hs with
  | enqueue r =>
    simp only
    split
    · exact .inr (.inr (.inr ⟨by simp, by simp⟩))
    · exact .inl rfl
  | take n rest t id hw =>
    simp only
    split
    · exact .inr (.inl ⟨rfl, by simp⟩)
    · exact .inl hw.symm
  | beginClose hp =>
    simp only
    split
    · exact .inr (.inr (.inr ⟨by simp, by simp⟩))
    · exact .inl rfl
  | written w hw hr => exact .inr (.inr (.inl ⟨w, hw, hr, rfl⟩))
  | release | unwritten | stop | abort | leave | abortWorker =>
    exact .inr (.inr (.inr ⟨by simp, by simp⟩))
  | _ => exact .inl rfl

theorem Step.closed (hs : Step m m') (h : Sound m) (hc : m.desk.closed = true → m.shutdown = true)
    (hc' : m'.desk.closed = true) : m'.shutdown = true := by
  cases hs with
  | closeRegistry hp => exact h.told (.inl hp)
  | beginClose | drop => rfl
  | _ => exact hc hc'

theorem writeResult?_eq_some {b : Bool} (h : m.writeResult? w = some b) :
    ∃ s, m.writes[w]? = some ⟨s, .finished b⟩ := by
  unfold writeResult? at h
  split at h
  · next s b' hx => exact ⟨s, Option.some.inj h ▸ hx⟩
  · cases h

namespace Minds

theorem make (config : Config) : Minds (make config : Courier P) where
  fresh _ := ⟨rfl, rfl⟩
  closed h := by cases h
  writing w hw := by cases hw
  settling n hn := by cases hn

theorem step (hm : Minds m) (h : Sound m) (hs : Step m m') : Minds m' where
  fresh := hs.fresh hm.fresh
  closed := hs.closed h hm.closed
  writing k hk := by
    rcases hs.worker with hw | ⟨hw, hlen⟩ | ⟨w, -, -, hw⟩ | ⟨hw, -⟩
    · exact (hm.writing k (hw ▸ hk)).trans_le hs.length_writes
    · obtain rfl := Worker.writing.inj (hk.symm.trans hw)
      omega
    · cases hk.symm.trans hw
    · exact absurd hk (hw k)
  settling n hn := by
    rcases hs.worker with hw | ⟨hw, -⟩ | ⟨w, -, hr, hw⟩ | ⟨-, hw⟩
    · obtain ⟨w, x, hx, hxn, hf⟩ := hm.settling n (hw ▸ hn)
      exact ⟨w, x, hs.ended hx (by simp [Write.isLive, hf]), hxn, hf⟩
    · cases hn.symm.trans hw
    · obtain rfl := Worker.settling.inj (hn.symm.trans hw)
      obtain ⟨s, hx⟩ := writeResult?_eq_some hr
      exact ⟨w, _, hs.ended hx rfl, (writeTicket_of_some hx).symm, rfl⟩
    · exact absurd hn (hw n)

theorem bare_iff : Minds m.bare ↔ Minds m := ⟨fun h ↦ { h with }, fun h ↦ { h with }⟩

theorem act (hm : Minds m) (h : Sound m) (a : Act P) : Minds (m.act a) :=
  h.kept_act (fun _ ↦ bare_iff) (fun h hs hm ↦ hm.step h hs) hm a

end Minds

theorem minds_run (config : Config) (as : List (Act P)) :
    Minds ((make config : Courier P).run as) :=
  (Sound.make config).kept (fun _ ↦ Minds.bare_iff) (fun h hs hi ↦ hi.step h hs) (.make config) as

def workLeft (m : Courier P) : Nat :=
  3 * m.queue.length + match m.worker with
    | .writing _ => 3
    | .settling _ => 2
    | .waiting | .givenUp _ => 1
    | .unstarted | .stopped => 0

theorem workLeft_takeUp (hw : m.worker = .waiting) (n : Nat) :
    (m.takeUp n).workLeft ≤ 3 * m.queue.length + 3 := by
  have hkept (k : Courier P) (hq : k.queue = m.queue) (hk : k.worker = .waiting) :
      k.workLeft ≤ 3 * m.queue.length + 3 := by
    simp only [workLeft, hq, hk]
    omega
  simp only [takeUp]
  split
  · split
    · simp only [spawnWrite]
      split
      · exact le_rfl
      · exact hkept _ rfl hw
    · exact hkept _ rfl hw
  · exact hkept _ rfl hw

theorem workLeft_work (h : m.canWork = true) : m.work.workLeft < m.workLeft := by
  have hstop (k : Courier P) : k.stop.workLeft = 0 := congrArg workLeft k.bare_stop
  cases hw : m.worker with
  | unstarted | stopped => simp [canWork, hw] at h
  | waiting =>
    simp only [work, hw]
    split
    · rw [hstop]
      simp [workLeft, hw]
    · next hd =>
      split
      · next hq => simp [canWork, hw, hd, hq] at h
      · next n rest hq =>
        refine (workLeft_takeUp rfl n).trans_lt ?_
        simp only [workLeft, hw, hq, List.length_cons]
        omega
  | writing w =>
    simp only [work, hw]
    split
    · rw [hstop]
      simp [workLeft, hw]
    · next hd =>
      split
      · simp [workLeft, mapDesk, setWorker, hw]
      · next hdone =>
        split
        · next hr => simp [canWork, hw, hd, hdone, hr] at h
        · next b hr =>
          cases b <;> simp [workLeft, setWorker, hw]
  | settling n =>
    simp only [work, hw]
    split
    · rw [hstop]
      simp [workLeft, hw]
    · next hd =>
      split
      · simp [workLeft, mapDesk, setWorker, hw]
      · next hdone => simp [canWork, hw, hd, hdone] at h
  | givenUp n => simp [work, workLeft, hw]

theorem canWork_workFor {fuel : Nat} (h : m.workLeft ≤ fuel) : (m.workFor fuel).canWork = false := by
  induction fuel generalizing m with
  | zero =>
    by_contra hc
    have := workLeft_work (m := m) (by simpa [workFor] using hc)
    omega
  | succ fuel ih =>
    unfold workFor
    split
    · next hc =>
      have := workLeft_work hc
      exact ih (by omega)
    · next hc => simpa using hc

theorem send_cases (m : Courier P) (q : P.Request) (runtime : Bool) :
    m.refusal? runtime = none ∧ m.send q runtime = (m.enqueue q, .ok m.desk.tickets.length) ∨
    ∃ e, m.refusal? runtime = some e ∧ (m.send q runtime).2 = .error e ∧
      (m.send q runtime).1.desk.tickets = m.desk.tickets := by
  cases hr : m.refusal? runtime with
  | none => exact .inl ⟨rfl, by simp only [send, hr]⟩
  | some e =>
    refine .inr ⟨e, rfl, by simp only [send, hr], ?_⟩
    simp only [send, hr]
    split <;> rfl

theorem Sound.refusal?_eq_none (h : Sound m) (hd : m.shutdown = false)
    (hall : ∀ t ∈ m.desk.tickets, t.outcome ≠ none) : m.refusal? true = none := by
  have hc : m.isClosed = false := by
    by_contra hc
    have htold := h.told (.inl (ne_running (by simpa using hc)))
    rw [hd] at htold
    cases htold
  have hw : m.worker ≠ .stopped := by
    intro hw
    have htold := h.told (.inr (.inl hw))
    rw [hd] at htold
    cases htold
  have hq : m.queue = [] := by
    refine List.eq_nil_iff_forall_not_mem.2 fun n hn ↦ ?_
    obtain ⟨t, ht, ho, -⟩ := h.outcome_of_queued hn
    exact hall t (List.mem_of_getElem? ht) ho
  simp [refusal?, hc, queueOpen, hw, queueHasRoom, hq, capacity]

/-- The protocol has an id for every request. -/
def NamesAll (P : Protocol) : Prop :=
  ∀ q : P.Request, ∃ id, (Envelope.request q : Envelope P).sessionId = .ok id

/-- One request waits for its outcome, and no other does. -/
structure Lone (m : Courier P) (n : Nat) (q : P.Request) : Prop where
  sound : Sound m
  minds : Minds m
  opened : m.shutdown = false
  waits : ∃ t, m.desk.tickets[n]? = some t ∧ t.request = q ∧ t.outcome = none
  sole : ∀ k t, m.desk.tickets[k]? = some t → t.outcome = none → k = n

variable {q : P.Request}

theorem Sound.outcome_of_not_done (h : Sound m) (ht : m.desk.tickets[n]? = some t)
    (hd : m.desk.isDone n = false) : t.outcome = none := by
  have hnd : t.status ≠ .done := by simpa [Desk.isDone, ht, Ticket.isDone] using hd
  by_contra ho
  exact hnd ((h.coherent ht).2 (Option.isSome_iff_ne_none.2 ho))

theorem outcomes_takeUp {id : SessionId} (hi : m.desk.idFor n true = .ok id) :
    (m.takeUp n).desk.tickets.map Ticket.outcome = m.desk.tickets.map Ticket.outcome := by
  have hs (k : Courier P) (s : Session) : (k.spawnWrite s).desk.tickets = k.desk.tickets :=
    (congrArg Desk.tickets (k.desk_spawnWrite s) :)
  simp only [takeUp]
  split
  · next hc =>
    have hid := (m.desk.idFor_advance n .accepted).trans hi
    have hb : (((m.desk.advance n .accepted).register (m.desk.nextSession n id)).advance n
        .await).bare.tickets.map Ticket.outcome = _ :=
      congrArg (·.tickets.map Ticket.outcome) (Desk.bare_takeUp hc)
    simp only [mapDesk, Desk.create_of_ok hid, Desk.nextSession_advance, hs]
    exact hb.trans (Desk.map_modify _ n Ticket.outcome fun t ↦ t.outcome_takeUp)
  · exact congrArg (List.map Ticket.outcome) (m.desk.tickets_logFor n _)

theorem outcomes_work (hi : ∀ n ∈ m.queue, ∃ id, m.desk.idFor n true = .ok id) :
    m.work.desk.tickets.map Ticket.outcome = m.desk.tickets.map Ticket.outcome := by
  have hstop (k : Courier P) : k.stop.desk.tickets = k.desk.tickets :=
    congrArg (·.desk.tickets) k.bare_stop
  unfold work
  split
  · split
    · rw [hstop]
    · split
      · rfl
      · next n rest hq =>
        obtain ⟨id, hid⟩ := hi n (hq ▸ .head _)
        exact outcomes_takeUp (m := { m with queue := rest }) hid
  · simp only
    split
    · rw [hstop]
      rcases m.abortWrite_cases _ with he | ⟨x, -, -, he⟩
      · rw [he]
      · rw [he]
        rfl
    · split
      · exact congrArg _ (Desk.tickets_logFor _ _ _)
      · split <;> rfl
  · split
    · rw [hstop]
    · split
      · exact congrArg _ (Desk.tickets_logFor _ _ _)
      · rfl
  · rfl
  · rfl

namespace Lone

theorem congr (h : Lone m n q) (hb : m'.bare = m.bare) : Lone m' n q := by
  have hl : Lone m.bare n q := { h with sound := { h.sound with }, minds := { h.minds with } }
  have hl' : Lone m'.bare n q := hb ▸ hl
  exact { hl' with sound := { hl'.sound with }, minds := { hl'.minds with } }

theorem act (h : Lone m n q) {a : Act P} (ha : a.Keeps)
    (ho : (m.act a).desk.tickets.map Ticket.outcome = m.desk.tickets.map Ticket.outcome) :
    Lone (m.act a) n q := by
  have hout (k : Nat) : (m.act a).desk.tickets[k]?.map Ticket.outcome =
      m.desk.tickets[k]?.map Ticket.outcome := by
    simpa using congrArg (·[k]?) ho
  exact {
    sound := h.sound.act a
    minds := h.minds.act h.sound a
    opened := (shutdown_act ha).trans h.opened
    waits := by
      obtain ⟨t, ht, hq, hn⟩ := h.waits
      obtain ⟨t', ht', hl⟩ := h.sound.leads_act a ht
      have hk := hout n
      rw [ht, ht'] at hk
      exact ⟨t', ht', hl.1.trans hq, (Option.some.inj hk).trans hn⟩
    sole := fun k t' ht' hn ↦ by
      have hk := hout k
      rw [ht'] at hk
      obtain ⟨t, ht, he⟩ := Option.map_eq_some_iff.1 hk.symm
      exact h.sole k t ht (he.trans hn) }

theorem registered (h : Lone m n q) (hw : m.canWork = false) :
    ∃ s ∈ m.desk.registry.entries, s.ticket = n := by
  obtain ⟨t, ht, -, ho⟩ := h.waits
  refine (h.sound.placed h.opened ht ho).resolve_left fun hq ↦ ?_
  -- A request in the queue would have no write but failed ones, so the worker could go on.
  have hfailed {w : Nat} {x : Write} (hx : m.writes[w]? = some x)
      (hd : m.desk.isDone x.ticket = false) : x.state = .finished false := by
    obtain ⟨t', ht', -⟩ := h.sound.named hx
    exact h.sound.state_of_queued hq hx
      (h.sole _ t' ht' (h.sound.outcome_of_not_done ht' hd))
  cases hwk : m.worker with
  | unstarted =>
    rw [(h.minds.fresh hwk).1] at hq
    cases hq
  | waiting =>
    have hnil : m.queue = [] := by simpa [canWork, hwk, h.opened] using hw
    rw [hnil] at hq
    cases hq
  | writing w =>
    obtain ⟨x, hx⟩ : ∃ x, m.writes[w]? = some x :=
      ⟨_, List.getElem?_eq_getElem (h.minds.writing w hwk)⟩
    simp only [canWork, hwk, h.opened, writeTicket_of_some hx, Bool.false_or,
      Bool.or_eq_false_iff] at hw
    have hstate := hfailed hx hw.1
    obtain ⟨s, state⟩ := x
    obtain rfl : state = .finished false := hstate
    simp [writeResult?, hx] at hw
  | settling k =>
    obtain ⟨w, x, hx, rfl, hf⟩ := h.minds.settling k hwk
    have hd : m.desk.isDone x.ticket = false := by simpa [canWork, hwk, h.opened] using hw
    rw [hfailed hx hd] at hf
    cases hf
  | givenUp k => exact absurd (h.sound.told (.inr (.inr ⟨k, hwk⟩))) (by simp [h.opened])
  | stopped => exact absurd (h.sound.told (.inr (.inl hwk))) (by simp [h.opened])

theorem length_queue_le (h : Lone m n q) : m.queue.length ≤ 1 := by
  have hsub : m.queue ⊆ [n] := by
    intro k hk
    obtain ⟨t, ht, ho, -⟩ := h.sound.outcome_of_queued hk
    exact List.mem_singleton.2 (h.sole k t ht ho)
  simpa using (List.Nodup.subperm h.sound.queuedOnce hsub).length_le

theorem workFor (h : Lone m n q) (hP : NamesAll P) (fuel : Nat) : Lone (m.workFor fuel) n q := by
  induction fuel generalizing m with
  | zero => exact h
  | succ fuel ih =>
    unfold Courier.workFor
    split
    · refine ih (h.act (a := .work) trivial (outcomes_work fun k hk ↦ ?_))
      obtain ⟨t, ht, -⟩ := h.sound.queued hk
      obtain ⟨id, hid⟩ := hP t.request
      have hc : m.desk.closed = false := by
        by_contra hc
        have htold := h.minds.closed (by simpa using hc)
        rw [h.opened] at htold
        cases htold
      exact ⟨id, Desk.idFor_eq_ok.2 ⟨hc, t, ht, hid⟩⟩
    · exact h

theorem runWorker (h : Lone m n q) (hP : NamesAll P) : Lone m.runWorker n q ∧
    ∃ s ∈ m.runWorker.desk.registry.entries, s.ticket = n := by
  have hl := h.workFor hP workBudget
  refine ⟨hl, hl.registered (canWork_workFor ?_)⟩
  have hq := h.length_queue_le
  have hle : m.workLeft ≤ 3 * m.queue.length + 3 := by
    unfold workLeft
    split <;> omega
  exact hle.trans (by rw [workBudget]; omega)

variable (h : Lone m n q) (hs : s ∈ m.desk.registry.entries) (hsn : s.ticket = n)

include h hs hsn

theorem accept {r : P.Response} {id : SessionId}
    (hq : (Envelope.request q : Envelope P).sessionId = .ok id)
    (hr : (Envelope.response r : Envelope P).sessionId = .ok id) :
    (m.accept (.ok r)).outcome? n = some (.ok r) := by
  obtain ⟨t, ht, rfl, -⟩ := h.waits
  obtain ⟨w, x, hx, rfl, hf⟩ := h.sound.known hs
  obtain ⟨t', ht', hid⟩ := h.sound.named hx
  obtain rfl : t' = t := Option.some.inj (ht'.symm.trans ((congrArg (m.desk.tickets[·]?) hsn).trans ht))
  obtain rfl : x.session.id = id := Except.ok.inj (hid.symm.trans hq)
  cases ho : m.desk.registry.oldest? x.session.id with
  | none => exact absurd rfl (h.sound.filed.oldest?_eq_none.1 ho _ hs)
  | some s' =>
    have hs' := (h.sound.filed.oldest?_eq_some ho).1
    obtain ⟨u, hu, hun⟩ := h.sound.pending hs'
    have hsame : s' = x.session :=
      h.sound.eq_of_ticket hs' hs ((h.sole _ u hu hun).trans hsn.symm)
    rw [← hsn, ← hsame]
    exact (h.sound.matched hr ho).settled

omit hsn in
theorem timerAt?_eq : m.desk.timerAt? s.index = some s.timer := by
  rw [Desk.timerAt?, ← List.head?_filter]
  exact congrArg List.head? (h.sound.filter_index hs)

omit hsn in
theorem doze (hd : m.desk.now < m.desk.dueAt s.index) :
    (m.mapDesk (·.runTimer s.index)).Lone n q ∧
      s ∈ (m.mapDesk (·.runTimer s.index)).desk.registry.entries ∧
      (m.mapDesk (·.runTimer s.index)).desk.naps s.index ≠ none := by
  have hb : (m.desk.runTimer s.index).bare = m.desk.bare.doze s.index := by
    simp only [Desk.runTimer, h.timerAt?_eq hs, if_neg (Nat.not_le_of_lt hd)]
    rfl
  refine ⟨h.act (a := .runTimer s.index) trivial ?_, ?_, ?_⟩
  · exact congrArg (·.tickets.map Ticket.outcome) hb
  · exact (congrArg (·.registry.entries) hb).symm ▸ hs
  · have hnaps : (m.desk.runTimer s.index).naps s.index = some (m.desk.asleepSince s.index) :=
      (congrArg (·.naps s.index) hb).trans Desk.naps_doze_self
    simp [mapDesk, hnaps]

theorem runTimer (hd : m.desk.dueAt s.index ≤ m.desk.now) :
    (m.mapDesk (·.runTimer s.index)).outcome? n = some (.error (.readTimeout s.id
      ⟨m.desk.now - s.registeredAt⟩)) := by
  have hf : m.desk.registry.find? s.id s.index = some s := by
    cases hf : m.desk.registry.find? s.id s.index with
    | none => exact absurd ⟨rfl, rfl⟩ (h.sound.filed.find?_eq_none.1 hf s hs)
    | some s' =>
      obtain ⟨hs', -, hi⟩ := h.sound.filed.find?_eq_some hf
      obtain ⟨w, x, hx, rfl, -⟩ := h.sound.known hs
      rw [h.sound.entry_eq_of_index hx hs' hi]
  have hb : (m.mapDesk (·.runTimer s.index)).bare = { m with
      desk := (m.desk.bare.modify s.ticket (·.complete (.error (.readTimeout s.id
        ⟨m.desk.now - s.registeredAt⟩)))).strike s } := by
    have hfire : m.desk.runTimer s.index = m.desk.expire s.timer := by
      simp only [Desk.runTimer, h.timerAt?_eq hs, if_pos hd]
    rw [bare_mapDesk, hfire, Desk.bare_expire h.sound.filed hf]
  rw [← hsn]
  exact (h.sound.settles hs hb rfl).settled

end Lone

end GameServers.Courier
