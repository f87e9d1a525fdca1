import GameServers.Proofs.Courier.Run
import GameServers.Proofs.Desk

namespace GameServers.Courier

variable {P : Protocol}

/-- A courier without its journal and its agenda. -/
def bare (m : Courier P) : Courier P := { m with desk := m.desk.bare }

/-- One constructor for each way in which a courier can change. -/
inductive Step (m : Courier P) : Courier P → Prop
  | idle : Step m m
  | clock (time : Time) (ht : m.desk.now ≤ time) :
    Step m { m with desk := { m.desk with now := time } }
  /-- A timer goes to sleep. -/
  | doze (τ : Timer) (hτ : τ ∈ m.desk.timers) : Step m { m with desk := m.desk.doze τ.index }
  | enqueue (r : P.Request) (hc : m.isClosed = false) (ho : m.queueOpen = true)
      (hr : m.queueHasRoom = true) :
    Step m { m with
      desk := m.desk.issue r
      queue := m.queue ++ [m.desk.tickets.length]
      worker := if m.worker = .unstarted then .waiting else m.worker }
  | settle (s : Session) (o : Outcome P) (hs : s ∈ m.desk.registry.entries)
      (ho : ∀ r, o = .ok r → (Envelope.response r : Envelope P).sessionId = .ok s.id) :
    Step m { m with desk := (m.desk.modify s.ticket (·.complete o)).strike s }
  | take (n : Nat) (rest : List Nat) (t : Ticket P) (id : SessionId)
      (hw : m.worker = .waiting) (hd : m.shutdown = false) (hq : m.queue = n :: rest)
      (ht : m.desk.tickets[n]? = some t) (ha : t.status.canAdvanceTo .accepted = true)
      (hi : (Envelope.request t.request : Envelope P).sessionId = .ok id) :
    Step m { m with
      desk := (m.desk.enroll (m.desk.nextSession n id)).modify n Ticket.takeUp
      queue := rest
      writes := m.writes ++ [⟨m.desk.nextSession n id, .spawned⟩]
      worker := if m.config.mode = .synchronous then .writing m.writes.length else .waiting }
  | refuse (n : Nat) (rest : List Nat) (e : Failure)
      (hw : m.worker = .waiting) (hd : m.shutdown = false) (hq : m.queue = n :: rest)
      (hi : m.desk.idFor n true = .error e) :
    Step m { m with
      desk := m.desk.modify n fun t ↦ (t.advance .accepted).complete (.error e)
      queue := rest }
  | skip (n : Nat) (rest : List Nat) (hw : m.worker = .waiting) (hd : m.shutdown = false)
      (hq : m.queue = n :: rest) (hc : m.desk.canAdvance n .accepted = false) :
    Step m { m with queue := rest }
  /-- The request that the worker waits for is settled. -/
  | release (n : Nat) (hn : m.worker = .settling n ∨ ∃ w, m.worker = .writing w ∧ m.writeTicket w = n)
      (hd : m.desk.isDone n = true) :
    Step m { m with worker := .waiting }
  | written (w : Nat) (hw : m.worker = .writing w) (hr : m.writeResult? w = some true) :
    Step m { m with worker := .settling (m.writeTicket w) }
  | unwritten (w : Nat) (hw : m.worker = .writing w) (hr : m.writeResult? w = some false) :
    Step m { m with worker := .waiting }
  | stop (hd : m.shutdown = true) : Step m { m with worker := .stopped, queue := [] }
  | abort (w : Nat) (x : Write) (hd : m.shutdown = true) (hx : m.writes[w]? = some x)
      (hl : x.isLive = true) :
    Step m { m.setWrite w .aborted with worker := .stopped, queue := [] }
  | leave (n : Option Nat) (hw : m.worker = .givenUp n) :
    Step m { m with worker := .stopped, queue := [] }
  | start (w : Nat) (s : Session) (hw : m.writes[w]? = some ⟨s, .spawned⟩) :
    Step m (m.setWrite w .started)
  | sent (w : Nat) (s : Session) (hw : m.writes[w]? = some ⟨s, .started⟩) :
    Step m { m.setWrite w (.finished true) with desk := m.desk.modify s.ticket (·.advance .sent) }
  | putBack (w : Nat) (s : Session) (hw : m.writes[w]? = some ⟨s, .started⟩)
      (hr : m.canRetry s.ticket = true) (ho : m.queueOpen = true) (hq : m.queueHasRoom = true) :
    Step m { m.setWrite w (.finished false) with
      desk := (m.desk.modify s.ticket Ticket.putBack).strike s
      queue := m.queue ++ [s.ticket] }
  /-- A write failed for good: the request may not be tried again, or finds no place in the
  queue. -/
  | fail (w : Nat) (s : Session) (e : Failure) (f : Ticket P → Ticket P)
      (hw : m.writes[w]? = some ⟨s, .started⟩)
      (hf : f = (·.complete (.error e)) ∧ m.canRetry s.ticket = false ∨
        f = (fun t ↦ t.putBack.complete (.error e)) ∧ m.canRetry s.ticket = true ∧
          (m.queueOpen && m.queueHasRoom) = false) :
    Step m { m.setWrite w (.finished false) with desk := (m.desk.modify s.ticket f).strike s }
  | beginClose (hp : m.phase = .running) :
    Step m { m with
      phase := .stopping
      shutdown := true
      worker := if m.worker = .unstarted then .stopped else m.worker
      queue := if m.worker = .unstarted then [] else m.queue }
  | abortWorker (n : Option Nat) (hp : m.phase ≠ .running) (hw : m.worker ≠ .stopped) :
    Step m { m with worker := .givenUp n }
  | closeRegistry (hp : m.phase ≠ .running) :
    Step m { m with
      phase := .closing
      desk := { m.desk with
        closed := true
        registry := {}
        timers := m.desk.timers.filter fun t ↦ m.desk.registry.entries.all (t.index ≠ ·.index) } }
  | endClose (hp : m.phase ≠ .running) : Step m { m with phase := .closed }
  | drop : Step m { m with shutdown := true }

variable (m : Courier P)

theorem bare_mapDesk (f : Desk P → Desk P) :
    (m.mapDesk f).bare = { m with desk := (f m.desk).bare } := rfl

@[simp] theorem bare_log (e : Event P) : (m.log e).bare = m.bare := rfl

@[simp] theorem bare_wake (t : Task) : (m.wake t).bare = m.bare := rfl

theorem bare_reportOrphans : m.reportOrphans.bare = { m.bare with queue := [] } := by
  have hr (k : Courier P) (n : Nat) : (k.reportOrphan n).bare = k.bare := by
    unfold reportOrphan
    rw [bare_mapDesk, Desk.bare_logFor]
    rfl
  simp only [reportOrphans]
  split
  · rfl
  · rw [foldl_keeps bare hr]
    rfl

theorem bare_stop : m.stop.bare = { m.bare with worker := .stopped, queue := [] } := by
  rw [stop, bare_reportOrphans]
  rfl

theorem refusal?_eq_none {runtime : Bool} (h : m.refusal? runtime = none) :
    m.isClosed = false ∧ m.queueOpen = true ∧ m.queueHasRoom = true := by
  unfold refusal? at h
  split at h
  · cases h
  · next hc =>
    split at h
    · cases h
    · split at h
      · cases h
      · next ho =>
        split at h
        · cases h
        · next hr => exact ⟨by simpa using hc, by simpa using ho, by simpa using hr⟩

theorem bare_startWorker :
    m.startWorker.bare =
      { m.bare with worker := if m.worker = .unstarted then .waiting else m.worker } := by
  unfold startWorker
  split <;> rfl

theorem bare_enqueue (r : P.Request) :
    (m.enqueue r).bare = { m.bare with
      desk := m.bare.desk.issue r
      queue := m.queue ++ [m.desk.tickets.length]
      worker := if m.worker = .unstarted then .waiting else m.worker } := by
  have h := congrArg (fun k : Courier P ↦ { k with
    desk := k.desk.issue r
    queue := k.queue ++ [m.desk.tickets.length] }) m.bare_startWorker
  exact h

theorem send_step (r : P.Request) (runtime : Bool) : Step m.bare (m.send r runtime).1.bare := by
  unfold send
  split
  · next h =>
    obtain ⟨hc, ho, hr⟩ := m.refusal?_eq_none h
    rw [bare_enqueue]
    exact .enqueue r hc ho hr
  · split <;> exact .idle

variable {m}

theorem settle_step (h : m.desk.registry.WellFiled) {s : Session} {o : Outcome P}
    (hs : s ∈ m.desk.registry.entries)
    (ho : ∀ r, o = .ok r → (Envelope.response r : Envelope P).sessionId = .ok s.id) :
    Step m.bare { m with desk := (m.desk.settle s o).bare } := by
  rw [Desk.bare_settle h]
  exact .settle s o hs ho

theorem sessionOf?_mem (h : m.desk.registry.WellFiled) {n : Nat} {s : Session}
    (hs : m.desk.sessionOf? n = some s) : s ∈ m.desk.registry.entries ∧ s.ticket = n := by
  unfold Desk.sessionOf? at hs
  split at hs
  · cases hs
  · split at hs
    · exact ⟨(h.mem_bucket.1 (List.mem_of_find?_eq_some hs)).1, by simpa using List.find?_some hs⟩
    · exact ⟨List.mem_of_find?_eq_some hs, by simpa using List.find?_some hs⟩

theorem sessionFor_response {d : Desk P} {r : P.Response} {s : Session}
    (hs : d.sessionFor (.response r) = .ok (some s)) :
    ∃ id, (Envelope.response r : Envelope P).sessionId = .ok id ∧
      d.registry.oldest? id = some s := by
  unfold Desk.sessionFor at hs
  cases hi : (Envelope.response r : Envelope P).sessionId with
  | error e => rw [hi] at hs; cases hs
  | ok id =>
    rw [hi] at hs
    exact ⟨id, rfl, Except.ok.inj hs⟩

theorem accept_step (h : m.desk.registry.WellFiled) (x : Delivery P) :
    Step m.bare (m.accept x).bare := by
  unfold accept
  rw [bare_mapDesk]
  unfold correlate
  split
  · next r =>
    split
    · next s hs =>
      obtain ⟨id, hi, ho⟩ := sessionFor_response hs
      obtain ⟨he, hid, -⟩ := h.oldest?_eq_some ho
      refine settle_step (m := m.log _) h he fun r' hr ↦ ?_
      rw [← Except.ok.inj hr, hi, hid]
    · exact .idle
    · exact .idle
  · next origin e =>
    split
    · next s hs =>
      obtain ⟨n, -, hn⟩ := Option.bind_eq_some_iff.1 hs
      exact settle_step (m := m.log _) h (sessionOf?_mem h hn).1 (by simp)
    · exact .idle
  · exact .idle

theorem runTimer_step (h : m.desk.registry.WellFiled) (i : Nat) :
    Step m.bare (m.mapDesk (·.runTimer i)).bare := by
  rw [bare_mapDesk]
  rcases Desk.bare_runTimer h i with he | ⟨τ, hτ, -, he⟩ | ⟨τ, s, -, -, hs, he⟩
  · rw [he]
    exact .idle
  · obtain ⟨hmem, rfl⟩ := Desk.timerAt?_eq_some hτ
    rw [he]
    exact .doze τ hmem
  · rw [he]
    exact .settle s _ (h.find?_eq_some hs).1 (by simp)

theorem spawnWrite_eq (s : Session) : m.spawnWrite s = { m.wake (.write m.writes.length) with
    writes := m.writes ++ [⟨s, .spawned⟩]
    worker := if m.config.mode = .synchronous then .writing m.writes.length else m.worker } := by
  simp only [spawnWrite]
  split <;> rfl

theorem desk_spawnWrite (s : Session) :
    (m.spawnWrite s).desk = m.desk.wake (.write m.writes.length) := by
  rw [spawnWrite_eq]
  rfl

theorem bare_spawnWrite (hw : m.worker = .waiting) (s : Session) :
    (m.spawnWrite s).bare = { m.bare with
      writes := m.writes ++ [⟨s, .spawned⟩]
      worker := if m.config.mode = .synchronous then .writing m.writes.length else .waiting } := by
  rw [spawnWrite_eq, hw]
  rfl

theorem bare_takeUp_of_error {n : Nat} {e : Failure} (hc : m.desk.canAdvance n .accepted = true)
    (hi : m.desk.idFor n true = .error e) :
    (m.takeUp n).bare = { m.bare with
      desk := m.bare.desk.modify n fun t ↦ (t.advance .accepted).complete (.error e) } := by
  have hid := m.desk.idFor_advance n .accepted
  have hb : (((m.desk.advance n .accepted).logFor n fun t ↦
      .unregistrable t.request e).complete n (.error e)).bare =
      m.desk.bare.modify n fun t ↦ (t.advance .accepted).complete (.error e) := by
    rw [Desk.complete, Desk.bare_modify, Desk.bare_logFor, Desk.bare_advance, Desk.modify_modify]
    rfl
  simp only [takeUp, hc, if_true, mapDesk, Desk.create_of_error (hid.trans hi), bare, hb]

theorem bare_takeUp_of_ok {n : Nat} {id : SessionId} (hw : m.worker = .waiting)
    (hc : m.desk.canAdvance n .accepted = true) (hi : m.desk.idFor n true = .ok id) :
    (m.takeUp n).bare = { m.bare with
      desk := (m.bare.desk.enroll (m.desk.nextSession n id)).modify n Ticket.takeUp
      writes := m.writes ++ [⟨m.desk.nextSession n id, .spawned⟩]
      worker := if m.config.mode = .synchronous then .writing m.writes.length else .waiting } := by
  have hid := m.desk.idFor_advance n .accepted
  let desk := ((m.desk.advance n .accepted).register (m.desk.nextSession n id)).advance n .await
  simp only [takeUp, hc, if_true, mapDesk, Desk.create_of_ok (hid.trans hi),
    Desk.nextSession_advance]
  rw [bare_spawnWrite (m := { m with desk }) hw]
  simp only [bare, desk, Desk.bare_takeUp hc]

theorem takeUp_step {n : Nat} {rest : List Nat} (hw : m.worker = .waiting)
    (hd : m.shutdown = false) (hq : m.queue = n :: rest) :
    Step m.bare ({ m with queue := rest }.takeUp n).bare := by
  cases hc : m.desk.canAdvance n .accepted with
  | false =>
    have hskip : ({ m with queue := rest } : Courier P).takeUp n =
        { m with queue := rest }.mapDesk fun d ↦ d.logFor n fun t ↦ .skipped t.request t.status := by
      simp [takeUp, hc]
    rw [hskip, bare_mapDesk, Desk.bare_logFor]
    exact .skip n rest hw hd hq hc
  | true =>
    obtain ⟨t, ht, ha⟩ := Desk.canAdvance_eq_true.1 hc
    cases hi : m.desk.idFor n true with
    | error e =>
      rw [bare_takeUp_of_error (m := { m with queue := rest }) hc hi]
      exact .refuse n rest e hw hd hq hi
    | ok id =>
      obtain ⟨-, t', ht', hid'⟩ := Desk.idFor_eq_ok.1 hi
      rw [ht] at ht'
      cases ht'
      rw [bare_takeUp_of_ok (m := { m with queue := rest }) hw hc hi]
      exact .take n rest t id hw hd hq ht ha hid'

theorem abortWrite_cases (m : Courier P) (w : Nat) : m.abortWrite w = m ∨
    ∃ x, m.writes[w]? = some x ∧ x.isLive = true ∧ m.abortWrite w = m.setWrite w .aborted := by
  unfold abortWrite
  split
  · next x hx =>
    split
    · next hl => exact .inr ⟨x, hx, hl, rfl⟩
    · exact .inl rfl
  · exact .inl rfl

theorem work_step (m : Courier P) : Step m.bare m.work.bare := by
  unfold work
  split
  · next hw =>
    split
    · next hd =>
      rw [bare_stop]
      exact .stop hd
    · next hd =>
      split
      · exact .idle
      · next n rest hq => exact takeUp_step hw (by simpa using hd) hq
  · next w hw =>
    simp only
    split
    · next hd =>
      rw [bare_stop]
      rcases m.abortWrite_cases w with he | ⟨x, hx, hl, he⟩
      · rw [he]
        exact .stop hd
      · rw [he]
        exact .abort w x hd hx hl
    · split
      · next hd =>
        rw [bare_mapDesk, Desk.bare_logFor]
        exact .release _ (.inr ⟨w, hw, rfl⟩) hd
      · split
        · exact .idle
        · next b hr =>
          cases b
          · exact .unwritten w hw hr
          · exact .written w hw hr
  · next n hw =>
    split
    · next hd =>
      rw [bare_stop]
      exact .stop hd
    · split
      · next hd =>
        rw [bare_mapDesk, Desk.bare_logFor]
        exact .release n (.inl hw) hd
      · exact .idle
  · next n hw => exact .leave n hw
  · exact .idle

theorem startWrite_step (m : Courier P) (w : Nat) : Step m.bare (m.startWrite w).bare := by
  unfold startWrite
  split
  · next s hw => exact .start w s hw
  · exact .idle

theorem bare_putBack (h : m.desk.registry.WellFiled) (s : Session) (e : Failure) (limit : Nat) :
    ((((m.desk.advance s.ticket .retry).modify s.ticket Ticket.incrementRetries).logFor s.ticket
      fun t ↦ .retrying t.request e t.retries limit).delete s).bare =
      (m.desk.bare.modify s.ticket Ticket.putBack).strike s := by
  have hb : (((m.desk.advance s.ticket .retry).modify s.ticket
      Ticket.incrementRetries).logFor s.ticket fun t ↦ .retrying t.request e t.retries limit).bare =
      m.desk.bare.modify s.ticket Ticket.putBack := by
    rw [Desk.bare_logFor, Desk.bare_modify, Desk.bare_advance, Desk.modify_modify]
    rfl
  have hr := congrArg Desk.registry hb
  rw [Desk.bare_delete (hr ▸ h), hb]

theorem bare_finishWrite_ok {w : Nat} {s : Session} (hw : m.writes[w]? = some ⟨s, .started⟩) :
    (m.finishWrite w (.ok ())).bare = { m.bare.setWrite w (.finished true) with
      desk := m.desk.bare.modify s.ticket (·.advance .sent) } := by
  have hb : ((m.desk.advance s.ticket .sent).logFor s.ticket fun t ↦ .written t.request).bare =
      m.desk.bare.modify s.ticket (·.advance .sent) := by
    rw [Desk.bare_logFor, Desk.bare_advance]
  simp only [finishWrite, hw, bare, setWrite, mapDesk, hb]

theorem bare_finishWrite_putBack (h : m.desk.registry.WellFiled) {w : Nat} {s : Session}
    (hw : m.writes[w]? = some ⟨s, .started⟩) (e : Failure) (hr : m.canRetry s.ticket = true)
    (hq : (m.queueOpen && m.queueHasRoom) = true) :
    (m.finishWrite w (.error e)).bare = { m.bare.setWrite w (.finished false) with
      desk := (m.desk.bare.modify s.ticket Ticket.putBack).strike s
      queue := m.queue ++ [s.ticket] } := by
  have hb := bare_putBack h s e m.config.maxWriteRetries
  simp only [finishWrite, hw, if_pos hr, retry, requeue]
  split
  · simp only [bare, setWrite, mapDesk, hb]
  · next hn => exact absurd hq hn

theorem bare_finishWrite_full (h : m.desk.registry.WellFiled) {w : Nat} {s : Session}
    (hw : m.writes[w]? = some ⟨s, .started⟩) (e : Failure) (hr : m.canRetry s.ticket = true)
    (hq : (m.queueOpen && m.queueHasRoom) = false) :
    (m.finishWrite w (.error e)).bare = { m.bare.setWrite w (.finished false) with
      desk := (m.desk.bare.modify s.ticket fun t ↦ t.putBack.complete (.error e)).strike s } := by
  have hb := bare_putBack h s e m.config.maxWriteRetries
  have hm := Desk.modify_modify (d := m.desk.bare) (n := s.ticket) (f := Ticket.putBack)
    (g := (·.complete (.error e)))
  change _ = m.desk.bare.modify s.ticket fun t ↦ t.putBack.complete (.error e) at hm
  simp only [finishWrite, hw, if_pos hr, retry, requeue]
  split
  · next ho => exact absurd ho (Bool.eq_false_iff.1 hq)
  · simp only [bare, setWrite, mapDesk, Desk.complete, Desk.bare_modify, Desk.bare_logFor, hb]
    rw [← hm]
    rfl

theorem bare_finishWrite_fail (h : m.desk.registry.WellFiled) {w : Nat} {s : Session}
    (hw : m.writes[w]? = some ⟨s, .started⟩) (e : Failure) (hr : m.canRetry s.ticket = false) :
    (m.finishWrite w (.error e)).bare = { m.bare.setWrite w (.finished false) with
      desk := (m.desk.bare.modify s.ticket (·.complete (.error e))).strike s } := by
  have hl := m.desk.bare_logFor s.ticket fun t ↦ .notSent t.request e
  have hreg : (m.desk.logFor s.ticket fun t ↦ .notSent t.request e).registry.WellFiled := by
    have hr := congrArg Desk.registry hl
    change _ = m.desk.registry at hr
    exact hr ▸ h
  have hb := Desk.bare_settle hreg s (.error e)
  rw [hl] at hb
  simp only [finishWrite, hw, hr, Bool.false_eq_true, if_false]
  simp only [bare, setWrite, mapDesk, hb]

theorem finishWrite_of_not_started {w : Nat} (hw : ∀ s, m.writes[w]? ≠ some ⟨s, .started⟩)
    (result : Except Failure Unit) : m.finishWrite w result = m := by
  unfold finishWrite
  split
  · next s hs => exact absurd hs (hw s)
  · rfl

theorem finishWrite_step (h : m.desk.registry.WellFiled) (w : Nat) (result : Except Failure Unit) :
    Step m.bare (m.finishWrite w result).bare := by
  by_cases hw : ∃ s, m.writes[w]? = some ⟨s, .started⟩
  · obtain ⟨s, hw⟩ := hw
    cases result with
    | ok =>
      rw [bare_finishWrite_ok hw]
      exact .sent w s hw
    | error e =>
      cases hr : m.canRetry s.ticket with
      | false =>
        rw [bare_finishWrite_fail h hw e hr]
        exact .fail w s e _ hw (.inl ⟨rfl, hr⟩)
      | true =>
        cases hq : m.queueOpen && m.queueHasRoom with
        | false =>
          rw [bare_finishWrite_full h hw e hr hq]
          exact .fail w s e _ hw (.inr ⟨rfl, hr, hq⟩)
        | true =>
          rw [bare_finishWrite_putBack h hw e hr hq]
          obtain ⟨ho, hroom⟩ := Bool.and_eq_true_iff.1 hq
          exact .putBack w s hw hr ho hroom
  · rw [finishWrite_of_not_started (not_exists.1 hw)]
    exact .idle

theorem ne_running (h : m.isClosed = true) : m.phase ≠ .running := by
  simpa [isClosed] using h

theorem beginClose_step (m : Courier P) : Step m.bare m.beginClose.bare := by
  unfold beginClose
  split
  · exact .idle
  · next hc =>
    have hp : m.phase = .running := by simpa [isClosed] using hc
    have hstep := Step.beginClose (m := m.bare) hp
    simp only
    split
    · next hw =>
      have hw' : m.bare.worker = .unstarted := hw
      rw [if_pos hw', if_pos hw'] at hstep
      rw [bare_reportOrphans]
      exact hstep
    · next hw =>
      have hw' : ¬ m.bare.worker = .unstarted := hw
      rw [if_neg hw', if_neg hw'] at hstep
      exact hstep

/-- Whatever happens to a courier is one of the steps. -/
theorem act_step (h : m.desk.registry.WellFiled) (a : Act P) : Step m.bare (m.act a).bare := by
  cases a with
  | send r runtime => exact send_step m r runtime
  | accept x => exact accept_step h x
  | work => exact work_step m
  | startWrite w => exact startWrite_step m w
  | finishWrite w result => exact finishWrite_step h w result
  | runTimer i => exact runTimer_step h i
  | clock time => exact .clock _ (le_max_left _ _)
  | schedule agenda => exact .idle
  | note e => exact .idle
  | beginClose => exact beginClose_step m
  | abortWorker =>
    simp only [act]
    split
    · next hp => exact .abortWorker _ (ne_running hp.1) hp.2
    · exact .idle
  | closeRegistry =>
    simp only [act]
    split
    · next hp =>
      simp only [closeRegistry, bare, mapDesk, Desk.bare_close]
      exact .closeRegistry (ne_running hp)
    · exact .idle
  | endClose =>
    simp only [act]
    split
    · next hp => exact .endClose (ne_running hp)
    · exact .idle
  | drop => exact .drop

variable {m' : Courier P}

theorem Step.isClosed (h : Step m m') (hc : m.isClosed = true) : m'.isClosed = true := by
  cases h with
  | beginClose hp => simp [Courier.isClosed, hp] at hc
  | closeRegistry | endClose => rfl
  | _ => exact hc

theorem isClosed_beginClose (m : Courier P) : m.beginClose.isClosed = true := by
  unfold beginClose
  split
  · next hc => exact hc
  · simp only
    split
    · exact congrArg isClosed (bare_reportOrphans _)
    · rfl

end GameServers.Courier
