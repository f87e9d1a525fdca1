import GameServers.Proofs.Courier.Asynchronous
import GameServers.Proofs.Courier.Still

namespace GameServers

variable {P : Protocol}

namespace Courier

variable {m m' m'' : Courier P} {w n : Nat} {x : Write} {s : Session} {ws : WriteState}

/-- Every write that the transport has not been given is about to run. -/
def Called (m : Courier P) : Prop :=
  ∀ w s, m.writes[w]? = some ⟨s, .spawned⟩ → .write w ∈ m.desk.agenda.ready

/-- Every task that can go on is about to run. -/
structure Awake (m : Courier P) : Prop where
  worker : m.canWork = true → .worker ∈ m.desk.agenda.ready
  called : Called m

/-- No task that is ready is put off, and new writes are called. -/
structure Calls (m m' : Courier P) : Prop where
  ready : ∀ t ∈ m.desk.agenda.ready, t ∈ m'.desk.agenda.ready
  writes : ∀ w s, m'.writes[w]? = some ⟨s, .spawned⟩ →
    m.writes[w]? = some ⟨s, .spawned⟩ ∨ .write w ∈ m'.desk.agenda.ready

theorem canWork_congr (hw : m'.worker = m.worker) (hd : m'.shutdown = m.shutdown)
    (hq : m'.queue = m.queue) (hws : m'.writes = m.writes)
    (ht : m'.desk.tickets = m.desk.tickets) : m'.canWork = m.canWork := by
  simp only [canWork, hw, hd, hq, writeTicket, writeResult?, hws, Desk.isDone, ht]

theorem Called.awake (h : Called m) : Awake m.wakeWorker := by
  unfold wakeWorker
  split
  · refine ⟨fun _ ↦ Agenda.mem_ready_wake.2 (.inr rfl), fun w s hw ↦ ?_⟩
    exact Agenda.mem_ready_wake.2 (.inl (h w s hw))
  · next hw => exact ⟨fun hw' ↦ absurd hw' hw, h⟩

namespace Calls

theorem called (h : Calls m m') (hm : Called m) : Called m' := by
  intro w s hw
  rcases h.writes w s hw with hw | hw
  · exact h.ready _ (hm w s hw)
  · exact hw

theorem refl (m : Courier P) : Calls m m := ⟨fun _ ht ↦ ht, fun _ _ hw ↦ .inl hw⟩

theorem trans (h : Calls m m') (h' : Calls m' m'') : Calls m m'' where
  ready t ht := h'.ready t (h.ready t ht)
  writes w s hw := by
    rcases h'.writes w s hw with hw | hw
    · exact (h.writes w s hw).imp_right (h'.ready _)
    · exact .inr hw

theorem of_eq (ha : m'.desk.agenda.ready = m.desk.agenda.ready) (hw : m'.writes = m.writes) :
    Calls m m' := ⟨fun _ ht ↦ ha ▸ ht, fun _ _ hs ↦ .inl (hw ▸ hs)⟩

theorem of_setWrite (ha : m'.desk.agenda.ready = m.desk.agenda.ready) (hws : ws ≠ .spawned)
    (hw : m'.writes = (m.setWrite w ws).writes) : Calls m m' := by
  refine ⟨fun _ ht ↦ ha ▸ ht, fun k s hk ↦ ?_⟩
  obtain ⟨y, hy, hys, ⟨-, hst⟩ | ⟨-, hst⟩⟩ := of_getElem?_setWrite (hw ▸ hk)
  · exact absurd hst.symm hws
  · obtain ⟨s', st⟩ := y
    obtain rfl : s' = s := hys.symm
    obtain rfl : st = .spawned := hst.symm
    exact .inl hy

theorem wake (m : Courier P) (t : Task) : Calls m (m.wake t) where
  ready _ ht := Agenda.mem_ready_wake.2 (.inl ht)
  writes _ _ hw := .inl hw

end Calls

theorem Awake.of_calls (h : Awake m) (hc : m'.canWork = m.canWork) (hm : Calls m m') : Awake m' :=
  ⟨fun hw ↦ hm.ready _ (h.worker (hc ▸ hw)), hm.called h.called⟩

theorem Awake.atRest (h : Awake m) (hr : m.desk.agenda.ready = []) : AtRest m where
  worker := by
    by_contra hw
    have hmem := h.worker (by simpa using hw)
    rw [hr] at hmem
    cases hmem
  writes := by
    rintro ⟨s, ws⟩ hx rfl
    obtain ⟨w, hw⟩ := List.mem_iff_getElem?.1 hx
    have hmem := h.called w s hw
    rw [hr] at hmem
    cases hmem

/-- What the worker may do to the writes, and whom it calls. -/
inductive Rouses (m m' : Courier P) : Prop
  | nobody (ha : m'.desk.agenda = m.desk.agenda) (hw : m'.writes = m.writes)
  | aborts (w : Nat) (x : Write) (hx : m.writes[w]? = some x) (ha : m'.desk.agenda = m.desk.agenda)
    (hw : m'.writes = (m.setWrite w .aborted).writes)
  /-- A request is taken up: its write is called, and its timer if it has one. -/
  | takesUp (s : Session) (a : Agenda)
    (hi : a = m.desk.agenda ∨ a = m.desk.agenda.wake (.timer s.index))
    (ha : m'.desk.agenda = a.wake (.write m.writes.length))
    (hw : m'.writes = m.writes ++ [⟨s, .spawned⟩])

theorem rouses_takeUp (m : Courier P) (n : Nat) : Rouses m (m.takeUp n) := by
  simp only [takeUp]
  split
  · simp only [mapDesk]
    cases hi : m.desk.idFor n true with
    | error e =>
      rw [Desk.create_of_error ((m.desk.idFor_advance n .accepted).trans hi)]
      refine .nobody ?_ rfl
      exact (Desk.agenda_logFor _ n _).trans (m.desk.agenda_advance n .accepted)
    | ok id =>
      rw [Desk.create_of_ok ((m.desk.idFor_advance n .accepted).trans hi)]
      simp only [spawnWrite_eq]
      refine .takesUp ((m.desk.advance n .accepted).nextSession n id) _ ?_ rfl rfl
      rw [Desk.agenda_advance, Desk.agenda_register, Desk.agenda_advance]
      split
      · exact .inl rfl
      · exact .inr rfl
  · exact .nobody (m.desk.agenda_logFor n _) rfl

theorem rouses_work (m : Courier P) : Rouses m m.work := by
  have hstop (k : Courier P) : k.stop.desk.agenda = k.desk.agenda ∧ k.stop.writes = k.writes :=
    ⟨agenda_stop k, congrArg (·.writes) k.bare_stop⟩
  unfold work
  split
  · split
    · exact .nobody (hstop m).1 (hstop m).2
    · split
      · exact .nobody rfl rfl
      · next n rest _ =>
        cases rouses_takeUp { m with queue := rest } n with
        | nobody ha hw => exact .nobody ha hw
        | aborts w x hx ha hw => exact .aborts w x hx ha hw
        | takesUp s a hi ha hw => exact .takesUp s a hi ha hw
  · next w _ =>
    simp only
    split
    · have hdesk := desk_abortWrite m w
      obtain ⟨ha, hw⟩ := hstop (m.abortWrite w)
      rw [hdesk] at ha
      rcases m.abortWrite_cases w with he | ⟨x, hx, -, he⟩
      · rw [he] at ha hw ⊢
        exact .nobody ha hw
      · rw [he] at ha hw ⊢
        exact .aborts w x hx ha hw
    · split
      · exact .nobody (m.desk.agenda_logFor _ _) rfl
      · split <;> exact .nobody rfl rfl
  · split
    · exact .nobody (hstop m).1 (hstop m).2
    · split
      · exact .nobody (m.desk.agenda_logFor _ _) rfl
      · exact .nobody rfl rfl
  · exact .nobody rfl rfl
  · exact .nobody rfl rfl

theorem Rouses.calls (h : Rouses m m') : Calls m m' := by
  cases h with
  | nobody ha hw => exact .of_eq (congrArg _ ha) hw
  | aborts w x hx ha hw => exact .of_setWrite (congrArg _ ha) (by simp) hw
  | takesUp s a hi ha hw =>
    refine ⟨fun t ht ↦ ?_, fun w s' hs' ↦ ?_⟩
    · rw [ha, Agenda.mem_ready_wake]
      rcases hi with rfl | rfl
      · exact .inl ht
      · exact .inl (Agenda.mem_ready_wake.2 (.inl ht))
    · rw [hw] at hs'
      rcases getElem?_concat hs' with hs' | ⟨rfl, -⟩
      · exact .inl hs'
      · rw [ha]
        exact .inr (Agenda.mem_ready_wake.2 (.inr rfl))

theorem calls_workFor (m : Courier P) (fuel : Nat) : Calls m (m.workFor fuel) := by
  induction fuel generalizing m with
  | zero => exact .refl m
  | succ fuel ih =>
    unfold workFor
    split
    · exact (rouses_work m).calls.trans (ih m.work)
    · exact .refl m

theorem calls_send (m : Courier P) (r : P.Request) (runtime : Bool) :
    Calls m (m.send r runtime).1 := by
  have hstart : Calls m m.startWorker := by
    unfold startWorker
    split
    · have hwake := Calls.wake ((m.setWorker .waiting).log (.workerStarted m.config.mode)) .worker
      exact ⟨hwake.ready, hwake.writes⟩
    · exact .refl m
  unfold send
  split
  · exact ⟨hstart.ready, hstart.writes⟩
  · split <;> exact .of_eq rfl rfl

theorem agenda_accept (m : Courier P) (x : Delivery P) :
    (m.accept x).desk.agenda = m.desk.agenda := by
  change (correlate m.desk x).agenda = m.desk.agenda
  unfold correlate
  split
  · split
    · exact Desk.agenda_settle _ _ _
    · rfl
    · rfl
  · split
    · exact Desk.agenda_settle _ _ _
    · rfl
  · rfl

theorem calls_accept (m : Courier P) (x : Delivery P) : Calls m (m.accept x) :=
  .of_eq (congrArg Agenda.ready (m.agenda_accept x)) rfl

theorem agenda_finishWrite (m : Courier P) (w : Nat) (result : Except Failure Unit) :
    (m.finishWrite w result).desk.agenda = m.desk.agenda := by
  unfold finishWrite
  split
  · next s _ =>
    cases result with
    | ok => exact (Desk.agenda_logFor _ s.ticket _).trans (m.desk.agenda_advance s.ticket .sent)
    | error e =>
      simp only [retry, requeue]
      split
      · split <;> simp [mapDesk, setWrite, Desk.complete, Desk.modify]
      · simp [mapDesk, setWrite]
  · rfl

theorem called_startWrite (h : ∀ k s, m.writes[k]? = some ⟨s, .spawned⟩ →
    k = w ∨ .write k ∈ m.desk.agenda.ready) : Called (m.startWrite w) := by
  unfold startWrite
  split
  · intro k s hk
    obtain ⟨⟨s', st⟩, hy, rfl, ⟨-, hst⟩ | ⟨hne, rfl⟩⟩ := of_getElem?_setWrite hk
    · cases hst
    · exact (h k _ hy).resolve_left hne
  · next hnone =>
    intro k s hk
    refine (h k s hk).resolve_left ?_
    rintro rfl
    exact hnone s hk

theorem finishWrite_error (hx : m.writes[w]? = some ⟨s, .started⟩) (e : Failure) :
    let m' := m.finishWrite w (.error e)
    m'.writes = (m.setWrite w (.finished false)).writes ∧ m'.worker = m.worker ∧
      (m'.queue = m.queue ∨ m'.queue = m.queue ++ [s.ticket]) := by
  simp only [finishWrite, hx, retry, requeue]
  split
  · split
    · exact ⟨rfl, rfl, .inr rfl⟩
    · exact ⟨rfl, rfl, .inl rfl⟩
  · exact ⟨rfl, rfl, .inl rfl⟩

theorem calls_finishWrite (m : Courier P) (w : Nat) (result : Except Failure Unit) :
    Calls m (m.finishWrite w result) := by
  have ha := congrArg Agenda.ready (m.agenda_finishWrite w result)
  by_cases hx : ∃ s, m.writes[w]? = some ⟨s, .started⟩
  · obtain ⟨s, hx⟩ := hx
    cases result with
    | ok =>
      have hw : (m.finishWrite w (.ok ())).writes = (m.setWrite w (.finished true)).writes := by
        simp only [finishWrite, hx]
        rfl
      exact .of_setWrite ha (by simp) hw
    | error e => exact .of_setWrite ha (by simp) (finishWrite_error hx e).1
  · rw [finishWrite_of_not_started (not_exists.1 hx)]
    exact .refl m

theorem calls_beginClose (m : Courier P) : Calls m m.beginClose := by
  have horphans (k : Courier P) : Calls k k.reportOrphans :=
    .of_eq (congrArg Agenda.ready k.agenda_reportOrphans)
      (congrArg (fun k : Courier P ↦ k.writes) k.bare_reportOrphans :)
  unfold beginClose
  split
  · exact .refl m
  · simp only
    split
    · let k : Courier P := { m.log .closing with phase := .stopping, shutdown := true }
      have htold : Calls m (k.setWorker .stopped) := .of_eq rfl rfl
      exact htold.trans (horphans _)
    · exact .of_eq rfl rfl

end Courier

namespace Agenda

/-- A task that is not the worker may wake it. -/
def weight : Task → Nat
  | .worker => 1
  | _ => 2

def load (a : Agenda) : Nat := (a.ready.map weight).sum

theorem load_wake_le (a : Agenda) (t : Task) : (a.wake t).load ≤ a.load + weight t := by
  unfold wake
  split
  · exact Nat.le_add_right _ _
  · simp [load]

theorem load_le (a : Agenda) : a.load ≤ 2 * a.ready.length := by
  obtain ⟨ready, alarms⟩ := a
  change (ready.map weight).sum ≤ 2 * ready.length
  induction ready with
  | nil => exact le_rfl
  | cons t ts ih =>
    have hone : weight t ≤ 2 := by
      unfold weight
      split <;> decide
    rw [List.map_cons, List.sum_cons, List.length_cons]
    omega

end Agenda

namespace Courier

variable {m m' m'' : Courier P} {w n : Nat} {x : Write} {s : Session} {ws : WriteState}

def unanswered (m : Courier P) : Nat := m.writes.countP (·.state = .started)

/-- What there is for tasks to do, if the transport answers every write. -/
def effort (m : Courier P) : Nat := m.desk.agenda.load + 5 * m.workLeft + 15 * m.unanswered

theorem unanswered_setWrite (hx : m.writes[w]? = some x)
    (hw : m'.writes = (m.setWrite w ws).writes) :
    m'.unanswered + (decide (x.state = .started)).toNat =
      m.unanswered + (decide (ws = .started)).toNat := by
  rw [unanswered, hw]
  exact countP_modify hx

theorem Rouses.effort (h : Rouses m m') :
    m'.desk.agenda.load + 15 * m'.unanswered ≤ m.desk.agenda.load + 15 * m.unanswered + 4 := by
  cases h with
  | nobody ha hw =>
    rw [ha, unanswered, hw]
    exact Nat.le_add_right _ _
  | aborts w x hx ha hw =>
    have hfewer := unanswered_setWrite hx hw
    simp only [reduceCtorEq, decide_false, Bool.toNat_false] at hfewer
    rw [ha]
    omega
  | takesUp s a hi ha hw =>
    have hsame : m'.unanswered = m.unanswered := by
      simp [unanswered, hw]
    have hwrite := a.load_wake_le (.write m.writes.length)
    have hlight : a.load ≤ m.desk.agenda.load + 2 := by
      rcases hi with rfl | rfl
      · exact Nat.le_add_right _ _
      · exact m.desk.agenda.load_wake_le _
    rw [ha, hsame]
    simp only [Agenda.weight] at hwrite
    omega

theorem effort_work (h : m.canWork = true) : m.work.effort < m.effort := by
  have hleft := workLeft_work h
  have hcalled := (rouses_work m).effort
  unfold effort
  omega

theorem effort_wakeWorker_le (m : Courier P) :
    m.wakeWorker.effort ≤ m.effort + m.canWork.toNat := by
  unfold wakeWorker
  split
  · next hw =>
    have hload : (m.wake .worker).desk.agenda.load ≤ m.desk.agenda.load + 1 :=
      m.desk.agenda.load_wake_le .worker
    change (m.wake .worker).desk.agenda.load + 5 * m.workLeft + 15 * m.unanswered ≤ _
    rw [hw, effort, Bool.toNat_true]
    omega
  · exact Nat.le_add_right _ _

theorem effort_workFor_le (m : Courier P) (fuel : Nat) : (m.workFor fuel).effort ≤ m.effort := by
  induction fuel generalizing m with
  | zero => exact le_rfl
  | succ fuel ih =>
    unfold workFor
    split
    · next hw => exact (ih m.work).trans (effort_work hw).le
    · exact le_rfl

/-- After its turn the worker leaves so much less that it may well be woken again. -/
theorem effort_runWorker_le (m : Courier P) : m.runWorker.wakeWorker.effort ≤ m.effort := by
  have hwake := m.runWorker.effort_wakeWorker_le
  cases hw : m.canWork with
  | true =>
    have hrun : m.runWorker = m.work.workFor 127 := if_pos hw
    have hle := m.work.effort_workFor_le 127
    have hlt := effort_work hw
    have hone := Bool.toNat_le m.runWorker.canWork
    rw [hrun] at hwake hone ⊢
    omega
  | false =>
    have hrun : m.runWorker = m := if_neg (by simp [hw])
    rw [hrun, hw] at hwake
    rwa [hrun]

theorem effort_finishWrite_ok (hx : m.writes[w]? = some ⟨s, .started⟩) :
    (m.finishWrite w (.ok ())).effort + 15 = m.effort := by
  have hfinish : (m.finishWrite w (.ok ())).writes = (m.setWrite w (.finished true)).writes ∧
      (m.finishWrite w (.ok ())).workLeft = m.workLeft := by
    simp only [finishWrite, hx]
    exact ⟨rfl, rfl⟩
  have hfewer := unanswered_setWrite hx hfinish.1
  simp only [reduceCtorEq, decide_true, decide_false, Bool.toNat_true, Bool.toNat_false] at hfewer
  rw [effort, effort, agenda_finishWrite, hfinish.2]
  omega

theorem effort_finishWrite_le (m : Courier P) (w : Nat) (result : Except Failure Unit) :
    (m.finishWrite w result).effort ≤ m.effort := by
  by_cases hx : ∃ s, m.writes[w]? = some ⟨s, .started⟩
  · obtain ⟨s, hx⟩ := hx
    cases result with
    | ok => exact (Nat.le_add_right _ _).trans (effort_finishWrite_ok hx).le
    | error e =>
      obtain ⟨hwrites, hworker, hqueue⟩ := finishWrite_error hx e
      have hfewer := unanswered_setWrite hx hwrites
      simp only [reduceCtorEq, decide_true, decide_false, Bool.toNat_true,
        Bool.toNat_false] at hfewer
      have hleft : (m.finishWrite w (.error e)).workLeft ≤ m.workLeft + 3 := by
        rw [workLeft, workLeft, hworker]
        rcases hqueue with hq | hq
        · rw [hq]
          exact Nat.le_add_right _ _
        · rw [hq, List.length_append, List.length_singleton]
          omega
      rw [effort, effort, agenda_finishWrite]
      omega
  · rw [finishWrite_of_not_started (not_exists.1 hx)]

theorem effort_startWrite_le (m : Courier P) (w : Nat) :
    (m.startWrite w).effort ≤ m.effort + 15 := by
  unfold startWrite
  split
  · next s hx =>
    have hmore : (m.setWrite w .started).unanswered + 0 = m.unanswered + 1 :=
      unanswered_setWrite hx rfl
    change m.desk.agenda.load + 5 * m.workLeft + 15 * (m.setWrite w .started).unanswered ≤ _
    unfold effort
    omega
  · exact Nat.le_add_right _ _

end Courier

end GameServers
