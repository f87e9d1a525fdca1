import GameServers.Proofs.Courier.Step
import GameServers.Proofs.Desk.Schedule

namespace GameServers

variable {P : Protocol}

namespace Desk

variable (d : Desk P)

@[simp] theorem now_logFor (n : Nat) (e : Ticket P → Event P) : (d.logFor n e).now = d.now :=
  (congrArg now (d.bare_logFor n e) :)

@[simp] theorem now_advance (n : Nat) (next : Status) : (d.advance n next).now = d.now :=
  (congrArg now (d.bare_advance n next) :)

@[simp] theorem now_delete (s : Session) : (d.delete s).now = d.now := by
  simp only [delete]
  split <;> rfl

@[simp] theorem now_settle (s : Session) (o : Outcome P) : (d.settle s o).now = d.now :=
  now_delete _ s

@[simp] theorem now_expire (t : Timer) : (d.expire t).now = d.now := by
  unfold expire
  split
  · rfl
  · exact now_settle _ _ _

@[simp] theorem naps_logFor (n : Nat) (e : Ticket P → Event P) : (d.logFor n e).naps = d.naps :=
  (congrArg naps (d.bare_logFor n e) :)

@[simp] theorem naps_advance (n : Nat) (next : Status) : (d.advance n next).naps = d.naps :=
  (congrArg naps (d.bare_advance n next) :)

@[simp] theorem naps_delete (s : Session) : (d.delete s).naps = d.naps := by
  simp only [delete]
  split <;> rfl

@[simp] theorem naps_settle (s : Session) (o : Outcome P) : (d.settle s o).naps = d.naps :=
  naps_delete _ s

@[simp] theorem naps_expire (t : Timer) : (d.expire t).naps = d.naps := by
  unfold expire
  split
  · rfl
  · exact naps_settle _ _ _

/-- The clock stands still, no alarm is set and no sleep begins. -/
structure Still (d d' : Desk P) : Prop where
  alarms : d'.agenda.alarms = d.agenda.alarms
  now : d'.now = d.now
  naps : d'.naps = d.naps

namespace Still

variable {d d' d'' : Desk P}

theorem refl (d : Desk P) : d.Still d := ⟨rfl, rfl, rfl⟩

theorem trans (h : d.Still d') (h' : d'.Still d'') : d.Still d'' :=
  ⟨h'.alarms.trans h.alarms, h'.now.trans h.now, h'.naps.trans h.naps⟩

theorem of_agenda (ha : d'.agenda = d.agenda) (hn : d'.now = d.now) (hp : d'.naps = d.naps) :
    d.Still d' :=
  ⟨congrArg Agenda.alarms ha, hn, hp⟩

theorem log (d : Desk P) (e : Event P) : d.Still (d.log e) := ⟨rfl, rfl, rfl⟩

theorem wake (d : Desk P) (t : Task) : d.Still (d.wake t) := ⟨Agenda.alarms_wake, rfl, rfl⟩

theorem logFor (d : Desk P) (n : Nat) (e : Ticket P → Event P) : d.Still (d.logFor n e) :=
  of_agenda (d.agenda_logFor n e) (d.now_logFor n e) (d.naps_logFor n e)

theorem advance (d : Desk P) (n : Nat) (next : Status) : d.Still (d.advance n next) :=
  of_agenda (d.agenda_advance n next) (d.now_advance n next) (d.naps_advance n next)

theorem settle (d : Desk P) (s : Session) (o : Outcome P) : d.Still (d.settle s o) :=
  of_agenda (d.agenda_settle s o) (d.now_settle s o) (d.naps_settle s o)

theorem register (d : Desk P) (s : Session) : d.Still (d.register s) := by
  refine ⟨?_, d.now_register s, d.naps_register s⟩
  rw [agenda_register]
  split
  · rfl
  · exact Agenda.alarms_wake

end Still

end Desk

namespace Courier

variable (m : Courier P)

theorem abortWrite_keeps (m : Courier P) (w : Nat) :
    (m.abortWrite w).desk = m.desk ∧ (m.abortWrite w).queue = m.queue ∧
      (m.abortWrite w).phase = m.phase ∧ (m.abortWrite w).shutdown = m.shutdown := by
  rcases m.abortWrite_cases w with he | ⟨x, -, -, he⟩ <;> rw [he] <;> exact ⟨rfl, rfl, rfl, rfl⟩

theorem desk_abortWrite (m : Courier P) (w : Nat) : (m.abortWrite w).desk = m.desk :=
  (m.abortWrite_keeps w).1

theorem agenda_reportOrphans (m : Courier P) : m.reportOrphans.desk.agenda = m.desk.agenda := by
  have hr (k : Courier P) (n : Nat) : (k.reportOrphan n).desk.agenda = k.desk.agenda :=
    k.desk.agenda_logFor n _
  simp only [reportOrphans]
  split
  · rfl
  · exact foldl_keeps (fun k : Courier P ↦ k.desk.agenda) hr _ _

theorem still_send (q : P.Request) (runtime : Bool) : m.desk.Still (m.send q runtime).1.desk := by
  have hstart : m.desk.Still m.startWorker.desk := by
    unfold startWorker
    split
    · exact (Desk.Still.log m.desk _).trans (.wake _ .worker)
    · exact .refl m.desk
  unfold send
  split
  · exact ⟨hstart.alarms, hstart.now, hstart.naps⟩
  · split <;> exact ⟨rfl, rfl, rfl⟩

theorem still_accept (x : Delivery P) : m.desk.Still (m.accept x).desk := by
  have hsettle (e : Event P) (s : Session) (o : Outcome P) :
      m.desk.Still ((m.desk.log e).settle s o) := (Desk.Still.log _ e).trans (.settle _ s o)
  change m.desk.Still (correlate m.desk x)
  unfold correlate
  split
  · split
    · exact hsettle _ _ _
    · exact ⟨rfl, rfl, rfl⟩
    · exact ⟨rfl, rfl, rfl⟩
  · split
    · exact hsettle _ _ _
    · exact ⟨rfl, rfl, rfl⟩
  · exact ⟨rfl, rfl, rfl⟩

theorem still_reportOrphans : m.desk.Still m.reportOrphans.desk :=
  .of_agenda (agenda_reportOrphans m)
    (congrArg (fun k : Courier P ↦ k.desk.now) m.bare_reportOrphans :)
    (congrArg (fun k : Courier P ↦ k.desk.naps) m.bare_reportOrphans :)

theorem still_stop : m.desk.Still m.stop.desk :=
  (Desk.Still.log m.desk .workerStopping).trans
    (still_reportOrphans ((m.log .workerStopping).setWorker .stopped))

theorem still_spawnWrite (s : Session) : m.desk.Still (m.spawnWrite s).desk := by
  rw [desk_spawnWrite]
  exact .wake m.desk _

theorem still_takeUp (n : Nat) : m.desk.Still (m.takeUp n).desk := by
  simp only [takeUp]
  split
  · have hadvance := Desk.Still.advance m.desk n .accepted
    simp only [mapDesk]
    cases hi : m.desk.idFor n true with
    | error e =>
      rw [Desk.create_of_error ((m.desk.idFor_advance n .accepted).trans hi)]
      have hlog := Desk.Still.logFor (m.desk.advance n .accepted) n fun t ↦
        .unregistrable t.request e
      exact hadvance.trans ⟨hlog.alarms, hlog.now, hlog.naps⟩
    | ok id =>
      rw [Desk.create_of_ok ((m.desk.idFor_advance n .accepted).trans hi)]
      refine .trans ?_ (still_spawnWrite _ _)
      exact (hadvance.trans (.register _ _)).trans (.advance _ n .await)
  · exact .logFor m.desk n _

theorem still_work : m.desk.Still m.work.desk := by
  unfold work
  split
  · split
    · exact still_stop m
    · split
      · exact .refl m.desk
      · next n rest _ => exact still_takeUp { m with queue := rest } n
  · next w _ =>
    simp only
    split
    · rw [← desk_abortWrite m w]
      exact still_stop _
    · split
      · exact .logFor m.desk _ _
      · split <;> exact .refl m.desk
  · split
    · exact still_stop m
    · split
      · exact .logFor m.desk _ _
      · exact .refl m.desk
  · exact .refl m.desk
  · exact .refl m.desk

theorem still_workFor (fuel : Nat) : m.desk.Still (m.workFor fuel).desk := by
  induction fuel generalizing m with
  | zero => exact .refl m.desk
  | succ fuel ih =>
    unfold workFor
    split
    · exact (still_work m).trans (ih m.work)
    · exact .refl m.desk

theorem still_wakeWorker : m.desk.Still m.wakeWorker.desk := by
  unfold wakeWorker
  split
  · exact .wake m.desk .worker
  · exact .refl m.desk

theorem still_startWrite (w : Nat) : m.desk.Still (m.startWrite w).desk := by
  unfold startWrite
  split <;> exact .refl m.desk

theorem still_retry (s : Session) (e : Failure) : m.desk.Still (m.retry s e).desk := by
  simp only [retry, requeue]
  split <;> refine .of_agenda ?_ ?_ ?_ <;> simp [mapDesk, Desk.complete, Desk.modify]

theorem still_finishWrite (w : Nat) (result : Except Failure Unit) :
    m.desk.Still (m.finishWrite w result).desk := by
  unfold finishWrite
  split
  · next s _ =>
    cases result with
    | ok => exact (Desk.Still.advance m.desk s.ticket .sent).trans (.logFor _ s.ticket _)
    | error e =>
      simp only
      split
      · exact still_retry m s e
      · exact (Desk.Still.logFor m.desk s.ticket _).trans (.settle _ s _)
  · exact .refl m.desk

theorem still_beginClose : m.desk.Still m.beginClose.desk := by
  unfold beginClose
  split
  · exact .refl m.desk
  · let k : Courier P := { m.log .closing with phase := .stopping, shutdown := true }
    have hlog : m.desk.Still k.desk := .log m.desk .closing
    simp only
    split
    · exact hlog.trans (still_reportOrphans (k.setWorker .stopped))
    · exact hlog

end Courier

end GameServers
