import GameServers.Courier

namespace GameServers.Courier

variable {P : Protocol}

/-- What can happen to a courier. -/
inductive Act (P : Protocol)
  | send (request : P.Request) (runtime : Bool)
  | accept (x : Delivery P)
  | work
  | startWrite (write : Nat)
  | finishWrite (write : Nat) (result : Except Failure Unit)
  | runTimer (index : Nat)
  /-- The clock moves on to a time, unless that has passed. -/
  | clock (time : Time)
  /-- What runs next is decided elsewhere. -/
  | schedule (agenda : Agenda)
  | note (e : Event P)
  | beginClose
  | abortWorker
  | closeRegistry
  | endClose
  | drop

/-- Carries out an act. What cannot happen at the moment changes nothing. -/
def act (m : Courier P) : Act P → Courier P
  | .send request runtime => (m.send request runtime).1
  | .accept x => m.accept x
  | .work => m.work
  | .startWrite w => m.startWrite w
  | .finishWrite w result => m.finishWrite w result
  | .runTimer i => m.mapDesk (·.runTimer i)
  | .clock time => m.mapDesk fun d ↦ { d with now := max d.now time }
  | .schedule agenda => m.mapDesk ({ · with agenda })
  | .note e => m.log e
  | .beginClose => m.beginClose
  | .abortWorker => if m.isClosed ∧ m.worker ≠ .stopped then m.abortWorker else m
  | .closeRegistry => if m.isClosed then m.closeRegistry else m
  | .endClose => if m.isClosed then m.endClose else m
  | .drop => m.drop

def run (m : Courier P) (as : List (Act P)) : Courier P := as.foldl act m

theorem run_append (m : Courier P) (as bs : List (Act P)) :
    m.run (as ++ bs) = (m.run as).run bs := List.foldl_append

theorem run_concat (m : Courier P) (as : List (Act P)) (a : Act P) :
    m.run (as ++ [a]) = (m.run as).act a := run_append m as [a]

def Proceeds (m m' : Courier P) : Prop := ∃ as, (∀ e, .note e ∉ as) ∧ m.run as = m'

def Runs (m m' : Courier P) : Prop := ∃ as, m.run as = m'

namespace Proceeds

variable {m m' m'' : Courier P}

theorem refl (m : Courier P) : m.Proceeds m := ⟨[], by simp, rfl⟩

theorem trans (h : m.Proceeds m') (h' : m'.Proceeds m'') : m.Proceeds m'' := by
  obtain ⟨as, has, rfl⟩ := h
  obtain ⟨bs, hbs, rfl⟩ := h'
  refine ⟨as ++ bs, fun e he ↦ ?_, run_append m as bs⟩
  exact (List.mem_append.1 he).elim (has e) (hbs e)

theorem runs (h : m.Proceeds m') : m.Runs m' := by
  obtain ⟨as, -, rfl⟩ := h
  exact ⟨as, rfl⟩

theorem act (m : Courier P) (a : Act P) (ha : ∀ e, a ≠ .note e) : m.Proceeds (m.act a) :=
  ⟨[a], fun e he ↦ ha e (List.mem_singleton.1 he).symm, rfl⟩

theorem schedule (m : Courier P) (agenda : Agenda) :
    m.Proceeds (m.mapDesk ({ · with agenda })) := act m (.schedule agenda) (by simp)

theorem work (m : Courier P) : m.Proceeds m.work := act m .work (by simp)

theorem workFor (fuel : Nat) (m : Courier P) : m.Proceeds (m.workFor fuel) := by
  induction fuel generalizing m with
  | zero => exact refl m
  | succ fuel ih =>
    unfold Courier.workFor
    split
    · exact (work m).trans (ih m.work)
    · exact refl m

theorem wake (m : Courier P) (t : Task) : m.Proceeds (m.wake t) :=
  schedule m (m.desk.agenda.wake t)

theorem wakeWorker (m : Courier P) : m.Proceeds m.wakeWorker := by
  unfold Courier.wakeWorker
  split
  · exact wake m .worker
  · exact refl m

end Proceeds

namespace Runs

variable {m m' m'' : Courier P}

theorem refl (m : Courier P) : m.Runs m := ⟨[], rfl⟩

theorem trans (h : m.Runs m') (h' : m'.Runs m'') : m.Runs m'' := by
  obtain ⟨as, rfl⟩ := h
  obtain ⟨bs, rfl⟩ := h'
  exact ⟨as ++ bs, run_append m as bs⟩

theorem act (m : Courier P) (a : Act P) : m.Runs (m.act a) := ⟨[a], rfl⟩

theorem foldl {α : Type} {f : Courier P → α → Courier P} (h : ∀ m x, Runs m (f m x)) (xs : List α)
    (m : Courier P) : m.Runs (xs.foldl f m) := by
  induction xs generalizing m with
  | nil => exact refl m
  | cons x xs ih => exact (h m x).trans (ih (f m x))

theorem workFor (fuel : Nat) (m : Courier P) : m.Runs (m.workFor fuel) :=
  (Proceeds.workFor fuel m).runs

theorem wake (m : Courier P) (t : Task) : m.Runs (m.wake t) := (Proceeds.wake m t).runs

theorem wakeWorker (m : Courier P) : m.Runs m.wakeWorker := (Proceeds.wakeWorker m).runs

theorem closeRegistry {m : Courier P} (hc : m.isClosed = true) : m.Runs m.closeRegistry :=
  ⟨[.closeRegistry], if_pos hc⟩

theorem endClose {m : Courier P} (hc : m.isClosed = true) : m.Runs m.endClose :=
  ⟨[.endClose], if_pos hc⟩

theorem abortWorker {m : Courier P} (hc : m.isClosed = true) (hw : m.worker ≠ .stopped) :
    m.Runs m.abortWorker :=
  ⟨[.abortWorker], if_pos ⟨hc, hw⟩⟩

end Runs

def isOpen (m : Courier P) : Bool := !m.shutdown

theorem isOpen_eq_true {m : Courier P} : m.isOpen = true ↔ m.shutdown = false := by
  simp [isOpen]

end GameServers.Courier
