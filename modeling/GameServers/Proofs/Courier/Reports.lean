import GameServers.Proofs.Courier.Run
import GameServers.Proofs.Desk

namespace GameServers

variable {P : Protocol}

inductive Report
  | orphan (number : Nat)
  | pending (session : Session)
  deriving DecidableEq, Repr

def Event.report? : Event P → Option Report
  | .orphaned n _ _ => some (.orphan n)
  | .pending s _ _ => some (.pending s)
  | _ => none

theorem foldl_concat {α β σ : Type*} {g : σ → List β} {b : α → β} {f : σ → α → σ} {I : σ → Prop}
    {xs : List α} (h : ∀ s, I s → ∀ x ∈ xs, I (f s x) ∧ g (f s x) = g s ++ [b x]) {s : σ}
    (hs : I s) : g (xs.foldl f s) = g s ++ xs.map b := by
  induction xs generalizing s with
  | nil => simp
  | cons x xs ih =>
    obtain ⟨hx, hg⟩ := h s hs x (.head _)
    have hrest := ih (fun s hs y hy ↦ h s hs y (.tail _ hy)) hx
    rw [List.foldl_cons, hrest, hg, List.map_cons, List.append_assoc, List.singleton_append]

namespace Desk

variable (d : Desk P) {n : Nat} {s : Session}

def reports : List Report := (d.journal.filterMap Event.report?).reverse

theorem reports_log {e : Event P} (he : e.report? = none) : (d.log e).reports = d.reports := by
  simp [reports, log, he]

theorem reports_log_of_some {e : Event P} {x : Report} (he : e.report? = some x) :
    (d.log e).reports = d.reports ++ [x] := by
  simp [reports, log, he]

theorem reports_logFor {e : Ticket P → Event P} (he : ∀ t, (e t).report? = none) (n : Nat) :
    (d.logFor n e).reports = d.reports := by
  unfold logFor
  split
  · exact d.reports_log (he _)
  · rfl

@[simp] theorem reports_advance (n : Nat) (next : Status) :
    (d.advance n next).reports = d.reports := by
  unfold advance
  split
  · exact d.reports_logFor (fun _ ↦ rfl) n
  · rfl

@[simp] theorem reports_delete (s : Session) : (d.delete s).reports = d.reports := by
  simp only [delete]
  split
  · exact reports_log _ rfl
  · rfl

@[simp] theorem reports_settle (s : Session) (o : Outcome P) : (d.settle s o).reports = d.reports :=
  reports_delete _ s

theorem reports_foldl_reportPending {l : List Session} (d : Desk P)
    (hl : ∀ s ∈ l, ∃ t, d.tickets[s.ticket]? = some t) :
    (l.foldl reportPending d).reports = d.reports ++ l.map .pending := by
  let I (e : Desk P) : Prop := ∀ s ∈ l, ∃ t, e.tickets[s.ticket]? = some t
  refine foldl_concat (I := I) (fun e he s hs ↦ ?_) hl
  obtain ⟨t, ht⟩ := he s hs
  have hlog : e.reportPending s = e.log (.pending s t.request (e.now - s.registeredAt)) := by
    simp [reportPending, logFor, ht]
  rw [hlog]
  exact ⟨he, e.reports_log_of_some rfl⟩

theorem reports_close (hs : ∀ s ∈ d.registry.entries, ∃ t, d.tickets[s.ticket]? = some t) :
    d.close.reports = d.reports ++ d.registry.entries.map .pending := by
  have hc (e : Desk P) : ({ d.registry.entries.foldl cancelTimer e with registry := {} } :
      Desk P).reports = e.reports :=
    foldl_keeps (f := cancelTimer) reports (fun _ _ ↦ rfl) d.registry.entries e
  simp only [close]
  rw [hc]
  split
  · next he =>
    rw [List.isEmpty_iff.1 he, List.map_nil, List.append_nil]
    rfl
  · have hlog := reports_log { d with closed := true } (e := .registryClosed
      d.registry.entries.length) rfl
    refine (reports_foldl_reportPending (log { d with closed := true } _) hs).trans ?_
    exact congrArg (· ++ _) hlog

end Desk

namespace Courier

variable (m : Courier P)

def reports : List Report := m.desk.reports

theorem reports_log {e : Event P} (he : e.report? = none) : (m.log e).reports = m.reports :=
  m.desk.reports_log he

theorem reports_foldl_reportOrphan {l : List Nat} (m : Courier P)
    (hl : ∀ n ∈ l, ∃ t, m.desk.tickets[n]? = some t) :
    (l.foldl reportOrphan m).reports = m.reports ++ l.map .orphan := by
  let I (k : Courier P) : Prop := ∀ n ∈ l, ∃ t, k.desk.tickets[n]? = some t
  refine foldl_concat (I := I) (fun k hk n hn ↦ ?_) hl
  obtain ⟨t, ht⟩ := hk n hn
  have hlog : k.reportOrphan n = k.log (.orphaned n t k.desk.now) := by
    simp [reportOrphan, mapDesk, log, Desk.logFor, ht]
  rw [hlog]
  exact ⟨hk, k.desk.reports_log_of_some rfl⟩

theorem reports_reportOrphans (hq : ∀ n ∈ m.queue, ∃ t, m.desk.tickets[n]? = some t) :
    m.reportOrphans.reports = m.reports ++ m.queue.map .orphan := by
  simp only [reportOrphans]
  split
  · next he =>
    rw [List.isEmpty_iff.1 he, List.map_nil, List.append_nil]
    rfl
  · have hlog := reports_log { m with queue := [] } (e := .orphans m.queue.length) rfl
    refine (reports_foldl_reportOrphan (log { m with queue := [] } _) hq).trans ?_
    exact congrArg (· ++ _) hlog

theorem reports_stop (hq : ∀ n ∈ m.queue, ∃ t, m.desk.tickets[n]? = some t) :
    m.stop.reports = m.reports ++ m.queue.map .orphan := by
  have hlog := m.reports_log (e := .workerStopping) rfl
  have hr := reports_reportOrphans ((m.log .workerStopping).setWorker .stopped) hq
  rw [← hlog]
  exact hr

theorem reports_requeue (n : Nat) (e : Failure) : (m.requeue n e).reports = m.reports := by
  unfold requeue
  split
  · rfl
  · exact m.desk.reports_logFor (fun _ ↦ rfl) n

theorem reports_finishWrite (w : Nat) (result : Except Failure Unit) :
    (m.finishWrite w result).reports = m.reports := by
  unfold finishWrite
  split
  · next s hw =>
    cases result with
    | ok =>
      exact ((m.desk.advance s.ticket .sent).reports_logFor (fun _ ↦ rfl) s.ticket).trans
        (m.desk.reports_advance s.ticket .sent)
    | error e =>
      simp only
      split
      · refine (reports_requeue _ s.ticket e).trans ((Desk.reports_delete _ s).trans ?_)
        exact (Desk.reports_logFor _ (fun _ ↦ rfl) s.ticket).trans
          (m.desk.reports_advance s.ticket .retry)
      · exact (Desk.reports_settle _ s _).trans (m.desk.reports_logFor (fun _ ↦ rfl) s.ticket)
  · rfl

theorem reports_accept (x : Delivery P) : (m.accept x).reports = m.reports := by
  have hsettle (d : Desk P) (e : Event P) (he : e.report? = none) (s : Session) (o : Outcome P) :
      ((d.log e).settle s o).reports = d.reports :=
    (Desk.reports_settle _ s o).trans (d.reports_log he)
  change (correlate m.desk x).reports = m.desk.reports
  unfold correlate
  split
  · split
    · exact hsettle _ _ rfl _ _
    · exact m.desk.reports_log rfl
    · exact m.desk.reports_log rfl
  · split
    · exact hsettle _ _ rfl _ _
    · exact m.desk.reports_log rfl
  · exact m.desk.reports_log rfl

end Courier

end GameServers
