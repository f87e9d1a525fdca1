import GameServers.Proofs.Courier.Attempts
import GameServers.Proofs.Courier.Responses

namespace GameServers

variable {P : Protocol}

/-- A request and the status that it moves to. -/
def Event.move? : Event P → Option (P.Request × Status)
  | .moved r _ next => some (r, next)
  | _ => none

/-- The statuses that a ticket passes through in one act, from one resting place to the next. Its
end is not among them. -/
inductive Status.Leg : Status → List Status → Status → Prop
  | takenUp {st : Status} (h : st = .new ∨ st = .retry) :
    Status.Leg st [.accepted, .registered, .await] .await
  /-- It cannot be registered. -/
  | refused {st : Status} (h : st = .new ∨ st = .retry) : Status.Leg st [.accepted] .done
  | written : Status.Leg .await [.sent] .sent
  | putBack : Status.Leg .await [.retry] .retry
  /-- The queue has no room for it. -/
  | turnedAway : Status.Leg .await [.retry] .done
  | settled {st : Status} (h : st = .await ∨ st = .sent) : Status.Leg st [] .done

namespace Desk

variable (d : Desk P) {d' : Desk P} {n : Nat} {s : Session} {t : Ticket P} {next : Status}

def moves : List (P.Request × Status) := (d.journal.filterMap Event.move?).reverse

theorem moves_log {e : Event P} (he : e.move? = none) : (d.log e).moves = d.moves := by
  simp [moves, log, he]

theorem moves_logFor {e : Ticket P → Event P} (he : ∀ t, (e t).move? = none) (n : Nat) :
    (d.logFor n e).moves = d.moves := by
  unfold logFor
  split
  · exact d.moves_log (he _)
  · rfl

theorem moves_delete (s : Session) : (d.delete s).moves = d.moves := by
  simp only [delete]
  split
  · exact moves_log _ rfl
  · rfl

theorem moves_close : d.close.moves = d.moves := by
  have hc (e : Desk P) :
      ({ d.registry.entries.foldl cancelTimer e with registry := {} } : Desk P).moves = e.moves :=
    foldl_keeps (f := cancelTimer) moves (fun _ _ ↦ rfl) d.registry.entries e
  have hp (e : Desk P) : (d.registry.entries.foldl reportPending e).moves = e.moves :=
    foldl_keeps (f := reportPending) moves (fun e s ↦ e.moves_logFor (fun _ ↦ rfl) s.ticket) _ e
  simp only [close]
  rw [hc]
  split
  · rfl
  · exact (hp _).trans (moves_log _ rfl)

variable {d}

theorem moves_advance (ht : d.tickets[n]? = some t) (ha : t.status.canAdvanceTo next = true) :
    (d.advance n next).moves = d.moves ++ [(t.request, next)] := by
  have hc : d.canAdvance n next = true := canAdvance_eq_true.2 ⟨t, ht, ha⟩
  simp [advance, hc, logFor, ht, moves, modify, log, Event.move?]

theorem advance_of_not (ht : d.tickets[n]? = some t) (ha : t.status.canAdvanceTo next = false) :
    d.advance n next = d := by
  simp [advance, canAdvance, ht, ha]

theorem ticket_advance (ht : d.tickets[n]? = some t) (ha : t.status.canAdvanceTo next = true) :
    (d.advance n next).tickets[n]? = some { t with status := next } := by
  rw [tickets_advance]
  refine (getElem?_modify_of_some (d := d) ht).trans ?_
  rw [Ticket.advance, if_pos ha]

theorem register_eq (d : Desk P) (s : Session) : ∃ e : Desk P,
    e.tickets = d.tickets ∧ e.moves = d.moves ∧ d.register s = e.advance s.ticket .registered := by
  refine ⟨_, ?_, ?_, rfl⟩
  · unfold arm
    split <;> rfl
  · have hlog := d.moves_log (e := .registering s.id s.index) rfl
    unfold arm
    split <;> exact hlog

/-- What one act does to the tickets of a desk. -/
inductive Passes (d d' : Desk P) : Prop
  | still (ht : d'.tickets = d.tickets) (hm : d'.moves = d.moves)
  | issued (t : Ticket P) (hn : t.status = .new) (ht : d'.tickets = d.tickets ++ [t])
      (hm : d'.moves = d.moves)
  /-- One ticket goes along a leg, and all moves reported are its own. -/
  | went (n : Nat) (t : Ticket P) (f : Ticket P → Ticket P) (ms : List Status)
      (ht : d.tickets[n]? = some t) (hf : d'.tickets = d.tickets.modify n f)
      (hl : Status.Leg t.status ms (f t).status) (hm : d'.moves = d.moves ++ ms.map (t.request, ·))

namespace Passes

theorem refl (d : Desk P) : d.Passes d := .still rfl rfl

theorem congr {d'' : Desk P} (h : d.Passes d') (ht : d''.tickets = d'.tickets)
    (hm : d''.moves = d'.moves) : d.Passes d'' := by
  cases h with
  | still ht' hm' => exact .still (ht.trans ht') (hm.trans hm')
  | issued t hn ht' hm' => exact .issued t hn (ht.trans ht') (hm.trans hm')
  | went n t f ms hn hf hl hm' => exact .went n t f ms hn (ht.trans hf) hl (hm.trans hm')

theorem log (d : Desk P) {e : Event P} (he : e.move? = none) : d.Passes (d.log e) :=
  .still rfl (d.moves_log he)

theorem logFor (d : Desk P) {e : Ticket P → Event P} (he : ∀ t, (e t).move? = none) (n : Nat) :
    d.Passes (d.logFor n e) := .still (d.tickets_logFor n e) (d.moves_logFor he n)

theorem settle (ht : d.tickets[s.ticket]? = some t) (ho : t.outcome = none)
    (hs : t.status = .await ∨ t.status = .sent) (hd : d'.tickets = d.tickets)
    (hm : d'.moves = d.moves) (o : Outcome P) : d.Passes (d'.settle s o) := by
  refine .went s.ticket t (·.complete o) [] ht ?_ ?_ ?_
  · rw [← hd]
    exact Desk.tickets_delete _ s
  · rw [t.complete_of_none o ho]
    exact .settled hs
  · rw [List.map_nil, List.append_nil, ← hm]
    exact moves_delete _ s

theorem takeUp (ht : d.tickets[n]? = some t) (ha : t.status.canAdvanceTo .accepted = true)
    (hs : s.ticket = n) : d.Passes (((d.advance n .accepted).register s).advance n .await) := by
  subst hs
  have ht₁ := ticket_advance ht ha
  obtain ⟨e, he, hm, hr⟩ := register_eq (d.advance s.ticket .accepted) s
  have ht₂ : (e.advance s.ticket .registered).tickets[s.ticket]? = _ :=
    ticket_advance (he ▸ ht₁) rfl
  rw [hr]
  refine .went s.ticket t Ticket.takeUp [.accepted, .registered, .await] ht ?_ ?_ ?_
  · rw [tickets_advance, tickets_advance, he, tickets_advance, List.modify_modify_eq,
      List.modify_modify_eq]
    rfl
  · rw [Ticket.status_takeUp ha]
    exact .takenUp (Status.canAdvanceTo_accepted.1 ha)
  · rw [moves_advance ht₂ rfl, moves_advance (he ▸ ht₁) rfl, hm, moves_advance ht ha]
    simp

end Passes

end Desk

namespace Courier

variable {m : Courier P} {n w : Nat} {s : Session} {t : Ticket P} {e : Failure} {d : Desk P}

theorem passes_send (m : Courier P) (r : P.Request) (runtime : Bool) :
    m.desk.Passes (m.send r runtime).1.desk := by
  unfold send
  split
  · have hb : (m.enqueue r).desk.tickets = m.desk.tickets ++ [{ request := r, createdAt := _ }] :=
      (congrArg (·.desk.tickets) (m.bare_enqueue r) :)
    have hm : m.startWorker.desk.moves = m.desk.moves := by
      unfold startWorker
      split
      · exact m.desk.moves_log rfl
      · rfl
    refine .issued _ rfl hb ?_
    exact (Desk.moves_log _ rfl).trans hm
  · split
    · exact .log m.desk rfl
    · exact .refl m.desk

theorem Sound.passes_settle (h : Sound m) (hs : s ∈ m.desk.registry.entries)
    (hd : d.tickets = m.desk.tickets) (hm : d.moves = m.desk.moves) (o : Outcome P) :
    m.desk.Passes (d.settle s o) := by
  obtain ⟨w, x, hx, rfl, hf⟩ := h.known hs
  obtain ⟨t, ht, ho⟩ := h.pending hs
  refine .settle ht ho ?_ hd hm o
  have hfits := h.staged hx ht
  have hnd : t.status ≠ .done := fun hst ↦ by simpa [ho] using (h.coherent ht).1 hst
  rcases hst : x.state with _ | _ | (_ | _) | _
  · exact .inl ((hst ▸ hfits : Fits .spawned _).resolve_right hnd)
  · exact .inl ((hst ▸ hfits : Fits .started _).resolve_right hnd)
  · exact absurd hst hf
  · exact .inr ((hst ▸ hfits : Fits (.finished true) _).resolve_right hnd)
  · exact .inl ((hst ▸ hfits : Fits .aborted _).resolve_right hnd)

theorem Sound.passes_accept (h : Sound m) (x : Delivery P) :
    m.desk.Passes (m.accept x).desk := by
  change m.desk.Passes (correlate m.desk x)
  unfold correlate
  split
  · split
    · next s hs =>
      obtain ⟨id, -, ho⟩ := sessionFor_response hs
      exact h.passes_settle (d := m.desk.log _) (h.filed.oldest?_eq_some ho).1 rfl
        (m.desk.moves_log rfl) _
    · exact .log m.desk rfl
    · exact .log m.desk rfl
  · split
    · next s hs =>
      obtain ⟨k, -, hk⟩ := Option.bind_eq_some_iff.1 hs
      exact h.passes_settle (d := m.desk.log _) (sessionOf?_mem h.filed hk).1 rfl
        (m.desk.moves_log rfl) _
    · exact .log m.desk rfl
  · exact .log m.desk rfl

theorem Sound.passes_runTimer (h : Sound m) (i : Nat) : m.desk.Passes (m.desk.runTimer i) := by
  unfold Desk.runTimer
  split
  · exact .refl m.desk
  · split
    · unfold Desk.expire
      split
      · exact .log m.desk rfl
      · next s hs =>
        exact h.passes_settle (d := (m.desk.cancelTimer s).log _) (h.filed.find?_eq_some hs).1 rfl
          (Desk.moves_log _ rfl) _
    · exact .still rfl rfl

theorem moves_reportOrphans (m : Courier P) : m.reportOrphans.desk.moves = m.desk.moves := by
  have hr (k : Courier P) (n : Nat) : (k.reportOrphan n).desk.moves = k.desk.moves :=
    k.desk.moves_logFor (fun _ ↦ rfl) n
  simp only [reportOrphans]
  split
  · rfl
  · exact (foldl_keeps (fun k : Courier P ↦ k.desk.moves) hr m.queue _).trans
      (m.desk.moves_log rfl)

theorem passes_stop (m : Courier P) : m.desk.Passes m.stop.desk :=
  .still (congrArg (·.desk.tickets) m.bare_stop :)
    ((moves_reportOrphans _).trans (m.desk.moves_log rfl))

theorem passes_spawnWrite (h : d.Passes m.desk) (s : Session) :
    d.Passes (m.spawnWrite s).desk := by
  rw [desk_spawnWrite]
  exact h.congr rfl rfl

theorem Sound.passes_takeUp (h : Sound m) (n : Nat) (rest : List Nat) :
    m.desk.Passes ({ m with queue := rest }.takeUp n).desk := by
  simp only [takeUp]
  split
  · next hc =>
    obtain ⟨t, ht, ha⟩ := Desk.canAdvance_eq_true.1 hc
    have hid := m.desk.idFor_advance n .accepted
    cases hi : m.desk.idFor n true with
    | ok id =>
      simp only [mapDesk, Desk.create_of_ok (hid.trans hi)]
      exact passes_spawnWrite (m := { m with desk := _, queue := rest })
        (.takeUp (s := Desk.nextSession _ n id) ht ha rfl) _
    | error e =>
      simp only [mapDesk, Desk.create_of_error (hid.trans hi)]
      have hst := Status.canAdvanceTo_accepted.1 ha
      refine .went n t (fun t ↦ (t.advance .accepted).complete (.error e)) [.accepted] ht ?_ ?_ ?_
      · change List.modify (Desk.logFor _ n _).tickets n _ = _
        rw [Desk.tickets_logFor, Desk.tickets_advance, List.modify_modify_eq]
        rfl
      · rw [((h.coherent ht).advance (by decide)).status_complete]
        exact .refused hst
      · exact (Desk.moves_logFor _ (fun _ ↦ rfl) n).trans (Desk.moves_advance ht ha)
  · exact .logFor m.desk (fun _ ↦ rfl) n

theorem Sound.passes_work (h : Sound m) : m.desk.Passes m.work.desk := by
  unfold work
  split
  · split
    · exact passes_stop m
    · split
      · exact .refl m.desk
      · next n rest _ => exact h.passes_takeUp n rest
  · next w _ =>
    simp only
    split
    · have hs := passes_stop (m.abortWrite w)
      rwa [desk_abortWrite] at hs
    · split
      · exact .logFor m.desk (fun _ ↦ rfl) _
      · split
        · exact .refl m.desk
        · exact .refl m.desk
  · next n _ =>
    split
    · exact passes_stop m
    · split
      · exact .logFor m.desk (fun _ ↦ rfl) n
      · exact .refl m.desk
  · exact .refl m.desk
  · exact .refl m.desk

theorem Sound.status_of_started (h : Sound m) (hw : m.writes[w]? = some ⟨s, .started⟩) :
    ∃ t, m.desk.tickets[s.ticket]? = some t ∧
      (t.status = .await ∧ t.outcome = none ∨ t.status = .done ∧ t.outcome ≠ none) := by
  obtain ⟨t, ht, -⟩ := h.named hw
  refine ⟨t, ht, ?_⟩
  rcases h.staged hw ht with hst | hst
  · refine .inl ⟨hst, ?_⟩
    by_contra ho
    have hd := (h.coherent ht).2 (Option.isSome_iff_ne_none.2 ho)
    rw [hst] at hd
    cases hd
  · exact .inr ⟨hst, Option.isSome_iff_ne_none.1 ((h.coherent ht).1 hst)⟩

theorem Sound.passes_finishWrite_ok (h : Sound m) (hw : m.writes[w]? = some ⟨s, .started⟩) :
    m.desk.Passes (m.finishWrite w (.ok ())).desk := by
  obtain ⟨t, ht, hst⟩ := h.status_of_started hw
  have hd : (m.finishWrite w (.ok ())).desk =
      (m.desk.advance s.ticket .sent).logFor s.ticket fun t ↦ .written t.request := by
    simp only [finishWrite, hw]
    rfl
  rw [hd]
  rcases hst with ⟨hst, -⟩ | ⟨hst, -⟩
  · have ha : t.status.canAdvanceTo .sent = true := by rw [hst]; rfl
    refine .went s.ticket t (·.advance .sent) [.sent] ht ?_ ?_ ?_
    · rw [Desk.tickets_logFor, Desk.tickets_advance]
    · rw [t.status_advance, if_pos ha, hst]
      exact .written
    · exact (Desk.moves_logFor _ (fun _ ↦ rfl) _).trans (Desk.moves_advance ht ha)
  · rw [Desk.advance_of_not ht (by rw [hst]; rfl)]
    exact .logFor m.desk (fun _ ↦ rfl) _

theorem Sound.passes_retry (h : Sound m) (hw : m.writes[w]? = some ⟨s, .started⟩)
    (hr : m.canRetry s.ticket = true) (e : Failure) :
    m.desk.Passes (m.retry s e).desk := by
  obtain ⟨t, ht, -⟩ := h.named hw
  have ha := ((canRetry_iff ht).1 hr).2
  have hst : t.status = .await := by
    rcases h.staged hw ht with hst | hst
    · exact hst
    · rw [hst] at ha
      cases ha
  have htickets := congrArg Desk.tickets (bare_putBack h.filed s e m.config.maxWriteRetries)
  change Desk.tickets (Desk.delete _ s) = m.desk.tickets.modify s.ticket Ticket.putBack at htickets
  have hmoves := Desk.moves_advance ht ha
  simp only [retry, requeue]
  split
  · refine .went s.ticket t Ticket.putBack [.retry] ht htickets ?_ ?_
    · rw [Ticket.status_putBack ha, hst]
      exact .putBack
    · refine (Desk.moves_delete _ s).trans (.trans ?_ hmoves)
      exact Desk.moves_logFor _ (fun _ ↦ rfl) _
  · refine .went s.ticket t (fun t ↦ t.putBack.complete (.error e)) [.retry] ht ?_ ?_ ?_
    · change List.modify (Desk.logFor _ s.ticket _).tickets s.ticket _ = _
      rw [Desk.tickets_logFor]
      refine (congrArg (List.modify · s.ticket _) htickets).trans ?_
      rw [List.modify_modify_eq]
      rfl
    · rw [(h.coherent ht).putBack.status_complete, hst]
      exact .turnedAway
    · refine (Desk.moves_logFor _ (fun _ ↦ rfl) _).trans ?_
      refine (Desk.moves_delete _ s).trans (.trans ?_ hmoves)
      exact Desk.moves_logFor _ (fun _ ↦ rfl) _

theorem Sound.passes_finishWrite (h : Sound m) (w : Nat) (result : Except Failure Unit) :
    m.desk.Passes (m.finishWrite w result).desk := by
  by_cases hw : ∃ s, m.writes[w]? = some ⟨s, .started⟩
  · obtain ⟨s, hw⟩ := hw
    cases result with
    | ok => exact h.passes_finishWrite_ok hw
    | error e =>
      cases hr : m.canRetry s.ticket with
      | true =>
        have hd : (m.finishWrite w (.error e)).desk = (m.retry s e).desk := by
          simp only [finishWrite, hw, hr]
          rfl
        exact hd ▸ h.passes_retry hw hr e
      | false =>
        have hd : (m.finishWrite w (.error e)).desk =
            (m.desk.logFor s.ticket fun t ↦ .notSent t.request e).settle s (.error e) := by
          simp only [finishWrite, hw, hr]
          rfl
        have hl := m.desk.moves_logFor (e := fun t ↦ .notSent t.request e) (fun _ ↦ rfl) s.ticket
        obtain ⟨t, ht, ⟨hst, ho⟩ | ⟨-, ho⟩⟩ := h.status_of_started hw
        · exact hd ▸ .settle ht ho (.inl hst) (m.desk.tickets_logFor _ _) hl _
        · rw [hd]
          refine .still ?_ ((Desk.moves_delete _ s).trans hl)
          have hsame : (m.desk.modify s.ticket (·.complete (.error e))).tickets = m.desk.tickets :=
            congrArg Desk.tickets (Desk.modify_eq_self fun u hu ↦ by
              rw [Option.some.inj (hu.symm.trans ht)]
              exact t.complete_of_some _ ho)
          refine .trans ?_ hsame
          rw [Desk.settle, Desk.tickets_delete]
          exact congrArg (List.modify · s.ticket _) (m.desk.tickets_logFor s.ticket _)
  · rw [finishWrite_of_not_started (not_exists.1 hw)]
    exact .refl m.desk

theorem passes_beginClose (m : Courier P) : m.desk.Passes m.beginClose.desk := by
  have hlog : m.desk.Passes (m.log .closing).desk := .log m.desk rfl
  unfold beginClose
  split
  · exact .refl m.desk
  · simp only
    split
    · have hb := congrArg (fun k : Courier P ↦ k.desk.tickets) (bare_reportOrphans
        (setWorker { m.log .closing with phase := .stopping, shutdown := true } .stopped))
      exact hlog.congr hb (moves_reportOrphans _)
    · exact hlog

/-- Whatever happens to a courier, at most one ticket moves, and goes along one leg of its way. -/
theorem Sound.passes_act (h : Sound m) {a : Act P} (ha : ∀ e, a ≠ .note e) :
    m.desk.Passes (m.act a).desk := by
  cases a with
  | send r runtime => exact passes_send m r runtime
  | accept x => exact h.passes_accept x
  | work => exact h.passes_work
  | startWrite w =>
    simp only [Courier.act, startWrite]
    split <;> exact .refl m.desk
  | finishWrite w result => exact h.passes_finishWrite w result
  | runTimer i => exact h.passes_runTimer i
  | clock | schedule => exact .still rfl rfl
  | note e => exact absurd rfl (ha e)
  | beginClose => exact passes_beginClose m
  | abortWorker =>
    simp only [Courier.act]
    split
    · exact .log m.desk rfl
    · exact .refl m.desk
  | closeRegistry =>
    simp only [Courier.act]
    split
    · exact .still m.desk.tickets_close m.desk.moves_close
    · exact .refl m.desk
  | endClose =>
    simp only [Courier.act]
    split <;> exact .refl m.desk
  | drop => exact .refl m.desk

end Courier

end GameServers
