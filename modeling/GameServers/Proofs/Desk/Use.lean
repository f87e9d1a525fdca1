import GameServers.Proofs.Desk.Commuting

namespace GameServers

variable {P : Protocol}

namespace Ticket

def Sealed (t : Ticket P) : Prop := t.outcome ≠ none → t.status = .done

/-- What anyone may do to a ticket: its request stays, an outcome stays, and with it the status. -/
def Mild (f : Ticket P → Ticket P) : Prop := ∀ t, t.Leads (f t) ∧ (t.Sealed → (f t).Sealed)

namespace Mild

variable {f g : Ticket P → Ticket P}

theorem id : Mild (P := P) id := fun t ↦ ⟨.refl t, fun h ↦ h⟩

theorem comp (hg : Mild g) (hf : Mild f) : Mild fun t ↦ g (f t) := fun t ↦
  ⟨(hf t).1.trans (hg (f t)).1, fun h ↦ (hg (f t)).2 ((hf t).2 h)⟩

theorem advance (next : Status) : Mild (P := P) (·.advance next) := by
  intro t
  refine ⟨leads_of_eq (t.request_advance next) (t.outcome_advance next), fun h ho ↦ ?_⟩
  have hd := h fun hn ↦ ho ((t.outcome_advance next).trans hn)
  change (t.advance next).status = .done
  rw [t.advance_of_not next (by rw [hd]; rfl), hd]

theorem complete (o : Outcome P) : Mild (P := P) (·.complete o) := by
  intro t
  refine ⟨t.leads_complete o, fun h ↦ ?_⟩
  change (t.complete o).Sealed
  cases ho : t.outcome with
  | none =>
    rw [t.complete_of_none o ho]
    exact fun _ ↦ rfl
  | some a => rwa [t.complete_of_some o (by simp [ho])]

theorem incrementRetries : Mild (P := P) incrementRetries := fun _ ↦
  ⟨leads_of_eq rfl rfl, fun h ↦ h⟩

theorem takeUp : Mild (P := P) takeUp :=
  (advance .await).comp ((advance .registered).comp (advance .accepted))

theorem putBack : Mild (P := P) putBack := incrementRetries.comp (advance .retry)

end Mild

end Ticket

namespace Desk

/-- What can be done at a desk. -/
inductive Use (P : Protocol)
  | issue (request : P.Request)
  | create (ticket : Nat) (runtime : Bool)
  | operate (x : Operation P)
  | complete (ticket : Nat) (outcome : Outcome P)
  | advance (ticket : Nat) (next : Status)
  | incrementRetries (ticket : Nat)
  | close

def use (d : Desk P) : Use P → Desk P
  | .issue r => d.issue r
  | .create n runtime => (d.create n runtime).1
  | .operate x => d.operate x
  | .complete n o => d.complete n o
  | .advance n next => d.advance n next
  | .incrementRetries n => d.modify n Ticket.incrementRetries
  | .close => d.close

/-- What a desk keeps in all hands. -/
structure Tidy (d : Desk P) : Prop where
  filed : d.registry.WellFiled
  counted : ∀ s ∈ d.registry.entries, s.index ≤ d.counter
  sealed : ∀ {n : Nat} {t : Ticket P}, d.tickets[n]? = some t → t.Sealed

/-- A desk that is still tidy, with all tickets and outcomes of the one before. -/
structure Succeeds (d' d : Desk P) : Prop where
  tidy : d'.Tidy
  leads : ∀ {n : Nat} {t : Ticket P}, d.tickets[n]? = some t →
    ∃ t', d'.tickets[n]? = some t' ∧ t.Leads t'

variable {d d' d'' : Desk P} {s : Session} {f : Ticket P → Ticket P}

theorem Tidy.bare_iff : d.bare.Tidy ↔ d.Tidy := ⟨fun h ↦ { h with }, fun h ↦ { h with }⟩

namespace Succeeds

theorem trans (h : d'.Succeeds d) (h' : d''.Succeeds d') : d''.Succeeds d where
  tidy := h'.tidy
  leads ht := by
    obtain ⟨t', ht', hl⟩ := h.leads ht
    obtain ⟨t'', ht'', hl'⟩ := h'.leads ht'
    exact ⟨t'', ht'', hl.trans hl'⟩

theorem known {n : Nat} (h : d'.Succeeds d) (hn : n < d.tickets.length) : n < d'.tickets.length := by
  obtain ⟨t', ht', -⟩ := h.leads (List.getElem?_eq_getElem hn)
  exact (List.getElem?_eq_some_iff.1 ht').1

theorem of_bare (h : d'.bare.Succeeds d.bare) : d'.Succeeds d := ⟨Tidy.bare_iff.1 h.tidy, h.leads⟩

end Succeeds

namespace Tidy

theorem same (h : d.Tidy) : d.Succeeds d := ⟨h, fun ht ↦ ⟨_, ht, .refl _⟩⟩

theorem issue (h : d.Tidy) (r : P.Request) : (d.issue r).Succeeds d where
  tidy := by
    refine ⟨h.filed, h.counted, fun {n t} ht ↦ ?_⟩
    rcases List.mem_append.1 (List.mem_of_getElem? ht) with ht | ht
    · obtain ⟨k, hk⟩ := List.mem_iff_getElem?.1 ht
      exact h.sealed hk
    · rw [List.mem_singleton.1 ht]
      exact fun ho ↦ absurd rfl ho
  leads ht := ⟨_, (List.getElem?_append_left (List.getElem?_eq_some_iff.1 ht).1).trans ht, .refl _⟩

theorem modify (h : d.Tidy) (n : Nat) (hf : Ticket.Mild f) : (d.modify n f).Succeeds d where
  tidy := by
    refine ⟨h.filed, h.counted, fun {k t} ht ↦ ?_⟩
    obtain ⟨u, hu, ⟨-, rfl⟩ | ⟨-, rfl⟩⟩ := of_getElem?_modify ht
    · exact (hf u).2 (h.sealed hu)
    · exact h.sealed hu
  leads {k t} ht := by
    by_cases hk : k = n
    · subst hk
      exact ⟨f t, getElem?_modify_of_some ht, (hf t).1⟩
    · exact ⟨t, (getElem?_modify_of_ne hk).trans ht, .refl t⟩

theorem strike (h : d.Tidy) (s : Session) : (d.strike s).Succeeds d where
  tidy := by
    refine ⟨h.filed.remove s, fun x hx ↦ ?_, h.sealed⟩
    exact h.counted x (h.filed.mem_entries_remove.1 hx).1
  leads := h.same.leads

theorem file (h : d.Tidy) (hs : s.index = d.counter + 1) (timers : List Timer) :
    Succeeds { d with counter := s.index, registry := d.registry.file s, timers } d where
  tidy := by
    refine ⟨h.filed.file fun x hx ↦ ?_, fun x hx ↦ ?_, h.sealed⟩
    · have hle := h.counted x hx
      omega
    · change x.index ≤ s.index
      rcases Registry.mem_entries_file.1 hx with rfl | hx
      · exact le_rfl
      · have hle := h.counted x hx
        omega
  leads := h.same.leads

theorem clear (h : d.Tidy) (timers : List Timer) :
    Succeeds { d with closed := true, registry := {}, timers } d where
  tidy := ⟨.empty, fun x hx ↦ by simp [Registry.entries] at hx, h.sealed⟩
  leads := h.same.leads

theorem withdraw (h : d.Tidy) (s : Session) (hf : Ticket.Mild f) :
    ((d.modify s.ticket f).strike s).Succeeds d :=
  (h.modify s.ticket hf).trans ((h.modify s.ticket hf).tidy.strike s)

theorem register (h : d.Tidy) (hs : s.index = d.counter + 1) :
    (d.register s).Succeeds d := by
  have hfile (timers : List Timer) : (Desk.modify { d.bare with
      counter := s.index, registry := d.registry.file s, timers } s.ticket
        (·.advance .registered)).Succeeds d.bare :=
    ((bare_iff.2 h).file hs timers).trans
      (((bare_iff.2 h).file hs timers).tidy.modify s.ticket (.advance .registered))
  refine .of_bare ?_
  cases hd : d.isDone s.ticket with
  | false =>
    rw [bare_register hd]
    exact hfile _
  | true =>
    rw [bare_register_of_done hd]
    exact hfile _

theorem doze (h : d.Tidy) (i : Nat) : (d.doze i).Succeeds d where
  tidy := ⟨h.filed, h.counted, h.sealed⟩
  leads := h.same.leads

theorem operate (h : d.Tidy) (x : Operation P) : (d.operate x).Succeeds d := by
  refine .of_bare ?_
  rw [bare_operate h.filed]
  have hb := bare_iff.2 h
  match he : d.effect? x with
  | none => exact hb.same
  | some (.nap s) => exact hb.doze s.index
  | some (.loss s f) =>
    refine hb.withdraw s ?_
    rcases eq_of_effect? he with hf | ⟨o, hf⟩
    · exact hf ▸ .id
    · exact hf ▸ .complete o

theorem use (h : d.Tidy) (u : Use P) : (d.use u).Succeeds d := by
  cases u with
  | issue r => exact h.issue r
  | create n runtime =>
    simp only [Desk.use, create]
    cases d.idFor n runtime with
    | error e => exact h.same
    | ok id => exact h.register rfl
  | operate x => exact h.operate x
  | complete n o => exact h.modify n (.complete o)
  | advance n next =>
    refine .of_bare ?_
    simp only [Desk.use, bare_advance]
    exact (bare_iff.2 h).modify n (.advance next)
  | incrementRetries n => exact h.modify n .incrementRetries
  | close =>
    refine .of_bare ?_
    simp only [Desk.use, bare_close]
    exact (bare_iff.2 h).clear _

end Tidy

end Desk

end GameServers
