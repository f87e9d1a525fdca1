import GameServers.Ticket

namespace GameServers.Ticket

variable {P : Protocol} (t : Ticket P) (next : Status) (o : Outcome P)

@[simp] theorem request_advance : (t.advance next).request = t.request := by
  unfold advance; split <;> rfl

@[simp] theorem outcome_advance : (t.advance next).outcome = t.outcome := by
  unfold advance; split <;> rfl

theorem status_advance :
    (t.advance next).status = if t.status.canAdvanceTo next then next else t.status := by
  unfold advance; split <;> rfl

theorem advance_of_not (h : t.status.canAdvanceTo next = false) : t.advance next = t := by
  simp [advance, h]

@[simp] theorem request_incrementRetries : t.incrementRetries.request = t.request := rfl

@[simp] theorem outcome_incrementRetries : t.incrementRetries.outcome = t.outcome := rfl

@[simp] theorem status_incrementRetries : t.incrementRetries.status = t.status := rfl

@[simp] theorem request_complete : (t.complete o).request = t.request := by
  unfold complete; split <;> rfl

theorem complete_of_none (h : t.outcome = none) :
    t.complete o = { t with status := .done, outcome := some o } := by
  simp [complete, h]

theorem complete_of_some (h : t.outcome ≠ none) : t.complete o = t := by
  unfold complete
  split
  · rfl
  · next hn => exact absurd hn h

@[simp] theorem isSome_outcome_complete : (t.complete o).outcome.isSome = true := by
  unfold complete
  split
  · next ho => simp [ho]
  · rfl

def Coherent : Prop := t.status = .done ↔ t.outcome.isSome = true

variable {t} {next} {o}

theorem Coherent.advance (h : t.Coherent) (hn : next ≠ .done) : (t.advance next).Coherent := by
  unfold Coherent at *
  rw [outcome_advance, ← h, status_advance]
  split
  · next hc =>
    constructor
    · exact fun he ↦ absurd he hn
    · intro he
      rw [he] at hc
      cases hc
  · rfl

theorem Coherent.complete (h : t.Coherent) : (t.complete o).Coherent := by
  cases ho : t.outcome with
  | none => simp [Coherent, complete_of_none t o ho]
  | some a => rwa [complete_of_some t o (by simp [ho])]

theorem Coherent.status_complete (h : t.Coherent) (o : Outcome P) :
    (t.complete o).status = .done :=
  h.complete.2 (t.isSome_outcome_complete o)

def takeUp (t : Ticket P) : Ticket P := ((t.advance .accepted).advance .registered).advance .await

@[simp] theorem request_takeUp : t.takeUp.request = t.request := by simp [takeUp]

@[simp] theorem outcome_takeUp : t.takeUp.outcome = t.outcome := by simp [takeUp]

theorem status_takeUp (h : t.status.canAdvanceTo .accepted = true) : t.takeUp.status = .await := by
  have h₁ : (t.advance .accepted).status = .accepted := by rw [status_advance, if_pos h]
  have h₂ : ((t.advance .accepted).advance .registered).status = .registered := by
    rw [status_advance, h₁]; rfl
  rw [takeUp, status_advance, h₂]; rfl

theorem Coherent.takeUp (h : t.Coherent) : t.takeUp.Coherent :=
  ((h.advance (by decide)).advance (by decide)).advance (by decide)

def putBack (t : Ticket P) : Ticket P := (t.advance .retry).incrementRetries

@[simp] theorem request_putBack : t.putBack.request = t.request := by simp [putBack]

@[simp] theorem outcome_putBack : t.putBack.outcome = t.outcome := by simp [putBack]

theorem Coherent.putBack (h : t.Coherent) : t.putBack.Coherent :=
  h.advance (by decide)

theorem status_putBack (h : t.status.canAdvanceTo .retry = true) : t.putBack.status = .retry := by
  rw [putBack, status_incrementRetries, status_advance, if_pos h]

/-- What can become of a ticket: the request stays, and so does an outcome. -/
def Leads (t t' : Ticket P) : Prop :=
  t'.request = t.request ∧ ∀ o, t.outcome = some o → t'.outcome = some o

theorem Leads.refl (t : Ticket P) : t.Leads t := ⟨rfl, fun _ h ↦ h⟩

theorem Leads.trans {t t' t'' : Ticket P} (h : t.Leads t') (h' : t'.Leads t'') : t.Leads t'' :=
  ⟨h'.1.trans h.1, fun o ho ↦ h'.2 o (h.2 o ho)⟩

theorem leads_of_eq {t t' : Ticket P} (hr : t'.request = t.request) (ho : t'.outcome = t.outcome) :
    t.Leads t' := ⟨hr, fun _ h ↦ ho.trans h⟩

theorem leads_complete (t : Ticket P) (o : Outcome P) : t.Leads (t.complete o) := by
  refine ⟨t.request_complete o, fun o' ho ↦ ?_⟩
  rw [complete_of_some t o (by simp [ho]), ho]

end GameServers.Ticket

namespace GameServers.Status

theorem canAdvanceTo_accepted {s : Status} :
    s.canAdvanceTo .accepted = true ↔ s = .new ∨ s = .retry := by
  cases s <;> decide

end GameServers.Status
