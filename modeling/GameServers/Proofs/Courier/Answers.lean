import GameServers.Proofs.Courier.Placement
import GameServers.Proofs.SessionId
import Mathlib.Data.List.Induction

namespace GameServers

variable {P : Protocol}

/-- If a response settled the request, both have the same session id. -/
def Ticket.Paired (t : Ticket P) : Prop :=
  ∀ r, t.outcome = some (.ok r) → ∃ id,
    (Envelope.request t.request : Envelope P).sessionId = .ok id ∧
      (Envelope.response r : Envelope P).sessionId = .ok id

namespace Ticket.Paired

variable {t t' : Ticket P}

theorem of_none (h : t.outcome = none) : t.Paired := by
  intro r ho
  rw [h] at ho
  cases ho

theorem congr (h : t.Paired) (hr : t'.request = t.request) (ho : t'.outcome = t.outcome) :
    t'.Paired := by
  intro r hr'
  rw [hr]
  exact h r (ho.symm.trans hr')

theorem complete_error (h : t.Paired) (e : Failure) : (t.complete (.error e)).Paired := by
  cases ho : t.outcome with
  | none =>
    rw [complete_of_none t _ ho]
    intro r hr
    cases hr
  | some o =>
    rw [complete_of_some t _ (by simp [ho])]
    exact h

end Ticket.Paired

namespace Courier

variable {m m' : Courier P} {n : Nat} {r : P.Response}

def Paired (m : Courier P) : Prop :=
  ∀ (n : Nat) (t : Ticket P), m.desk.tickets[n]? = some t → t.Paired

namespace Paired

theorem make (config : Config) : Paired (make config : Courier P) := by
  intro n t ht
  simp [Courier.make] at ht

theorem modify (hp : Paired m) {d : Desk P} {k : Nat} {f : Ticket P → Ticket P}
    (hd : d.tickets = (m.desk.modify k f).tickets)
    (hf : ∀ t, m.desk.tickets[k]? = some t → t.Paired → (f t).Paired) :
    ∀ (n : Nat) (t : Ticket P), d.tickets[n]? = some t → t.Paired := by
  intro n t ht
  rw [hd] at ht
  obtain ⟨u, hu, ⟨rfl, rfl⟩ | ⟨-, rfl⟩⟩ := Desk.of_getElem?_modify ht
  · exact hf u hu (hp n u hu)
  · exact hp n t hu

theorem step (hp : Paired m) (h : Sound m) (hs : Step m m') : Paired m' := by
  cases hs with
  | enqueue q =>
    intro n t ht
    rcases getElem?_concat ht with ht | ⟨-, rfl⟩
    · exact hp n t ht
    · exact .of_none rfl
  | settle s o hs hid =>
    refine hp.modify rfl fun t ht _ r ho ↦ ?_
    -- The request was filed under its own id, and the response was looked up under that id.
    obtain ⟨w, x, hx, rfl, -⟩ := h.known hs
    obtain ⟨t', ht', hreq⟩ := h.named hx
    obtain ⟨t'', ht'', hno⟩ := h.pending hs
    obtain rfl : t = t' := Option.some.inj (ht.symm.trans ht')
    obtain rfl : t = t'' := Option.some.inj (ht.symm.trans ht'')
    rw [Ticket.complete_of_none t o hno] at ho ⊢
    exact ⟨x.session.id, hreq, hid r (Option.some.inj ho)⟩
  | take => exact hp.modify rfl fun t _ ht ↦ ht.congr t.request_takeUp t.outcome_takeUp
  | refuse =>
    exact hp.modify rfl fun t _ ht ↦
      (ht.congr (t.request_advance .accepted) (t.outcome_advance _)).complete_error _
  | sent =>
    exact hp.modify rfl fun t _ ht ↦ ht.congr (t.request_advance .sent) (t.outcome_advance _)
  | putBack => exact hp.modify rfl fun t _ ht ↦ ht.congr t.request_putBack t.outcome_putBack
  | fail w s e f hw hf =>
    rcases hf with ⟨rfl, -⟩ | ⟨rfl, -⟩
    · exact hp.modify rfl fun t _ ht ↦ ht.complete_error e
    · exact hp.modify rfl fun t _ ht ↦
        (ht.congr t.request_putBack t.outcome_putBack).complete_error e
  | _ => exact hp

theorem run (hp : Paired m) (h : Sound m) (as : List (Act P)) : Paired (m.run as) :=
  h.kept (fun _ ↦ .rfl) (fun hk hs hi ↦ hi.step hk hs) hp as

end Paired

theorem outcome_of_outcome? (h : m.outcome? n = some (.ok r)) :
    ∃ t, m.desk.tickets[n]? = some t ∧ t.outcome = some (.ok r) := by
  unfold outcome? Desk.outcome? at h
  split at h
  · cases h
  · next t ht =>
    split at h
    · next o ho => exact ⟨t, ht, ho.trans h⟩
    · split at h <;> cases h

theorem Paired.answers (hp : Paired m) (hP : P.TellsApart) (h : m.outcome? n = some (.ok r)) :
    ∃ t, m.desk.tickets[n]? = some t ∧ Answers P t.request r := by
  obtain ⟨t, ht, ho⟩ := outcome_of_outcome? h
  obtain ⟨id, hq, hr⟩ := hp n t ht r ho
  exact ⟨t, ht, hP.answers hq hr⟩

/-- In every run, a request that a response settled is one that the response fits. -/
def NoCrossTalk (P : Protocol) : Prop :=
  ∀ (config : Config) (as : List (Act P)) (n : Nat) (r : P.Response),
    ((make config : Courier P).run as).outcome? n = some (.ok r) →
      ∃ t, ((make config : Courier P).run as).desk.tickets[n]? = some t ∧ Answers P t.request r

theorem noCrossTalk (hP : P.TellsApart) : NoCrossTalk P := by
  intro config as n r h
  have hp : Paired ((make config : Courier P).run as) := (Paired.make config).run (.make config) as
  exact hp.answers hP h

end Courier

end GameServers
