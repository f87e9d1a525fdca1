import GameServers.Proofs.Client.Records

namespace GameServers

variable {P : Protocol}

namespace Courier

variable {m m' : Courier P} {n : Nat} {e : Failure}

def Failed (m : Courier P) (n : Nat) (e : Failure) : Prop :=
  ∃ t, m.desk.tickets[n]? = some t ∧ t.outcome = some (.error e)

theorem failed_of_settle {d : Desk P} {s : Session} {o : Outcome P} {t' : Ticket P}
    (ht : (d.settle s o).tickets[n]? = some t') (ho : t'.outcome = some (.error e)) :
    (∃ t, d.tickets[n]? = some t ∧ t.outcome = some (.error e)) ∨ o = .error e ∧ s.ticket = n := by
  rw [Desk.settle, Desk.tickets_delete] at ht
  obtain ⟨t, hold, ⟨hn, rfl⟩ | ⟨-, rfl⟩⟩ := Desk.of_getElem?_modify ht
  · cases hout : t.outcome with
    | none =>
      rw [Ticket.complete_of_none t o hout] at ho
      exact .inr ⟨Option.some.inj ho, hn.symm⟩
    | some o' =>
      rw [Ticket.complete_of_some t o (by simp [hout])] at ho
      exact .inl ⟨t, hold, ho⟩
  · exact .inl ⟨t', hold, ho⟩

theorem failed_of_accept (hm : Sound m) {x : Delivery P} (h : (m.accept x).Failed n e) :
    m.Failed n e ∨ ∃ origin, x = .error ⟨some origin, e⟩ ∧ origin.ticket = some n := by
  obtain ⟨t', ht, ho⟩ := h
  unfold accept correlate at ht
  simp only [mapDesk] at ht
  split at ht
  · split at ht
    · rcases failed_of_settle ht ho with hold | ⟨hr, -⟩
      · exact .inl hold
      · cases hr
    · exact .inl ⟨t', ht, ho⟩
    · exact .inl ⟨t', ht, ho⟩
  · next origin e' =>
    split at ht
    · next s hs =>
      obtain ⟨k, hk, hfind⟩ := Option.bind_eq_some_iff.1 hs
      rcases failed_of_settle ht ho with hold | ⟨he, hn⟩
      · exact .inl hold
      · right
        obtain rfl := Except.error.inj he
        refine ⟨origin, rfl, ?_⟩
        rw [hk, ← (sessionOf?_mem hm.filed hfind).2, hn]
    · exact .inl ⟨t', ht, ho⟩
  · exact .inl ⟨t', ht, ho⟩

theorem failed_of_hears {ds : List (Delivery P)} (hm : Sound m) (hr : m.RunsBy (Act.Hears ds) m')
    (h : m'.Failed n e) :
    m.Failed n e ∨ ∃ origin, .error ⟨some origin, e⟩ ∈ ds ∧ origin.ticket = some n := by
  let I (k : Courier P) : Prop := Sound k ∧ (k.Failed n e →
    m.Failed n e ∨ ∃ origin, .error ⟨some origin, e⟩ ∈ ds ∧ origin.ticket = some n)
  have hI : I m' := by
    refine hr.kept (fun k a ha ⟨hk, hold⟩ ↦ ⟨hk.act a, fun hf ↦ ?_⟩) ⟨hm, .inl⟩
    cases a with
    | accept x =>
      rcases failed_of_accept hk hf with hf | ⟨origin, rfl, ho⟩
      · exact hold hf
      · exact .inr ⟨origin, ha, ho⟩
    | schedule | note => exact hold hf
    | _ => cases ha
  exact hI.2 h

end Courier

namespace World

variable {c : Client} {w : World c} {expects : c.Pending → c.P.Request → Prop} {n r : Nat}
  {e : Failure}

/-- When a reader runs, a request fails only if it is the one that was written last, and only with
what went wrong with a message or at the end of the stream. -/
theorem culprit_of_failed (h : Asking expects w) (hs : w.AllHeard)
    (hf : (w.act (.task (.reader r))).courier.Failed n e) : w.courier.Failed n e ∨
      (∃ origin, w.transport.board.culprit? r = some origin ∧ origin.ticket = some n) ∧
        ((∃ x ∈ w.transport.board.messages r, c.P.decode x.2 x.1 = .error e) ∨
          ∃ frames ending, Switchboard.endFailure? frames ending = some e) := by
  have hr : w.courier.RunsBy (Courier.Act.Hears (w.transport.board.runReader r).deliveries)
      (w.act (.task (.reader r))).courier :=
    (hears_mapTransport w fun t ↦ t.withBoard (t.board.runReader r)).trans (hears_refresh _ _)
  refine (Courier.failed_of_hears h.sound hr hf).imp id ?_
  rintro ⟨origin, ho, hn⟩
  obtain ⟨frames, ending, he⟩ := w.transport.board.deliveries_runReader r
  have hnone : w.transport.board.deliveries = [] := by rw [Switchboard.deliveries, hs]; rfl
  rw [he, hnone, List.nil_append] at ho
  rcases List.mem_append.1 ho with ho | ho
  · obtain ⟨x, hx, ht⟩ := List.mem_map.1 ho
    cases hd : c.P.decode x.2 x.1 with
    | ok response =>
      rw [hd] at ht
      cases ht
    | error e' =>
      rw [hd] at ht
      obtain ⟨horigin, rfl⟩ := Rejection.mk.inj (Except.error.inj ht)
      exact ⟨⟨origin, horigin, hn⟩, .inl ⟨x, hx, hd⟩⟩
  · obtain ⟨e', hend, ht⟩ := Option.map_eq_some_iff.1 (Option.mem_toList.1 ho)
    obtain ⟨horigin, rfl⟩ := Rejection.mk.inj (Except.error.inj ht)
    exact ⟨⟨origin, horigin, hn⟩, .inr ⟨frames, ending, hend⟩⟩

end World

end GameServers
