import GameServers.Proofs.Client.Course
import GameServers.Proofs.Transport.Peers

namespace GameServers

namespace Courier

variable {P : Protocol} {m m' : Courier P} {q : P.Request} {r : P.Response}

theorem Runs.mem_ledger (h : m.Runs m') (hm : Sound m) (hq : (q, some r) ∈ m.ledger) :
    (q, some r) ∈ m'.ledger := by
  obtain ⟨t, ht, he⟩ := List.mem_map.1 hq
  obtain ⟨hq, hr⟩ := Prod.mk.inj he
  obtain ⟨n, hn⟩ := List.mem_iff_getElem?.1 ht
  obtain ⟨t', ht', hl⟩ := h.leads hm hn
  refine List.mem_map.2 ⟨t', List.mem_of_getElem? ht', ?_⟩
  have ho := hl.2 _ (Ticket.response?_eq_some.1 hr)
  rw [Ticket.entry, Ticket.response?_eq_some.2 ho, hl.1, hq]

theorem Runs.mem_requests (h : m.Runs m') (hm : Sound m) (hq : q ∈ m.ledger.map Prod.fst) :
    q ∈ m'.ledger.map Prod.fst := by
  simp only [ledger, Desk.ledger, List.map_map] at hq ⊢
  obtain ⟨t, ht, rfl⟩ := List.mem_map.1 hq
  obtain ⟨n, hn⟩ := List.mem_iff_getElem?.1 ht
  obtain ⟨t', ht', hl⟩ := h.leads hm hn
  exact List.mem_map.2 ⟨t', List.mem_of_getElem? ht', hl.1⟩

end Courier

namespace World

variable {c : Client} {w : World c} {expects : c.Pending → c.P.Request → Prop} {q : c.P.Request}
  {S : c.P.Request → Prop} {i n : Nat}

theorem mem_requests_act (h : Asking expects w) (hs : w.AllHeard) {a : Act c}
    (hq : q ∈ (w.act a).requests) : q ∈ w.requests ∨ w.asked a = some q := by
  have hr := (lets_act h hs a).kept (I := fun m ↦ ∀ q ∈ m.ledger.map Prod.fst,
    q ∈ w.requests ∨ w.asked a = some q) (fun k b hb hk q hq ↦ ?_) fun q hq ↦ .inl hq
  · exact hr q hq
  · rcases Courier.mem_requests_act hb hq with hq | hq
    · exact hk q hq
    · exact .inr (Option.mem_toList.1 hq)

theorem transport_mapTransport (w : World c) (f : Transport c.P → Transport c.P) :
    (w.mapTransport f).transport =
      (f w.transport).withBoard { (f w.transport).board with signals := [] } :=
  foldl_keeps transport transport_hear _ _

theorem transport_make (w : World c) (i : Nat) (move : Move c.P c.State c.Pending c.Result) :
    (w.make i move).transport = w.transport := by
  unfold World.make
  split <;> rfl

theorem transport_conclude (w : World c) (n : Nat) : (w.conclude n).transport = w.transport := by
  unfold World.conclude
  split <;> rfl

theorem addressed_mapTransport {f : Transport c.P → Transport c.P}
    (h : (f w.transport).Addressed S) : (w.mapTransport f).transport.Addressed S := by
  rw [transport_mapTransport]
  exact h.withBoard rfl

theorem addressed_endClose (h : w.transport.Addressed S) : (w.endClose i).transport.Addressed S :=
  addressed_mapTransport (w := w.mapCourier Courier.closeRegistry) h.close

theorem addressed_startClose (h : w.transport.Addressed S) : w.startClose.transport.Addressed S := by
  simp only [startClose]
  split
  · exact h
  · rw [transport_refresh]
    split
    · exact addressed_endClose h
    · split
      · exact addressed_endClose h
      · exact h

theorem mem_requests_of_originOf? {origin : Origin c.P} (h : w.originOf? n = some origin) :
    origin.request ∈ w.requests := by
  unfold originOf? at h
  split at h
  · cases h
  · split at h
    · cases h
    · next t ht =>
      obtain rfl := Option.some.inj h
      simp only [requests, Courier.ledger, Desk.ledger, List.map_map]
      exact List.mem_map.2 ⟨t, List.mem_of_getElem? ht, rfl⟩

theorem addressed_runWrite (h : w.transport.Addressed S) (hS : ∀ q ∈ w.requests, S q) :
    (w.runWrite n).transport.Addressed S := by
  unfold World.runWrite
  split
  · split
    · exact h
    · next origin ho =>
      rw [transport_conclude]
      exact addressed_mapTransport (w := w.mapCourier (·.startWrite n))
        (h.begin (hS _ (mem_requests_of_originOf? ho)))
  · rw [transport_conclude]
    exact addressed_mapTransport (h.resume n)
  · exact h

/-- No act writes a request to another server than its own. -/
theorem addressed_act (h : w.transport.Addressed S) (hS : ∀ q ∈ w.requests, S q) (a : Act c) :
    (w.act a).transport.Addressed S := by
  cases a with
  | start call =>
    have ht : (w.act (.start call)).transport = w.transport := transport_make (w.addCall .closed) _ _
    exact ht ▸ h
  | close => exact addressed_startClose h
  | task t =>
    cases t with
    | worker | timer => exact h
    | attend => exact h.withBoard rfl
    | write n => exact addressed_runWrite h hS
    | reader r => exact addressed_mapTransport (h.withBoard (w.transport.board.links_runReader r))
    | call i =>
      change (w.resumeCall i).transport.Addressed S
      unfold World.resumeCall
      split
      · split
        · rw [transport_make]
          exact h
        · exact h
      · split
        · exact addressed_endClose h
        · exact h
      · exact h
  | signal s => cases s <;> exact h
  | turn => exact h.turn
  | network net => exact h.withBoard rfl
  | clock | schedule => exact h

end World

end GameServers
