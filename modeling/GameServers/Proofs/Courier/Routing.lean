import GameServers.Proofs.Courier.Matching

namespace GameServers

namespace Desk

variable {P : Protocol} {d : Desk P}

/-- A request is registered under its own id, so that looking in one bucket finds what a search of
the whole registry finds. -/
theorem sessionOf?_eq_find? (h : d.registry.WellFiled)
    (hn : ∀ s ∈ d.registry.entries, ∃ t, d.tickets[s.ticket]? = some t ∧
      (Envelope.request t.request : Envelope P).sessionId = .ok s.id) (n : Nat) :
    d.sessionOf? n = d.registry.entries.find? (·.ticket = n) := by
  unfold sessionOf?
  cases ht : d.tickets[n]? with
  | none =>
    refine (List.find?_eq_none.2 fun s hs ↦ ?_).symm
    obtain ⟨t, ht', -⟩ := hn s hs
    intro he
    rw [of_decide_eq_true he, ht] at ht'
    cases ht'
  | some t =>
    simp only
    split
    · next id hid =>
      rw [h.bucket_eq_filter, ← List.head?_filter, ← List.head?_filter, List.filter_filter]
      refine congrArg List.head? (List.filter_congr fun s hs ↦ ?_)
      by_cases he : s.ticket = n
      · obtain ⟨t', ht', hs'⟩ := hn s hs
        rw [he, ht] at ht'
        obtain rfl := Option.some.inj ht'
        rw [hid] at hs'
        simp [he, Except.ok.inj hs']
      · simp [he]
    · rfl

end Desk

namespace Courier

variable {P : Protocol} {m : Courier P} {s : Session} {n : Nat}

theorem bare_accept_of_session {origin : Origin P} {e : Failure} (h : m.desk.registry.WellFiled)
    (hs : origin.ticket.bind m.desk.sessionOf? = some s) :
    (m.accept (.error ⟨some origin, e⟩)).bare =
      { m with desk := (m.desk.bare.modify s.ticket (·.complete (.error e))).strike s } := by
  rw [accept, bare_mapDesk]
  simp only [correlate, hs]
  rw [Desk.bare_settle (d := m.desk.log _) h]
  rfl

theorem bare_accept_of_no_session {origin : Origin P} {e : Failure}
    (hs : origin.ticket.bind m.desk.sessionOf? = none) :
    (m.accept (.error ⟨some origin, e⟩)).bare = m.bare := by
  rw [accept, bare_mapDesk]
  simp only [correlate, hs]
  rfl

namespace Sound

theorem sessionOf?_eq (h : Sound m) (n : Nat) :
    m.desk.sessionOf? n = m.desk.registry.entries.find? (·.ticket = n) := by
  refine Desk.sessionOf?_eq_find? h.filed (fun s hs ↦ ?_) n
  obtain ⟨w, x, hx, rfl, -⟩ := h.known hs
  exact h.named hx

theorem sessionOf?_of_mem (h : Sound m) (hs : s ∈ m.desk.registry.entries) :
    m.desk.sessionOf? s.ticket = some s := by
  rw [h.sessionOf?_eq, ← List.head?_filter, h.filter_ticket hs]
  rfl

theorem sessionOf?_of_not_mem (h : Sound m) (hs : ∀ s ∈ m.desk.registry.entries, s.ticket ≠ n) :
    m.desk.sessionOf? n = none := by
  rw [h.sessionOf?_eq, List.find?_eq_none]
  intro s hm he
  exact hs s hm (of_decide_eq_true he)

end Sound

/-- A failure that comes with a request settles that very request, if it is registered, and no
equal one; otherwise it changes nothing, and so does a failure that comes without a request. The
lookup in the bucket of the request finds what a search of the whole registry would find. -/
theorem failures_reach_their_requests (config : Config) (as : List (Act P)) (e : Failure) :
    let m := (make config : Courier P).run as
    (∀ origin : Origin P,
      (∀ s ∈ m.desk.registry.entries, origin.ticket = some s.ticket →
        Settles m (m.act (.accept (.error ⟨some origin, e⟩))) s (.error e)) ∧
      ((∀ s ∈ m.desk.registry.entries, origin.ticket ≠ some s.ticket) →
        Unmatched m (m.act (.accept (.error ⟨some origin, e⟩))))) ∧
      Unmatched m (m.act (.accept (.error ⟨none, e⟩))) ∧
      ∀ n, m.desk.sessionOf? n = m.desk.registry.entries.find? (·.ticket = n) := by
  intro m
  have hm : Sound m := (Sound.make config).run as
  refine ⟨fun origin ↦ ⟨fun s hs ho ↦ ?_, fun hno ↦ ?_⟩, unmatched_of_bare rfl rfl, hm.sessionOf?_eq⟩
  · have hfind : origin.ticket.bind m.desk.sessionOf? = some s := by
      rw [ho, Option.bind_some]
      exact hm.sessionOf?_of_mem hs
    exact hm.settles hs (bare_accept_of_session hm.filed hfind) rfl
  · have hfind : origin.ticket.bind m.desk.sessionOf? = none := by
      cases ht : origin.ticket with
      | none => rfl
      | some n => exact hm.sessionOf?_of_not_mem fun s hs he ↦ hno s hs (he ▸ ht)
    exact unmatched_of_bare (bare_accept_of_no_session hfind) rfl

/-- Of three equal requests under way, a failure settles the one in the middle. -/
theorem failure_reaches_second_ping :
    let m := (make {} : Courier Plain.protocol).run
      [.send ping true, .send ping true, .send ping true, .work, .work, .work]
    ∃ s ∈ m.desk.registry.entries, s.ticket = 1 ∧
      Settles m (m.act (.accept (.error ⟨some ⟨some 1, ping⟩, .splitPacket⟩))) s
        (.error .splitPacket) := by
  intro m
  obtain ⟨htied, -⟩ := failures_reach_their_requests (P := Plain.protocol) {}
    [.send ping true, .send ping true, .send ping true, .work, .work, .work] .splitPacket
  have hs : (⟨⟨"PING:::1:1"⟩, 2, 1, 0⟩ : Session) ∈ m.desk.registry.entries := by decide +kernel
  exact ⟨_, hs, rfl, (htied ⟨some 1, ping⟩).1 _ hs rfl⟩

end Courier

end GameServers
