import GameServers.Proofs.Courier.Order

namespace GameServers.Courier

variable {P : Protocol} {m m' : Courier P} {w w' n : Nat} {x y : Write} {s : Session}
  {r : P.Response} {id : SessionId}

theorem Step.writes (h : Step m m') (hx : m.writes[w]? = some x) :
    ∃ y, m'.writes[w]? = some y ∧ y.session = x.session := by
  have hset (k : Nat) (ws : WriteState) :
      ∃ y, (m.setWrite k ws).writes[w]? = some y ∧ y.session = x.session := by
    obtain ⟨y, hy, hs, -⟩ := getElem?_setWrite_of_some k ws hx
    exact ⟨y, hy, hs⟩
  cases h with
  | take =>
    have hlt := (List.getElem?_eq_some_iff.1 hx).1
    exact ⟨x, (List.getElem?_append_left hlt).trans hx, rfl⟩
  | abort k => exact hset k _
  | start k => exact hset k _
  | sent k => exact hset k _
  | putBack k => exact hset k _
  | fail k => exact hset k _
  | _ => exact ⟨x, hx, rfl⟩

/-- A session that is registered after a step was so before, or is newer than all before. -/
theorem Step.entries (h : Step m m') (hm : Sound m) (hs : s ∈ m'.desk.registry.entries) :
    s ∈ m.desk.registry.entries ∨ m.writes.length < s.index := by
  cases h with
  | settle | putBack | fail => exact .inl (hm.mem_of_mem_remove hs).1
  | take n rest t id =>
    rcases Registry.mem_entries_file.1 hs with rfl | hs
    · exact .inr (hm.counted ▸ Nat.lt_succ_self _)
    · exact .inl hs
  | closeRegistry => cases hs
  | _ => exact .inl hs

theorem Step.length_writes (h : Step m m') : m.writes.length ≤ m'.writes.length := by
  by_contra hlt
  obtain ⟨x, hx⟩ : ∃ x, m.writes[m'.writes.length]? = some x :=
    ⟨_, List.getElem?_eq_getElem (by omega)⟩
  obtain ⟨y, hy, -⟩ := h.writes hx
  have := (List.getElem?_eq_some_iff.1 hy).1
  omega

namespace Sound

theorem writes_run (h : Sound m) (as : List (Act P)) (hx : m.writes[w]? = some x) :
    ∃ y, (m.run as).writes[w]? = some y ∧ y.session = x.session := by
  refine h.kept (I := fun k ↦ ∃ y, k.writes[w]? = some y ∧ y.session = x.session)
    (fun _ ↦ .rfl) (fun _ hs ↦ ?_) ⟨x, hx, rfl⟩ as
  rintro ⟨y, hy, he⟩
  obtain ⟨z, hz, he'⟩ := hs.writes hy
  exact ⟨z, hz, he'.trans he⟩

theorem entries_run (h : Sound m) (as : List (Act P))
    (hs : s ∈ (m.run as).desk.registry.entries) :
    s ∈ m.desk.registry.entries ∨ m.writes.length < s.index := by
  -- New sessions are newer than all writes of the moment, and no write ever goes away.
  let I (k : Courier P) : Prop := m.writes.length ≤ k.writes.length ∧
    ∀ s ∈ k.desk.registry.entries, s ∈ m.desk.registry.entries ∨ m.writes.length < s.index
  have hrun : I (m.run as) := by
    refine h.kept (fun _ ↦ .rfl) (fun hk hs ⟨hle, hold⟩ ↦ ?_) ⟨le_rfl, fun _ hs ↦ .inl hs⟩ as
    refine ⟨hle.trans hs.length_writes, fun s hm ↦ ?_⟩
    rcases hs.entries hk hm with hm | hlt
    · exact hold s hm
    · exact .inr (lt_of_le_of_lt hle hlt)
  exact hrun.2 s hs

theorem entries_remove (h : Sound m) (hs : s ∈ m.desk.registry.entries) :
    (m.desk.registry.remove s).entries = m.desk.registry.entries.filter (· ≠ s) := by
  rw [h.filed.entries_remove]
  refine List.filter_congr fun x hx ↦ ?_
  obtain ⟨w, y, hy, rfl, -⟩ := h.known hs
  by_cases he : x = y.session
  · simp [he, Registry.samePlace]
  · have hi : x.index ≠ y.session.index := fun hi ↦ he (h.entry_eq_of_index hy hx hi)
    simp [he, hi, Registry.samePlace]

end Sound

theorem sessionFor_eq (hi : (Envelope.response r : Envelope P).sessionId = .ok id) (d : Desk P) :
    d.sessionFor (.response r) = .ok (d.registry.oldest? id) := by
  rw [Desk.sessionFor, hi]
  rfl

theorem bare_accept_of_oldest (h : m.desk.registry.WellFiled)
    (hi : (Envelope.response r : Envelope P).sessionId = .ok id)
    (hs : m.desk.registry.oldest? id = some s) :
    (m.accept (.ok r)).bare =
      { m with desk := (m.desk.bare.modify s.ticket (·.complete (.ok r))).strike s } := by
  rw [accept, bare_mapDesk]
  simp only [correlate, sessionFor_eq hi, hs]
  rw [Desk.bare_settle (d := m.desk.log _) h]
  rfl

theorem bare_accept_of_none (h : ∀ id, (Envelope.response r : Envelope P).sessionId = .ok id →
    m.desk.registry.oldest? id = none) : (m.accept (.ok r)).bare = m.bare := by
  rw [accept, bare_mapDesk]
  cases hi : (Envelope.response r : Envelope P).sessionId with
  | error e =>
    have hf : m.desk.sessionFor (.response r) = .error e := by
      rw [Desk.sessionFor, hi]
      rfl
    simp only [correlate, hf]
    rfl
  | ok id =>
    simp only [correlate, sessionFor_eq hi, h id hi]
    rfl

/-- What a delivery does to a courier when it settles the request behind a session: nothing else of
the others changes. -/
structure Settles (m m' : Courier P) (s : Session) (o : Outcome P) : Prop where
  mem : s ∈ m.desk.registry.entries
  pending : m.outcome? s.ticket = none
  settled : m'.outcome? s.ticket = some o
  others : ∀ n, n ≠ s.ticket →
    m'.outcome? n = m.outcome? n ∧ m'.desk.tickets[n]? = m.desk.tickets[n]?
  sessions : m'.desk.registry.entries = m.desk.registry.entries.filter (· ≠ s)
  timer : m.desk.timers.filter (·.index = s.index) = [s.timer]
  timers : m'.desk.timers = m.desk.timers.filter (·.index ≠ s.index)
  frame : m' = { m with desk := m'.desk }

/-- What a response does to a courier when it settles a request: that request had the oldest
session under the id of the response, and nothing else of the others changes. -/
structure Matched (m m' : Courier P) (r : P.Response) (s : Session) : Prop where
  mem : s ∈ m.desk.registry.entries
  sameId : (Envelope.response r : Envelope P).sessionId = .ok s.id
  oldest : ∀ x ∈ m.desk.registry.entries, x.id = s.id → x ≠ s → s.index < x.index
  pending : m.outcome? s.ticket = none
  settled : m'.outcome? s.ticket = some (.ok r)
  others : ∀ n, n ≠ s.ticket →
    m'.outcome? n = m.outcome? n ∧ m'.desk.tickets[n]? = m.desk.tickets[n]?
  sessions : m'.desk.registry.entries = m.desk.registry.entries.filter (· ≠ s)
  timer : m.desk.timers.filter (·.index = s.index) = [s.timer]
  timers : m'.desk.timers = m.desk.timers.filter (·.index ≠ s.index)
  frame : m' = { m with desk := m'.desk }

/-- A delivery that settles nothing changes nothing. -/
structure Unmatched (m m' : Courier P) : Prop where
  outcomes : ∀ n, m'.outcome? n = m.outcome? n
  tickets : m'.desk.tickets = m.desk.tickets
  sessions : m'.desk.registry = m.desk.registry
  timers : m'.desk.timers = m.desk.timers
  frame : m' = { m with desk := m'.desk }

theorem unmatched_of_bare (hb : m'.bare = m.bare) (hf : m' = { m with desk := m'.desk }) :
    Unmatched m m' where
  outcomes n := congrArg (·.outcome? n) hb
  tickets := congrArg (·.desk.tickets) hb
  sessions := congrArg (·.desk.registry) hb
  timers := congrArg (·.desk.timers) hb
  frame := hf

namespace Sound

theorem outcome?_of_mem (h : Sound m) (hs : s ∈ m.desk.registry.entries) :
    m.outcome? s.ticket = none := by
  obtain ⟨t, ht, ho⟩ := h.pending hs
  have hk : m.desk.keeps s.ticket = true := List.any_eq_true.2 ⟨s, hs, by simp⟩
  simp [outcome?, Desk.outcome?, ht, ho, hk]

theorem keeps_strike (h : Sound m) (hs : s ∈ m.desk.registry.entries) (hn : n ≠ s.ticket)
    (f : Ticket P → Ticket P) :
    ((m.desk.modify s.ticket f).strike s).keeps n = m.desk.keeps n := by
  change (m.desk.registry.remove s).entries.any _ = m.desk.registry.entries.any _
  rw [h.entries_remove hs, List.any_filter]
  refine List.any_congr rfl fun x ↦ ?_
  by_cases hx : x = s
  · simp [hx, hn.symm]
  · simp [hx]

theorem settles {o : Outcome P} (h : Sound m) (he : s ∈ m.desk.registry.entries)
    (hb : m'.bare = { m with desk := (m.desk.bare.modify s.ticket (·.complete o)).strike s })
    (hf : m' = { m with desk := m'.desk }) : Settles m m' s o := by
  obtain ⟨t, ht, ho⟩ := h.pending he
  have hout (n : Nat) : m'.outcome? n = Courier.outcome? { m with
      desk := (m.desk.bare.modify s.ticket (·.complete o)).strike s } n :=
    congrArg (·.outcome? n) hb
  exact {
    mem := he
    pending := h.outcome?_of_mem he
    settled := by
      have ht' : (m.desk.bare.modify s.ticket (·.complete o)).tickets[s.ticket]? =
          some (t.complete o) := Desk.getElem?_modify_of_some ht
      have ht'' : ((m.desk.bare.modify s.ticket (·.complete o)).strike s).tickets[s.ticket]? =
          some (t.complete o) := ht'
      rw [hout, Courier.outcome?, Desk.outcome?, ht'', Ticket.complete_of_none t _ ho]
    others := fun n hn ↦ by
      have ht : ((m.desk.bare.modify s.ticket (·.complete o)).strike s).tickets[n]? =
          m.desk.tickets[n]? := Desk.getElem?_modify_of_ne hn
      refine ⟨?_, (congrArg (·.desk.tickets[n]?) hb).trans ht⟩
      have hk : ((m.desk.bare.modify s.ticket (·.complete o)).strike s).keeps n =
          m.desk.keeps n := h.keeps_strike he hn (·.complete o)
      rw [hout, Courier.outcome?, Desk.outcome?, ht, hk]
      rfl
    sessions := (congrArg (·.desk.registry.entries) hb).trans (h.entries_remove he)
    timer := h.filter_index he
    timers := congrArg (·.desk.timers) hb
    frame := hf }

theorem matched (h : Sound m) (hi : (Envelope.response r : Envelope P).sessionId = .ok id)
    (hs : m.desk.registry.oldest? id = some s) : Matched m (m.accept (.ok r)) r s := by
  obtain ⟨he, rfl, hleast⟩ := h.filed.oldest?_eq_some hs
  have hset : Settles m (m.accept (.ok r)) s (.ok r) :=
    h.settles he (bare_accept_of_oldest h.filed hi hs) rfl
  exact {
    hset with
    sameId := hi
    oldest := fun x hx hid hne ↦ by
      refine lt_of_le_of_ne (hleast x hx hid) fun hidx ↦ hne ?_
      obtain ⟨w, y, hy, rfl, -⟩ := h.known he
      exact h.entry_eq_of_index hy hx hidx.symm }

theorem unmatched (h : ∀ id, (Envelope.response r : Envelope P).sessionId = .ok id →
    m.desk.registry.oldest? id = none) : Unmatched m (m.accept (.ok r)) :=
  unmatched_of_bare (bare_accept_of_none h) rfl

/-- Without retries, sessions are numbered in the order in which their requests were sent. -/
theorem ticket_lt_iff (h : Sound m) (hi : InTurn m) (hr : m.config.maxWriteRetries = 0)
    (hx : m.writes[w]? = some x) (hy : m.writes[w']? = some y) :
    x.session.index < y.session.index ↔ x.ticket < y.ticket := by
  have hp : (m.writes.map Write.ticket).Pairwise (· < ·) :=
    hi.ascending.left.pairwise ((hi.once hr).sublist (List.sublist_append_left _ _))
  have hlt {v v' : Nat} {z z' : Write} (hz : m.writes[v]? = some z) (hz' : m.writes[v']? = some z')
      (hv : v < v') : z.ticket < z'.ticket := by
    obtain ⟨hl, rfl⟩ := List.getElem?_eq_some_iff.1 hz
    obtain ⟨hl', rfl⟩ := List.getElem?_eq_some_iff.1 hz'
    exact List.pairwise_iff_getElem.1 (List.pairwise_map.1 hp) v v' hl hl' hv
  rw [h.numbered hx, h.numbered hy, Nat.add_lt_add_iff_right]
  refine ⟨hlt hx hy, fun ht ↦ ?_⟩
  rcases Nat.lt_trichotomy w w' with hw | rfl | hw
  · exact hw
  · rw [Option.some.inj (hx.symm.trans hy)] at ht
    exact absurd ht (lt_irrefl _)
  · exact absurd (hlt hy hx hw) ht.asymm

theorem ticket_lt_of_index_lt (h : Sound m) (hi : InTurn m) (hr : m.config.maxWriteRetries = 0)
    {s s' : Session} (hs : ∃ (w : Nat) (x : Write), m.writes[w]? = some x ∧ x.session = s)
    (hs' : ∃ (w : Nat) (x : Write), m.writes[w]? = some x ∧ x.session = s')
    (hlt : s.index < s'.index) : s.ticket < s'.ticket := by
  obtain ⟨w, x, hx, rfl⟩ := hs
  obtain ⟨w', x', hx', rfl⟩ := hs'
  exact (h.ticket_lt_iff hi hr hx hx').1 hlt

theorem written (h : Sound m) (hs : s ∈ m.desk.registry.entries) :
    ∃ (w : Nat) (x : Write), m.writes[w]? = some x ∧ x.session = s := by
  obtain ⟨w, x, hx, he, -⟩ := h.known hs
  exact ⟨w, x, hx, he⟩

end Sound

/-- First come, first served, under every id. A response settles the request of the oldest session
under its id and nothing else, or changes nothing if there is none. Without retries sessions are
numbered as their requests were sent, so that responses under one id settle requests in the order
of sending: no other request with that id is older, and those settled later were sent later. -/
theorem responses_settle_oldest_first (config : Config) (as : List (Act P)) (r : P.Response) :
    let m := (make config : Courier P).run as
    let m' := m.act (.accept (.ok r))
    ((∃ x ∈ m.desk.registry.entries, (Envelope.response r : Envelope P).sessionId = .ok x.id) →
        ∃ s, Matched m m' r s) ∧
      ((∀ x ∈ m.desk.registry.entries, (Envelope.response r : Envelope P).sessionId ≠ .ok x.id) →
        Unmatched m m') ∧
      (config.maxWriteRetries = 0 →
        (∀ x ∈ m.writes, ∀ y ∈ m.writes,
          x.session.index < y.session.index ↔ x.ticket < y.ticket) ∧
        ∀ s, Matched m m' r s →
          (∀ x ∈ m.desk.registry.entries, x.id = s.id → x ≠ s → s.ticket < x.ticket) ∧
          ∀ (bs : List (Act P)) (r' : P.Response) (s' : Session),
            Matched (m'.run bs) ((m'.run bs).act (.accept (.ok r'))) r' s' → s'.id = s.id →
              s.ticket < s'.ticket) := by
  intro m m'
  have hm : Sound m := (Sound.make config).run as
  have hi : InTurn m := .run config as
  refine ⟨?_, ?_, fun hr ↦ ⟨?_, fun s hs ↦ ⟨?_, ?_⟩⟩⟩
  · rintro ⟨x, hx, hid⟩
    cases ho : m.desk.registry.oldest? x.id with
    | none => exact absurd rfl (hm.filed.oldest?_eq_none.1 ho x hx)
    | some s => exact ⟨s, hm.matched hid ho⟩
  · intro hno
    refine Sound.unmatched fun id hid ↦ hm.filed.oldest?_eq_none.2 fun x hx he ↦ hno x hx ?_
    rw [hid, he]
  · intro x hx y hy
    obtain ⟨w, hw⟩ := List.mem_iff_getElem?.1 hx
    obtain ⟨w', hw'⟩ := List.mem_iff_getElem?.1 hy
    exact hm.ticket_lt_iff hi ((config_run _ as (.make config)).symm ▸ hr) hw hw'
  · intro x hx hid hne
    exact hm.ticket_lt_of_index_lt hi ((config_run _ as (.make config)).symm ▸ hr)
      (hm.written hs.mem) (hm.written hx) (hs.oldest x hx hid hne)
  · intro bs r' s' hs' hid
    -- Both sessions are among the writes of the later courier.
    have hm' : Sound m' := hm.act _
    have hk : Sound (m'.run bs) := hm'.run bs
    have hrun : m'.run bs = (make config : Courier P).run (as ++ .accept (.ok r) :: bs) :=
      (run_append (make config) as (.accept (.ok r) :: bs)).symm
    have hik : InTurn (m'.run bs) := hrun ▸ .run config _
    have hc : (m'.run bs).config = config := hrun ▸ config_run _ _ (.make config)
    obtain ⟨w, x, hx, rfl⟩ := hm.written hs.mem
    have hwrites : m'.writes = m.writes := by rw [hs.frame]
    obtain ⟨y, hy, hys⟩ := hm'.writes_run bs (hwrites ▸ hx)
    refine hk.ticket_lt_of_index_lt hik (hc.symm ▸ hr) ⟨w, y, hy, hys⟩ (hk.written hs'.mem) ?_
    rcases hm'.entries_run bs hs'.mem with he | hlt
    · rw [hs.sessions] at he
      obtain ⟨he, hne⟩ := List.mem_filter.1 he
      exact hs.oldest s' he hid (by simpa using hne)
    · have hle := hm.index_le hs.mem
      rw [hm.counted, ← hwrites] at hle
      exact lt_of_le_of_lt hle hlt

/-- Two equal requests are under way; a response settles the one that was sent first. -/
theorem pings_settle_oldest_first :
    let m := (make {} : Courier Plain.protocol).run [.send ping true, .send ping true, .work, .work]
    (∃ s, Matched m (m.act (.accept (.ok ping))) ping s) ∧
      ∀ x ∈ m.writes, ∀ y ∈ m.writes, x.session.index < y.session.index ↔ x.ticket < y.ticket := by
  obtain ⟨hmatched, -, horder⟩ := responses_settle_oldest_first (P := Plain.protocol) {}
    [.send ping true, .send ping true, .work, .work] ping
  exact ⟨hmatched ⟨⟨⟨"PING:::1:1"⟩, 1, 0, 0⟩, by decide +kernel, by decide +kernel⟩,
    (horder rfl).1⟩

end GameServers.Courier
