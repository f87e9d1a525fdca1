import GameServers.Proofs.SessionId

namespace GameServers

variable {P : Protocol}

theorem Envelope.sessionId_of_answerKind_error {m : Envelope P} {e : Failure}
    (h : m.answerKind = .error e) : m.sessionId = .error e := by
  unfold Envelope.sessionId Envelope.baseId
  rw [h]
  rfl

theorem Envelope.sessionId_of_remote_none {m : Envelope P} {k : P.Kind}
    (hk : m.answerKind = .ok k) (ha : m.remote = none) :
    m.sessionId = .error (.unresolvedAddress m.describe) := by
  unfold Envelope.sessionId Envelope.baseId
  rw [hk, ha]
  rfl

theorem Envelope.exists_sessionId {m : Envelope P} {k : P.Kind} {a : SocketAddress}
    (hk : m.answerKind = .ok k) (ha : m.remote = some a) : ∃ id, m.sessionId = .ok id := by
  unfold Envelope.sessionId Envelope.baseId
  rw [hk, ha]
  cases m.number with
  | none => exact ⟨_, rfl⟩
  | some n => exact ⟨_, rfl⟩

/-- A request of a kind that nothing answers. -/
def Envelope.IsUnmapped (m : Envelope P) (kind : P.Kind) : Prop :=
  ∃ q, m = .request q ∧ P.requestKind q = kind ∧ P.answerKind? kind = none

theorem Envelope.answerKind_eq_error {m : Envelope P} {e : Failure} :
    m.answerKind = .error e ↔ ∃ k, m.IsUnmapped k ∧ e = .unmappedRequest (P.kindText k) := by
  constructor
  · intro h
    cases m with
    | response r => cases h
    | request q =>
      simp only [answerKind] at h
      split at h
      · cases h
      · next hk =>
        obtain rfl := Except.error.inj h
        exact ⟨_, ⟨q, rfl, rfl, hk⟩, rfl⟩
  · rintro ⟨k, ⟨q, rfl, rfl, hk⟩, rfl⟩
    simp only [answerKind, hk]

theorem Envelope.sessionId_eq_error_iff {m : Envelope P} {e : Failure} :
    m.sessionId = .error e ↔
      (∃ k, m.IsUnmapped k ∧ e = .unmappedRequest (P.kindText k)) ∨
        (∀ k, ¬ m.IsUnmapped k) ∧ m.remote = none ∧ e = .unresolvedAddress m.describe := by
  cases hk : m.answerKind with
  | error e' =>
    rw [sessionId_of_answerKind_error hk]
    obtain ⟨k, hm, rfl⟩ := answerKind_eq_error.1 hk
    constructor
    · intro h
      obtain rfl := Except.error.inj h
      exact .inl ⟨k, hm, rfl⟩
    · rintro (hun | ⟨hmapped, -⟩)
      · rw [Except.error.inj (hk.symm.trans (answerKind_eq_error.2 hun))]
      · exact absurd hm (hmapped k)
  | ok k =>
    have hmapped (l : P.Kind) : ¬ m.IsUnmapped l := by
      intro hl
      rw [answerKind_eq_error.2 ⟨l, hl, rfl⟩] at hk
      cases hk
    cases ha : m.remote with
    | none =>
      rw [sessionId_of_remote_none hk ha]
      constructor
      · intro h
        obtain rfl := Except.error.inj h
        exact .inr ⟨hmapped, rfl, rfl⟩
      · rintro (⟨l, hl, -⟩ | ⟨-, -, rfl⟩)
        · exact absurd hl (hmapped l)
        · rfl
    | some a =>
      obtain ⟨id, hid⟩ := exists_sessionId hk ha
      rw [hid]
      constructor
      · intro h
        cases h
      · rintro (⟨l, hl, -⟩ | ⟨-, hnone, -⟩)
        · exact absurd hl (hmapped l)
        · cases hnone

/-- The ids of two messages agree exactly if the messages are at the same place and alike in what
else their protocol compares. -/
def Protocol.IdsExact (P : Protocol) (Alike : Envelope P → Envelope P → Prop) : Prop :=
  ∀ (m m' : Envelope P) (id id' : SessionId), m.sessionId = .ok id → m'.sessionId = .ok id' →
    (id = id' ↔ m.SamePlace m' ∧ Alike m m')

theorem Protocol.TellsApart.idsExact_unnumbered (h : P.TellsApart)
    (hn : ∀ m : Envelope P, m.number = none) : P.IdsExact fun _ _ ↦ True := by
  intro m m' id id' hm hm'
  have hsome : m.number.isSome = m'.number.isSome := by rw [hn m, hn m']
  rw [h.id_eq_iff hsome hm hm', hn m, hn m']
  simp

def Console.packetId : Envelope Console.protocol → Int32
  | .request q => q.packet.id
  | .response r => r.packet.id

theorem Console.number_eq (m : Envelope Console.protocol) : m.number = some (packetId m) := by
  cases m <;> rfl

theorem Console.idsExact :
    Console.protocol.IdsExact fun m m' ↦ packetId m = packetId m' := by
  intro m m' id id' hm hm'
  have hsome : m.number.isSome = m'.number.isSome := by rw [number_eq m, number_eq m']; rfl
  rw [tellsApart.id_eq_iff hsome hm hm', number_eq m, number_eq m', Option.some_inj]

/-- Two messages have the same id exactly if they are of kinds that go together and share IP address
and port, whatever zone and flow those carry, and for the remote console the packet id. A message
has no id exactly if it is a request of a kind that nothing answers or, if not that, if it lacks the
address of the other side. -/
theorem session_ids_are_exact :
    (Inquiry.protocol.IdsExact (fun _ _ ↦ True) ∧
      Console.protocol.IdsExact (fun m m' ↦ Console.packetId m = Console.packetId m') ∧
      Directory.protocol.IdsExact (fun _ _ ↦ True) ∧ Plain.protocol.IdsExact fun _ _ ↦ True) ∧
    ∀ (P : Protocol) (m : Envelope P) (e : Failure), m.sessionId = .error e ↔
      (∃ k, m.IsUnmapped k ∧ e = .unmappedRequest (P.kindText k)) ∨
        (∀ k, ¬ m.IsUnmapped k) ∧ m.remote = none ∧ e = .unresolvedAddress m.describe := by
  refine ⟨⟨?_, Console.idsExact, ?_, ?_⟩, fun _ _ _ ↦ Envelope.sessionId_eq_error_iff⟩
  · exact Inquiry.tellsApart.idsExact_unnumbered fun m ↦ by cases m <;> rfl
  · exact Directory.tellsApart.idsExact_unnumbered fun m ↦ by cases m <;> rfl
  · exact Plain.tellsApart.idsExact_unnumbered fun m ↦ by cases m <;> rfl

/-- An address that carries another does not share its ids. -/
theorem ids_of_mapped_addresses :
    let inner : SocketAddress := .v4 ⟨1, 2, 3, 4⟩ 80
    let outer (flow scope : UInt32) : SocketAddress :=
      .v6 ⟨0, 0, 0, 0, 0, 0xffff, 0x0102, 0x0304⟩ 80 flow scope
    let q : Envelope Console.protocol := .request (.command (outer 1 2) (-7) "")
    let r : Envelope Console.protocol := .response ⟨outer 0 5, -7, .response, "x"⟩
    let r' : Envelope Console.protocol := .response ⟨inner, -7, .response, "x"⟩
    let id : SessionId := ⟨"COMMAND:::FFFF:1.2.3.4:80:-7"⟩
    let id' : SessionId := ⟨"COMMAND:1.2.3.4:80:-7"⟩
    (q.sessionId = .ok id ∧ r.sessionId = .ok id ∧ r'.sessionId = .ok id' ∧ id ≠ id') ∧
      q.SamePlace r ∧ ¬ (q.SamePlace r' ∧ Console.packetId q = Console.packetId r') := by
  intro inner outer q r r' id id'
  obtain ⟨⟨-, hconsole, -, -⟩, -⟩ := session_ids_are_exact
  have hq : q.sessionId = .ok id := by decide +kernel
  have hr : r.sessionId = .ok id := by decide +kernel
  have hr' : r'.sessionId = .ok id' := by decide +kernel
  have hne : id ≠ id' := by decide
  refine ⟨⟨hq, hr, hr', hne⟩, ((hconsole q r id id hq hr).1 rfl).1, ?_⟩
  intro hsame
  exact hne ((hconsole q r' id id' hq hr').2 hsame)

end GameServers
