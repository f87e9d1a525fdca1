import GameServers.Console.Protocol
import GameServers.Directory.Protocol
import GameServers.Inquiry.Protocol
import GameServers.Plain
import GameServers.Proofs.Address.Text

namespace GameServers

open Text

theorem toLower_toUpper {c : Char} (h : c ∈ alphabet) : c.toUpper.toLower = c := by
  have hall : alphabet.all (fun c ↦ c.toUpper.toLower = c) := by decide
  exact of_decide_eq_true (List.all_eq_true.1 hall c h)

theorem map_toUpper_injective {as bs : List Char} (ha : ∀ c ∈ as, c ∈ alphabet)
    (hb : ∀ c ∈ bs, c ∈ alphabet) (h : as.map Char.toUpper = bs.map Char.toUpper) : as = bs := by
  have hlow {cs : List Char} (hc : ∀ c ∈ cs, c ∈ alphabet) :
      (cs.map Char.toUpper).map Char.toLower = cs := by
    rw [List.map_map]
    exact (List.map_congr_left fun c h ↦ toLower_toUpper (hc c h)).trans (List.map_id _)
  rw [← hlow ha, ← hlow hb, h]

theorem toList_intText (n : Int32) : (intText n).toList = match n.toInt with
    | .ofNat k => decimal k
    | .negSucc k => '-' :: decimal (k + 1) := by
  unfold intText
  cases n.toInt with
  | ofNat k => exact Nat.toList_repr
  | negSucc k =>
    change ("-" ++ Nat.repr (k + 1)).toList = _
    rw [String.toList_append, Nat.toList_repr]
    rfl

theorem mem_intText {n : Int32} {c : Char} (h : c ∈ (intText n).toList) : c ∈ digits ∨ c = '-' := by
  have hd {k : Nat} (hc : c ∈ decimal k) : c ∈ digits :=
    mem_digits_of_mem_toDigits (by decide) (by decide) hc
  rw [toList_intText] at h
  split at h
  · exact .inl (hd h)
  · rcases List.mem_cons.1 h with h | h
    · exact .inr h
    · exact .inl (hd h)

theorem intText_injective {n m : Int32} (h : (intText n).toList = (intText m).toList) : n = m := by
  have hminus (k : Nat) (cs : List Char) : decimal k ≠ '-' :: cs := fun he ↦
    not_mem_decimal (c := '-') (by decide) k (by rw [he]; exact .head _)
  rw [toList_intText, toList_intText] at h
  refine Int32.toInt_inj.1 ?_
  cases hn : n.toInt with
  | ofNat k =>
    cases hm : m.toInt with
    | ofNat l =>
      rw [hn, hm] at h
      rw [decimal_injective h]
    | negSucc l =>
      rw [hn, hm] at h
      exact absurd h (hminus _ _)
  | negSucc k =>
    cases hm : m.toInt with
    | ofNat l =>
      rw [hn, hm] at h
      exact absurd h.symm (hminus _ _)
    | negSucc l =>
      rw [hn, hm] at h
      have he := decimal_injective (List.cons.inj h).2
      rw [Nat.succ.inj he]

variable {P : Protocol}

def idTail (a : SocketAddress) : Option Int32 → List Char
  | none => a.ip.chars ++ ':' :: decimal a.port.toNat
  | some n => (a.ip.chars ++ ':' :: decimal a.port.toNat) ++ ':' :: (intText n).toList

theorem mem_idTail {a : SocketAddress} {n : Option Int32} {c : Char} (h : c ∈ idTail a n) :
    c ∈ alphabet := by
  have hbase (hc : c ∈ a.ip.chars ++ ':' :: decimal a.port.toNat) : c ∈ alphabet := by
    rcases List.mem_append.1 hc with hc | hc
    · exact IpAddress.mem_chars hc
    · rcases List.mem_cons.1 hc with rfl | hc
      · decide
      · exact digits_subset (mem_digits_of_mem_toDigits (by decide) (by decide) hc)
  cases n with
  | none => exact hbase h
  | some n =>
    rcases List.mem_append.1 h with h | h
    · exact hbase h
    · rcases List.mem_cons.1 h with rfl | h
      · decide
      · rcases mem_intText h with h | rfl
        · exact digits_subset h
        · decide

theorem idTail_injective {a b : SocketAddress} {n m : Option Int32} (hs : n.isSome = m.isSome)
    (h : idTail a n = idTail b m) : a.ip = b.ip ∧ a.port = b.port ∧ n = m := by
  have hbase (he : a.ip.chars ++ ':' :: decimal a.port.toNat =
      b.ip.chars ++ ':' :: decimal b.port.toNat) : a.ip = b.ip ∧ a.port = b.port := by
    have hcolon (k : Nat) : ':' ∉ decimal k := not_mem_decimal (by decide) k
    obtain ⟨hip, hport⟩ := cut_last (hcolon _) (hcolon _) he
    exact ⟨IpAddress.chars_injective hip, UInt16.toNat_inj.1 (decimal_injective hport)⟩
  cases n with
  | none =>
    cases m with
    | none => exact ⟨(hbase h).1, (hbase h).2, rfl⟩
    | some m => cases hs
  | some n =>
    cases m with
    | none => cases hs
    | some m =>
      have hcolon (k : Int32) : ':' ∉ (intText k).toList := fun hc ↦ by
        rcases mem_intText hc with hc | hc
        · exact absurd hc (by decide)
        · exact absurd hc (by decide)
      obtain ⟨hb, hn⟩ := cut_last (hcolon _) (hcolon _) h
      exact ⟨(hbase hb).1, (hbase hb).2, congrArg some (intText_injective hn)⟩

def Protocol.idText (P : Protocol) (k : P.Kind) : List Char := (P.kindText k).toList.map Char.toUpper

theorem text_of_sessionId {m : Envelope P} {id : SessionId} (h : m.sessionId = .ok id) :
    ∃ k a, m.answerKind = .ok k ∧ m.remote = some a ∧
      id.text.toList = P.idText k ++ ':' :: (idTail a m.number).map Char.toUpper := by
  unfold Envelope.sessionId Envelope.baseId at h
  cases hk : m.answerKind with
  | error e =>
    rw [hk] at h
    cases h
  | ok k =>
    rw [hk] at h
    cases ha : m.remote with
    | none =>
      rw [ha] at h
      cases h
    | some a =>
      rw [ha] at h
      refine ⟨k, a, rfl, rfl, ?_⟩
      have hup : Char.toUpper ':' = ':' := by decide
      cases hn : m.number with
      | none =>
        rw [hn] at h
        obtain rfl := Except.ok.inj h
        simp [SessionId.ofText, idTail, Protocol.idText, decimal, hup]
      | some n =>
        rw [hn] at h
        obtain rfl := Except.ok.inj h
        simp [SessionId.ofText, idTail, Protocol.idText, decimal, hup]

/-- What a protocol must do for its session ids to tell its messages apart. -/
structure Protocol.TellsApart (P : Protocol) : Prop where
  kinds : ∀ k k', P.idText k = P.idText k' → k = k'
  colon : ∀ k, ':' ∉ P.idText k
  numbered : ∀ q r, (P.requestNumber q).isSome = (P.responseNumber r).isSome

structure Answers (P : Protocol) (q : P.Request) (r : P.Response) : Prop where
  kind : P.answerKind? (P.requestKind q) = some (P.responseKind r)
  address : ∃ a b, P.recipient q = some a ∧ P.sender r = some b ∧ a.ip = b.ip ∧ a.port = b.port
  number : P.requestNumber q = P.responseNumber r

/-- Two messages are of kinds that go together, and their addresses agree but for zones. -/
structure Envelope.SamePlace (m m' : Envelope P) : Prop where
  kind : ∃ k, m.answerKind = .ok k ∧ m'.answerKind = .ok k
  address : ∃ a b, m.remote = some a ∧ m'.remote = some b ∧ a.ip = b.ip ∧ a.port = b.port

theorem idTail_congr {a b : SocketAddress} (hip : a.ip = b.ip) (hport : a.port = b.port)
    (n : Option Int32) : idTail a n = idTail b n := by
  cases n <;> simp only [idTail, hip, hport]

theorem Protocol.TellsApart.id_eq_iff (h : P.TellsApart) {m m' : Envelope P} {id id' : SessionId}
    (hn : m.number.isSome = m'.number.isSome) (hm : m.sessionId = .ok id)
    (hm' : m'.sessionId = .ok id') :
    id = id' ↔ m.SamePlace m' ∧ m.number = m'.number := by
  obtain ⟨k, a, hk, ha, ht⟩ := text_of_sessionId hm
  obtain ⟨k', b, hk', hb, ht'⟩ := text_of_sessionId hm'
  constructor
  · rintro rfl
    obtain ⟨hkind, htail⟩ := cut_first (h.colon k) (h.colon k') (ht.symm.trans ht')
    obtain rfl := h.kinds k k' hkind
    have he := map_toUpper_injective (fun c hc ↦ mem_idTail hc) (fun c hc ↦ mem_idTail hc) htail
    obtain ⟨hip, hport, hnumber⟩ := idTail_injective hn he
    exact ⟨⟨⟨k, hk, hk'⟩, a, b, ha, hb, hip, hport⟩, hnumber⟩
  · rintro ⟨⟨⟨l, hl, hl'⟩, c, d, hc, hd, hip, hport⟩, hnumber⟩
    obtain rfl : k = l := Except.ok.inj (hk.symm.trans hl)
    obtain rfl : k' = k := Except.ok.inj (hk'.symm.trans hl')
    obtain rfl : a = c := Option.some.inj (ha.symm.trans hc)
    obtain rfl : b = d := Option.some.inj (hb.symm.trans hd)
    have htext : id.text.toList = id'.text.toList := by
      rw [ht, ht', hnumber, idTail_congr hip hport]
    cases id
    cases id'
    exact congrArg SessionId.mk (String.toList_inj.1 htext)

theorem Protocol.TellsApart.answers (h : P.TellsApart) {q : P.Request} {r : P.Response}
    {id : SessionId} (hq : (Envelope.request q : Envelope P).sessionId = .ok id)
    (hr : (Envelope.response r : Envelope P).sessionId = .ok id) : Answers P q r := by
  have hnumbered : (Envelope.request q : Envelope P).number.isSome =
      (Envelope.response r : Envelope P).number.isSome := h.numbered q r
  obtain ⟨hplace, hn⟩ := (h.id_eq_iff hnumbered hq hr).1 rfl
  obtain ⟨k, hk, hk'⟩ := hplace.kind
  refine ⟨?_, hplace.address, hn⟩
  obtain rfl := Except.ok.inj hk'
  simp only [Envelope.answerKind] at hk
  split at hk
  · next k hk' =>
    obtain rfl := Except.ok.inj hk
    exact hk'
  · cases hk

theorem Inquiry.tellsApart : Inquiry.protocol.TellsApart where
  kinds k k' := by cases k <;> cases k' <;> decide
  colon k := by cases k <;> decide
  numbered _ _ := rfl

theorem Console.tellsApart : Console.protocol.TellsApart where
  kinds k k' := by cases k <;> cases k' <;> decide
  colon k := by cases k <;> decide
  numbered _ _ := rfl

theorem Directory.tellsApart : Directory.protocol.TellsApart where
  kinds _ _ _ := rfl
  colon k := by cases k; decide
  numbered _ _ := rfl

theorem Plain.tellsApart : Plain.protocol.TellsApart where
  kinds k k' := by cases k <;> cases k' <;> decide
  colon k := by cases k <;> decide
  numbered _ _ := rfl

end GameServers
