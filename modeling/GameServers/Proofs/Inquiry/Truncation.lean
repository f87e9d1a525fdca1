import GameServers.Proofs.Inquiry.Layout
import Mathlib.Tactic.IntervalCases

namespace GameServers.Inquiry

open Cursor

theorem exact_details : Exact details := by
  unfold details
  refine Exact.uint8.bind fun _ ↦ ?_
  iterate 4 refine Exact.string.bind fun _ ↦ ?_
  refine Exact.uint16.bind fun _ ↦ ?_
  iterate 7 refine Exact.uint8.bind fun _ ↦ ?_
  exact Exact.string.bind fun _ ↦ .pure _

theorem exact_extras (flags : UInt8) : Exact (extras flags) := by
  have hspectators : Exact (Cursor.uint16 >>= fun port ↦ Cursor.string >>= fun name ↦
      pure (⟨port, name⟩ : Spectators)) :=
    Exact.uint16.bind fun _ ↦ Exact.string.bind fun _ ↦ .pure _
  unfold extras
  refine (Exact.uint16.optional _).bind fun _ ↦ ?_
  refine (Exact.uint64.optional _).bind fun _ ↦ ?_
  refine (hspectators.optional _).bind fun _ ↦ ?_
  refine (Exact.string.optional _).bind fun _ ↦ ?_
  exact (Exact.uint64.optional _).bind fun _ ↦ .pure _

theorem exact_players : Exact players := by
  have hplayer : Exact player :=
    Exact.uint8.bind fun _ ↦ Exact.string.bind fun _ ↦ Exact.int32.bind fun _ ↦
      Exact.uint32.bind fun _ ↦ .pure _
  exact Exact.uint8.bind fun count ↦ hplayer.times count.toNat

theorem exact_rules : Exact rules := by
  have hrule : Exact rule := Exact.string.bind fun _ ↦ Exact.string.bind fun _ ↦ .pure _
  exact Exact.uint16.bind fun count ↦ (hrule.times count.toNat).bind fun _ ↦ .pure _

/-- The byte that announces the extras, and the extras. -/
def extension (s : ServerInfo) : Cursor ServerInfo := do
  let flags ← Cursor.uint8
  return { s with extras := ← extras flags }

theorem exact_extension (s : ServerInfo) : Exact (extension s) :=
  Exact.uint8.bind fun flags ↦ (exact_extras flags).bind fun _ ↦ .pure _

def ending (s : ServerInfo) : Cursor ServerInfo := fun bs ↦
  if bs.isEmpty then .ok (s, bs) else extension s bs

theorem serverInfo_eq : serverInfo = details >>= ending := by
  unfold serverInfo
  refine congrArg (details >>= ·) (funext₂ fun s bs ↦ ?_)
  cases bs <;> rfl

theorem ending_of_ne_nil (s : ServerInfo) {bs : Bytes} (h : bs ≠ []) :
    ending s bs = extension s bs := by
  cases bs with
  | nil => exact absurd rfl h
  | cons b bs => rfl

variable {s t : ServerInfo} {bs rest : Bytes}

theorem extras_of_details (h : details bs = .ok (s, rest)) : s.extras = {} := by
  have hmap : (fun s : ServerInfo ↦ { s with extras := {} }) <$> details = details := by
    simp only [details, map_bind, map_pure]
  rw [← hmap] at h
  obtain ⟨t, -, rfl⟩ := map_eq_ok.1 h
  rfl

theorem extension_eq_ok (h : extension s bs = .ok (t, rest)) : ∃ e, t = { s with extras := e } := by
  obtain ⟨flags, mid, -, h⟩ := bind_eq_ok.1 h
  obtain ⟨e, mid, -, h⟩ := bind_eq_ok.1 h
  cases h
  exact ⟨e, rfl⟩

/-- With an extension, a reply that is cut can only be read where its details end. -/
theorem serverInfo_extended {front back : Bytes} (hreads : Reads details front t)
    (hneeds : Needs details front) (hext : Reads (extension t) back s)
    (hmore : Needs (extension t) back) :
    back ≠ [] ∧ Reads serverInfo (front ++ back) s ∧
      ∀ k < (front ++ back).length, k ≠ front.length →
        ∃ defect, serverInfo ((front ++ back).take k) = .error (.malformedPacket defect) := by
  have hback : back ≠ [] := by
    rintro rfl
    cases hext []
  rw [serverInfo_eq]
  refine ⟨hback, hreads.bind fun more ↦ ?_, fun k hk hne ↦ ?_⟩
  · rw [ending_of_ne_nil t (List.append_ne_nil_of_left_ne_nil hback more)]
    exact hext more
  · by_cases hlt : k < front.length
    · rw [List.take_append_of_le_length hlt.le]
      exact hneeds.then k hlt
    · rw [List.length_append] at hk
      have hcut : back.take (k - front.length) ≠ [] := by
        rw [Ne, List.take_eq_nil_iff, not_or]
        exact ⟨by omega, hback⟩
      obtain ⟨defect, hd⟩ := hmore (k - front.length) (by omega)
      refine ⟨defect, ?_⟩
      rw [List.take_append, List.take_of_length_le (by omega)]
      change (details (front ++ _) >>= fun p ↦ ending p.1 p.2) = _
      rw [hreads]
      exact (ending_of_ne_nil t hcut).trans hd

theorem exact_body {type : UInt8} (h : type ≠ infoReply) : Exact (body type) := by
  have hrest : Exact (if type = playersReply then Payload.players <$> players
      else if type = rulesReply then Payload.rules <$> rules
      else throw (.unknownPacketType (Int32.ofNat type.toNat))) := by
    split
    · exact exact_players.map Payload.players
    · split
      · exact exact_rules.map Payload.rules
      · exact .throw _
  unfold body
  rw [if_neg h]
  split
  · exact Exact.int32.map Payload.challenge
  · exact hrest

theorem payload_eq_ok {d : Bytes} {p : Payload} (h : payload d = .ok (p, rest)) :
    ∃ type bs, d = header type ++ bs ∧ body type bs = .ok (p, rest) := by
  obtain ⟨whole, mid, hwhole, h⟩ := bind_eq_ok.1 h
  split at h
  · next he =>
    obtain ⟨type, bs, htype, h⟩ := bind_eq_ok.1 h
    refine ⟨type, bs, ?_, h⟩
    cases mid with
    | nil => cases htype
    | cons b mid =>
      cases htype
      rw [eq_of_int32 hwhole, he, header, List.append_assoc, List.singleton_append]
  · split at h <;> cases h

theorem payload_take {type : UInt8} {k : Nat} (h : 5 ≤ k →
      ∃ defect, body type (bs.take (k - 5)) = .error (.malformedPacket defect)) :
    ∃ defect, payload ((header type ++ bs).take k) = .error (.malformedPacket defect) := by
  have hheader : (header type).length = 5 := rfl
  by_cases hk : k < 5
  · rw [List.take_append_of_le_length (by omega)]
    interval_cases k <;> exact ⟨_, rfl⟩
  · rw [List.take_append, List.take_of_length_le (by omega), payload_header, hheader]
    exact h (by omega)

theorem decode_of_error {d : Bytes} {e : Failure} (h : payload d = .error e) :
    decode d = .error e := by
  rw [decode, h]
  rfl

/-- The datagram is an info reply that ends right after its version. -/
def EndsAtVersion (d : Bytes) : Prop := ∃ bs s, d = header infoReply ++ bs ∧ details bs = .ok (s, [])

/-- The answer takes the first `n` bytes of the datagram. -/
structure Consumes (d : Bytes) (p : Payload) (n : Nat) : Prop where
  le_length : n ≤ d.length
  /-- What follows is not looked at, except for the byte after a version. -/
  padded : ¬ EndsAtVersion (d.take n) → ∀ more, decode (d.take n ++ more) = .ok p
  whole : EndsAtVersion (d.take n) → n = d.length
  cut : ∀ k < n, ¬ EndsAtVersion (d.take k) →
    ∃ defect, decode (d.take k) = .error (.malformedPacket defect)
  cut_at_version : ∀ k < n, EndsAtVersion (d.take k) →
    ∃ s, p = .info s ∧ decode (d.take k) = .ok (.info { s with extras := {} })

namespace EndsAtVersion

variable {d : Bytes}

theorem of_details (h : details bs = .ok (s, [])) : EndsAtVersion (header infoReply ++ bs) :=
  ⟨bs, s, rfl, h⟩

theorem details_eq_ok {type : UInt8} (h : EndsAtVersion (header type ++ bs)) :
    type = infoReply ∧ ∃ s, details bs = .ok (s, []) := by
  obtain ⟨bs', s, he, hs⟩ := h
  obtain ⟨htype, rfl⟩ := List.append_inj he rfl
  exact ⟨List.singleton_injective (List.append_cancel_left htype), s, hs⟩

theorem decode_header (h : details bs = .ok (s, [])) :
    decode (header infoReply ++ bs) = .ok (.info s) := by
  have hserver : serverInfo bs = .ok (s, []) := by
    rw [serverInfo_eq]
    exact bind_eq_ok.2 ⟨s, [], h, rfl⟩
  have hbody : (Payload.info <$> serverInfo) bs = .ok (.info s, []) := map_eq_ok.2 ⟨s, hserver, rfl⟩
  exact decode_of_body hbody

theorem decode (h : EndsAtVersion d) : ∃ s, decode d = .ok (.info s) := by
  obtain ⟨bs, s, rfl, hs⟩ := h
  exact ⟨s, decode_header hs⟩

end EndsAtVersion

theorem Consumes.of_body {type : UInt8} {front : Bytes} {p : Payload}
    (hwhole : EndsAtVersion (header type ++ front) → rest = [])
    (hreads : ¬ EndsAtVersion (header type ++ front) → Reads (body type) front p)
    (hcut : ∀ k < front.length,
      (∃ defect, body type (front.take k) = .error (.malformedPacket defect)) ∨
        type = infoReply ∧ ∃ s, p = .info s ∧
          details (front.take k) = .ok ({ s with extras := {} }, [])) :
    Consumes (header type ++ (front ++ rest)) p (header type ++ front).length := by
  have htake {k : Nat} (hk : k ≤ (header type ++ front).length) :
      (header type ++ (front ++ rest)).take k = (header type ++ front).take k := by
    rw [← List.append_assoc, List.take_append_of_le_length hk]
  have hall := (htake le_rfl).trans List.take_length
  have hshort {k : Nat} (hk : k < (header type ++ front).length) :
      (∃ defect, decode ((header type ++ front).take k) = .error (.malformedPacket defect)) ∨
        EndsAtVersion ((header type ++ front).take k) ∧ ∃ s, p = .info s ∧
          decode ((header type ++ front).take k) = .ok (.info { s with extras := {} }) := by
    have hlen : (header type ++ front).length = 5 + front.length := List.length_append
    by_cases hk5 : k < 5
    · have hlate (hk' : 5 ≤ k) : ∃ defect,
          body type (front.take (k - 5)) = .error (.malformedPacket defect) := absurd hk' (by omega)
      obtain ⟨defect, hd⟩ := payload_take hlate
      exact .inl ⟨defect, decode_of_error hd⟩
    · rcases hcut (k - 5) (by omega) with hd | ⟨rfl, s, rfl, hs⟩
      · obtain ⟨defect, hd⟩ := payload_take fun _ ↦ hd
        exact .inl ⟨defect, decode_of_error hd⟩
      · right
        rw [List.take_append, List.take_of_length_le (by change 5 ≤ k; omega)]
        exact ⟨.of_details hs, s, rfl, EndsAtVersion.decode_header hs⟩
  constructor
  · simp only [List.length_append]
    omega
  · intro hno more
    rw [hall] at hno ⊢
    rw [List.append_assoc]
    exact decode_of_body (hreads hno more)
  · intro hend
    rw [hall] at hend
    rw [hwhole hend, List.append_nil]
  · intro k hk hno
    rw [htake hk.le] at hno ⊢
    exact (hshort hk).resolve_right fun h ↦ hno h.1
  · intro k hk hend
    rw [htake hk.le] at hend ⊢
    rcases hshort hk with ⟨defect, hd⟩ | h
    · obtain ⟨s, hs⟩ := hend.decode
      cases hd.symm.trans hs
    · exact h.2

theorem Consumes.of_details {front : Bytes} (hd : details front = .ok (s, []))
    (hneeds : Needs details front) :
    Consumes (header infoReply ++ (front ++ [])) (.info s) (header infoReply ++ front).length := by
  refine .of_body (fun _ ↦ rfl) (fun hno ↦ absurd (.of_details hd) hno) fun k hk ↦ .inl ?_
  have hcut : Needs (Payload.info <$> serverInfo) front := by
    rw [map_eq_pure_bind, serverInfo_eq]
    exact hneeds.then.then
  exact hcut k hk

theorem Consumes.of_extended {front back : Bytes} (hreads : Reads details front t)
    (hneeds : Needs details front) (hext : Reads (extension t) back s)
    (hmore : Needs (extension t) back) :
    Consumes (header infoReply ++ (front ++ back ++ rest)) (.info s)
      (header infoReply ++ (front ++ back)).length := by
  obtain ⟨hback, hserver, hcut⟩ := serverInfo_extended hreads hneeds hext hmore
  have hfront : details front = .ok (t, []) := by
    have h := hreads []
    rwa [List.append_nil] at h
  have hbare : t = { s with extras := {} } := by
    have he := extras_of_details hfront
    obtain ⟨e, rfl⟩ := extension_eq_ok (hext [])
    rw [← he]
  refine .of_body (fun hend ↦ ?_) (fun _ ↦ hserver.map Payload.info) fun k hk ↦ ?_
  · obtain ⟨-, u, hu⟩ := hend.details_eq_ok
    rw [hreads] at hu
    exact absurd (Prod.mk.inj (Except.ok.inj hu)).2 hback
  · by_cases hv : k = front.length
    · right
      rw [hbare] at hfront
      rw [hv, List.take_left]
      exact ⟨rfl, s, rfl, hfront⟩
    · left
      obtain ⟨defect, hd⟩ := hcut k hk hv
      refine ⟨defect, ?_⟩
      change (serverInfo _ >>= fun p ↦ _) = _
      rw [hd]
      rfl

/-- Every answer that is read takes a part of the datagram off its front: whatever follows that part
is not looked at, and with any byte of it missing the answer is malformed. Only an info reply can
also end after its version, and then it is read without extras. -/
theorem decode_consumes {d : Bytes} {p : Payload} (h : decode d = .ok p) :
    ∃ n, Consumes d p n := by
  obtain ⟨rest, hp⟩ : ∃ rest, payload d = .ok (p, rest) := by
    unfold decode at h
    cases hp : payload d with
    | error e =>
      rw [hp] at h
      cases h
    | ok q =>
      rw [hp] at h
      cases h
      exact ⟨q.2, rfl⟩
  obtain ⟨type, bs, rfl, hbody⟩ := payload_eq_ok hp
  by_cases hinfo : type = infoReply
  · subst hinfo
    have hinfo : (Payload.info <$> serverInfo) bs = .ok (p, rest) := hbody
    obtain ⟨s, hserver, rfl⟩ := map_eq_ok.1 hinfo
    rw [serverInfo_eq] at hserver
    obtain ⟨t, mid, hdetails, hending⟩ := bind_eq_ok.1 hserver
    obtain ⟨front, rfl, hreads, hneeds⟩ := exact_details hdetails
    by_cases hmid : mid = []
    · subst hmid
      cases hending
      rw [List.append_nil] at hdetails
      exact ⟨_, .of_details hdetails hneeds⟩
    · rw [ending_of_ne_nil t hmid] at hending
      obtain ⟨back, rfl, hext, hmore⟩ := exact_extension t hending
      rw [← List.append_assoc front]
      exact ⟨_, .of_extended hreads hneeds hext hmore⟩
  · obtain ⟨front, rfl, hreads, hneeds⟩ := exact_body hinfo hbody
    refine ⟨_, .of_body (fun hend ↦ ?_) (fun _ ↦ hreads) fun k hk ↦ .inl (hneeds k hk)⟩
    exact absurd hend.details_eq_ok.1 hinfo

/-- A reply with keywords, and a byte too many. -/
theorem padded_relay_is_consumed :
    let relay : ServerInfo := {
      protocol := 17, name := "relay é", map := "", folder := "csgo", game := "Counter-Strike"
      appId := 730, players := 255, maxPlayers := 24, bots := 0, serverType := 0x64
      environment := 0xff, isPrivate := true, isSecure := false, version := "1.38"
      extras := { keywords := some "secure" } }
    decode (relay.datagram ++ [7]) = .ok (.info relay) ∧
      ∃ n, Consumes (relay.datagram ++ [7]) (.info relay) n := by
  intro relay
  have hread : decode (relay.datagram ++ [7]) = .ok (.info relay) := by
    rw [ServerInfo.datagram, List.append_assoc, List.append_assoc]
    exact decode_of_body ((reads_serverInfo (by decide)).map Payload.info [7])
  exact ⟨hread, decode_consumes hread⟩

end GameServers.Inquiry
