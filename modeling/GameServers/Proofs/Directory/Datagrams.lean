import GameServers.Directory.Protocol
import GameServers.Proofs.Address.Reading
import GameServers.Proofs.Address.Text
import GameServers.Proofs.Text.Utf8

namespace GameServers.Directory

theorem port_of_bytes (p : UInt16) :
    UInt16.ofNat ((UInt8.ofNat (p.toNat / 256)).toNat * 256 + (UInt8.ofNat p.toNat).toNat) = p := by
  have hp := p.toNat_lt
  apply UInt16.toNat_inj.1
  simp only [UInt16.toNat_ofNat', UInt8.toNat_ofNat']
  omega

theorem bytes_of_port (hi lo : UInt8) :
    let p := UInt16.ofNat (hi.toNat * 256 + lo.toNat)
    UInt8.ofNat (p.toNat / 256) = hi ∧ UInt8.ofNat p.toNat = lo := by
  intro p
  have hhi := hi.toNat_lt
  have hlo := lo.toNat_lt
  have hp : p.toNat = hi.toNat * 256 + lo.toNat :=
    UInt16.toNat_ofNat_of_lt' (by change _ < 65536; omega)
  refine ⟨UInt8.toNat_inj.1 ?_, UInt8.toNat_inj.1 ?_⟩ <;>
    · rw [UInt8.toNat_ofNat', hp]
      omega

theorem entries_entry (e : Endpoint) (rest : Bytes) : entries (entry e ++ rest) = e :: entries rest := by
  simp only [entry, List.cons_append, List.nil_append, entries, port_of_bytes]

theorem entries_flatMap (servers : List Endpoint) : entries (servers.flatMap entry) = servers := by
  induction servers with
  | nil => rfl
  | cons e es ih => rw [List.flatMap_cons, entries_entry, ih]

theorem flatMap_entries {body : Bytes} (h : 6 ∣ body.length) : (entries body).flatMap entry = body := by
  fun_induction entries body with
  | case1 a b c d hi lo rest ih =>
    have hrest : 6 ∣ rest.length := by
      simp only [List.length_cons] at h
      omega
    obtain ⟨hhi, hlo⟩ := bytes_of_port hi lo
    rw [List.flatMap_cons, ih hrest]
    simp only [entry, hhi, hlo, List.cons_append, List.nil_append]
  | case2 body hshort =>
    -- Fewer than six bytes, and a multiple of six.
    match body, hshort, h with
    | [], _, _ => rfl
    | [_], _, h | [_, _], _, h | [_, _, _], _, h | [_, _, _, _], _, h | [_, _, _, _, _], _, h =>
      simp at h
    | a :: b :: c :: d :: hi :: lo :: rest, hshort, _ => exact absurd rfl (hshort a b c d hi lo rest)

theorem length_flatMap_entry (servers : List Endpoint) :
    (servers.flatMap entry).length = 6 * servers.length := by
  induction servers with
  | nil => rfl
  | cons e es ih =>
    rw [List.flatMap_cons, List.length_append, ih, List.length_cons, Nat.mul_succ, Nat.add_comm]
    rfl

/-- A page is read exactly if it was written so. -/
theorem decodePage_eq_ok {frame : Bytes} {servers : List Endpoint} :
    decodePage frame = .ok servers ↔ page servers = frame := by
  constructor
  · intro h
    unfold decodePage at h
    split at h
    · cases h
    · next hheader =>
      simp only at h
      split at h
      · cases h
      · next hlength =>
        obtain rfl := Except.ok.inj h
        have hbody := flatMap_entries (Nat.dvd_of_mod_eq_zero (not_not.1 hlength))
        calc
          page _ = frame.take pageHeader.length ++ frame.drop pageHeader.length := by
            rw [page, hbody, not_not.1 hheader]
          _ = frame := List.take_append_drop _ _
  · rintro rfl
    have hmod : (servers.flatMap entry).length % 6 = 0 := by
      rw [length_flatMap_entry]
      exact Nat.mul_mod_right 6 servers.length
    have hdrop : (page servers).drop pageHeader.length = servers.flatMap entry := List.drop_left
    have htake : (page servers).take pageHeader.length = pageHeader := List.take_left
    simp only [decodePage, hdrop, htake, hmod, entries_flatMap]
    rfl

theorem decodesPage_iff {frame : Bytes} : (∃ servers, decodePage frame = .ok servers) ↔
    ∃ body, frame = pageHeader ++ body ∧ 6 ∣ body.length := by
  constructor
  · rintro ⟨servers, h⟩
    refine ⟨servers.flatMap entry, (decodePage_eq_ok.1 h).symm, ?_⟩
    rw [length_flatMap_entry]
    exact Nat.dvd_mul_right 6 servers.length
  · rintro ⟨body, rfl, h⟩
    exact ⟨entries body, decodePage_eq_ok.2 (congrArg (pageHeader ++ ·) (flatMap_entries h))⟩

theorem decode_eq_ok {frame : Bytes} {master : SocketAddress} {r : Response} :
    protocol.decode frame master = .ok r ↔ r.master = master ∧ page r.servers = frame := by
  change (fun servers ↦ (⟨master, servers⟩ : Response)) <$> decodePage frame = .ok r ↔ _
  rw [← decodePage_eq_ok]
  cases h : decodePage frame with
  | error e => simp [Functor.map, Except.map]
  | ok servers =>
    obtain ⟨m, ss⟩ := r
    simp [Functor.map, Except.map, eq_comm]

theorem zero_not_mem_seed (e : Endpoint) : (0 : UInt8) ∉ Text.toBytes e.text := by
  rw [Text.zero_mem_toBytes, Endpoint.text, String.toList_ofList]
  intro h
  rcases List.mem_append.1 h with h | h
  · rcases IPv4.mem_chars h with hd | hd
    · exact absurd hd (by decide)
    · cases hd
  · rcases List.mem_cons.1 h with hd | hd
    · cases hd
    · exact not_mem_decimal (by decide) _ hd

variable {region : Region} {seed : Endpoint} {filter : String}

theorem drop_query : (query region seed filter).drop 2 =
    Text.toBytes seed.text ++ 0 :: (Text.toBytes filter ++ [0]) := by
  simp [query]

theorem takeWhile_query (region : Region) (seed : Endpoint) (filter : String) :
    ((query region seed filter).drop 2).takeWhile (· ≠ 0) = Text.toBytes seed.text := by
  have hne : ∀ b ∈ Text.toBytes seed.text, decide (b ≠ 0) = true := by
    intro b hb
    refine decide_eq_true fun h ↦ zero_not_mem_seed seed ?_
    exact h ▸ hb
  rw [drop_query, List.takeWhile_append_of_pos hne]
  simp

theorem query_injective {region' : Region} {seed' : Endpoint} {filter' : String}
    (h : query region seed filter = query region' seed' filter') :
    region = region' ∧ seed = seed' ∧ filter = filter' := by
  have hregion : region.code = region'.code := (List.cons.inj (List.cons.inj h).2).1
  have hseed : Text.toBytes seed.text = Text.toBytes seed'.text := by
    rw [← takeWhile_query region seed filter, h, takeWhile_query]
  obtain rfl := Endpoint.text_injective (Text.toBytes_injective hseed)
  have hrest := congrArg (List.drop 2) h
  rw [drop_query, drop_query] at hrest
  have hfilter := List.append_cancel_right (List.cons.inj (List.append_cancel_left hrest)).2
  exact ⟨Region.code_injective hregion, rfl, Text.toBytes_injective hfilter⟩

/-- A datagram is read as a page exactly if it is the header with whole entries behind it; what is
read gives the datagram when it is written, and what is written is read back. Two questions with the
same bytes agree in region, seed and filter. The bytes of a question from the third on hold, up to
the first zero byte, the text of its seed, which is read as the seed. -/
theorem datagrams_are_exact :
    (∀ (frame : Bytes) (master : SocketAddress), (∃ r, protocol.decode frame master = .ok r) ↔
        ∃ body : Bytes, frame = [0xff, 0xff, 0xff, 0xff, 0x66, 0x0a] ++ body ∧ 6 ∣ body.length) ∧
      (∀ (frame : Bytes) (master : SocketAddress) (r : Response),
        protocol.decode frame master = .ok r → r.master = master ∧ page r.servers = frame) ∧
      (∀ (servers : List Endpoint) (master : SocketAddress),
        protocol.decode (page servers) master = .ok ⟨master, servers⟩) ∧
      (∀ q q' : Request, protocol.encode q = protocol.encode q' →
        q.region = q'.region ∧ q.seed = q'.seed ∧ q.filter = q'.filter) ∧
      ∀ q : Request, ∃ bytes : Bytes, protocol.encode q = .ok bytes ∧ 0 ∈ bytes.drop 2 ∧
        (bytes.drop 2).takeWhile (· ≠ 0) = Text.toBytes q.seed.text ∧
        Endpoint.parse? q.seed.text = some q.seed := by
  refine ⟨fun frame master ↦ ?_, fun _ _ _ ↦ decode_eq_ok.1, fun _ _ ↦ decode_eq_ok.2 ⟨rfl, rfl⟩,
    fun q q' h ↦ query_injective (Except.ok.inj h), fun q ↦ ?_⟩
  · refine Iff.trans ?_ decodesPage_iff
    constructor
    · rintro ⟨r, h⟩
      exact ⟨r.servers, decodePage_eq_ok.2 (decode_eq_ok.1 h).2⟩
    · rintro ⟨servers, h⟩
      exact ⟨⟨master, servers⟩, decode_eq_ok.2 ⟨rfl, decodePage_eq_ok.1 h⟩⟩
  · refine ⟨query q.region q.seed q.filter, rfl, ?_, takeWhile_query _ _ _, q.seed.parse?_text⟩
    rw [drop_query]
    exact List.mem_append_right _ (.head _)

/-- A page of one server and the terminator, and a question whose filter holds a zero byte, for two
directories. -/
theorem datagrams_with_zero_bytes :
    let frame : Bytes := [0xff, 0xff, 0xff, 0xff, 0x66, 0x0a, 1, 2, 3, 4, 0x69, 0x87, 0, 0, 0, 0, 0, 0]
    let master : SocketAddress := .v4 ⟨127, 0, 0, 1⟩ 27011
    let q : Request := ⟨master, .europe, ⟨⟨10, 0, 0, 1⟩, 27015⟩, "\\map\\a\x00b"⟩
    let q' : Request := { q with master := .v4 ⟨127, 0, 0, 1⟩ 27010 }
    let r : Response := ⟨master, [⟨⟨1, 2, 3, 4⟩, 27015⟩, terminator]⟩
    (protocol.decode frame master = .ok r ∧ page r.servers = frame) ∧
      protocol.encode q = protocol.encode q' ∧ q.region = q'.region ∧ q.seed = q'.seed ∧
        q.filter = q'.filter := by
  intro frame master q q' r
  obtain ⟨-, hread, -, hquery, -⟩ := datagrams_are_exact
  have hframe : protocol.decode frame master = .ok r := by decide
  have hbytes : protocol.encode q = protocol.encode q' := rfl
  exact ⟨⟨hframe, (hread frame master r hframe).2⟩, hbytes, hquery q q' hbytes⟩

end GameServers.Directory
