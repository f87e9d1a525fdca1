import GameServers.Inquiry.Layout
import GameServers.Proofs.Cursor
import Mathlib.Data.List.Basic

namespace GameServers.Inquiry

open Cursor

/-- A zero byte ends a text, so a text can have none. -/
def IsNulFree (s : String) : Prop := '\x00' ∉ s.toList

instance (s : String) : Decidable (IsNulFree s) := inferInstanceAs (Decidable ('\x00' ∉ s.toList))

theorem reads_stringBytes {s : String} (h : IsNulFree s) : Reads string (stringBytes s) s :=
  .string h

theorem reads_optionalBytes {α : Type} {c : Cursor α} {encode : α → Bytes} {o : Option α}
    {present : Bool} (hp : present = o.isSome) (h : ∀ a, o = some a → Reads c (encode a) a) :
    Reads (optional present c) (optionalBytes encode o) o := by
  subst hp
  cases o with
  | none => exact .pure none
  | some a => exact (h a rfl).map some

theorem hasBit_flags (e : Extras) :
    hasBit e.flags portBit = e.port.isSome ∧ hasBit e.flags steamIdBit = e.steamId.isSome ∧
      hasBit e.flags spectatorsBit = e.spectators.isSome ∧
      hasBit e.flags keywordsBit = e.keywords.isSome ∧ hasBit e.flags gameIdBit = e.gameId.isSome := by
  have h : ∀ p i t k g : Bool,
      let flags := (if p then portBit else 0) ||| (if i then steamIdBit else 0) |||
        (if t then spectatorsBit else 0) ||| (if k then keywordsBit else 0) |||
        (if g then gameIdBit else 0)
      hasBit flags portBit = p ∧ hasBit flags steamIdBit = i ∧ hasBit flags spectatorsBit = t ∧
        hasBit flags keywordsBit = k ∧ hasBit flags gameIdBit = g := by
    decide
  exact h _ _ _ _ _

/-- All texts that a server tells about itself. -/
def ServerInfo.texts (s : ServerInfo) : List String :=
  [s.name, s.map, s.folder, s.game, s.version] ++ (s.extras.spectators.map (·.name)).toList ++
    s.extras.keywords.toList

variable {s : ServerInfo}

theorem reads_extras (h : ∀ t ∈ s.texts, IsNulFree t) :
    Reads (extras s.extras.flags) s.extras.body s.extras := by
  obtain ⟨hport, hid, htv, hkeywords, hgame⟩ := hasBit_flags s.extras
  simp only [Extras.body, List.append_assoc]
  unfold extras
  refine (reads_optionalBytes hport fun n _ ↦ .uint16 n).bind ?_
  refine (reads_optionalBytes hid fun n _ ↦ .uint64 n).bind ?_
  refine Reads.bind (a := s.extras.spectators) (reads_optionalBytes htv fun t ht ↦ ?_) ?_
  · have hname : IsNulFree t.name := h _ (by simp [ServerInfo.texts, ht])
    exact (Reads.uint16 t.port).bind ((reads_stringBytes hname).finish _)
  · refine Reads.bind (a := s.extras.keywords) (reads_optionalBytes hkeywords fun k hk ↦ ?_) ?_
    · exact reads_stringBytes (h k (by simp [ServerInfo.texts, hk]))
    · exact (reads_optionalBytes hgame fun n _ ↦ .uint64 n).finish _

theorem reads_details (h : ∀ t ∈ s.texts, IsNulFree t) :
    Reads details s.detailsBody { s with extras := {} } := by
  have hbool (b : Bool) : decide (ServerInfo.boolByte b = 1) = b := by cases b <;> rfl
  have hstring {t : String} (ht : t ∈ [s.name, s.map, s.folder, s.game, s.version]) :
      Reads string (stringBytes t) t := by
    refine reads_stringBytes (h t ?_)
    simp only [ServerInfo.texts, List.append_assoc]
    exact List.mem_append_left _ ht
  have hbody : s.detailsBody = [s.protocol] ++ (stringBytes s.name ++ (stringBytes s.map ++
      (stringBytes s.folder ++ (stringBytes s.game ++ (Bytes.ofUInt16 s.appId ++ ([s.players] ++
      ([s.maxPlayers] ++ ([s.bots] ++ ([s.serverType] ++ ([s.environment] ++
      ([ServerInfo.boolByte s.isPrivate] ++ ([ServerInfo.boolByte s.isSecure] ++
        stringBytes s.version)))))))))))) := by
    simp [ServerInfo.detailsBody]
  rw [hbody]
  unfold details
  refine (Reads.uint8 _).bind ?_
  iterate 4 refine (hstring (by simp)).bind ?_
  refine (Reads.uint16 _).bind ?_
  iterate 7 refine (Reads.uint8 _).bind ?_
  rw [hbool, hbool]
  exact (hstring (by simp)).finish _

theorem reads_serverInfo (h : ∀ t ∈ s.texts, IsNulFree t) :
    Reads serverInfo (s.detailsBody ++ s.extras.flags :: s.extras.body) s := by
  refine (reads_details h).bind ?_
  intro rest
  have hextras := ((Reads.uint8 s.extras.flags).bind (reads_extras h)).finish
    fun extras ↦ { s with extras }
  exact hextras rest

theorem serverInfo_details (h : ∀ t ∈ s.texts, IsNulFree t) (he : s.extras = {}) :
    serverInfo s.detailsBody = .ok (s, []) := by
  have hd := reads_details h []
  rw [List.append_nil] at hd
  change (details s.detailsBody >>= fun p ↦ _) = _
  rw [hd, ← he]
  rfl

theorem reads_player {p : Player} (h : IsNulFree p.name) : Reads player p.body p := by
  have hbody : p.body = [p.index] ++ (stringBytes p.name ++
      (Bytes.ofInt32 p.score ++ Bytes.ofUInt32 p.duration.bits)) := by
    simp [Player.body]
  rw [hbody]
  refine (Reads.uint8 _).bind ?_
  refine (reads_stringBytes h).bind ?_
  refine (Reads.int32 _).bind ?_
  exact (Reads.uint32 _).finish _

theorem reads_players {list : List Player} (hlen : list.length ≤ 255)
    (h : ∀ p ∈ list, IsNulFree p.name) :
    Reads players (UInt8.ofNat list.length :: list.flatMap Player.body) list := by
  have hcount : (UInt8.ofNat list.length).toNat = list.length :=
    UInt8.toNat_ofNat_of_lt' (by change list.length < 256; omega)
  refine (Reads.uint8 _).bind ?_
  rw [hcount]
  exact Reads.times fun p hp ↦ reads_player (h p hp)

theorem reads_rule {p : String × String} (h : IsNulFree p.1 ∧ IsNulFree p.2) :
    Reads rule (stringBytes p.1 ++ stringBytes p.2) p :=
  (reads_stringBytes h.1).bind ((reads_stringBytes h.2).finish _)

theorem reads_rules {pairs : List (String × String)} (hlen : pairs.length ≤ 65535)
    (h : ∀ p ∈ pairs, IsNulFree p.1 ∧ IsNulFree p.2) :
    Reads rules (Bytes.ofUInt16 (UInt16.ofNat pairs.length) ++
      pairs.flatMap fun p ↦ stringBytes p.1 ++ stringBytes p.2) (Rules.ofPairs pairs) := by
  have hcount : (UInt16.ofNat pairs.length).toNat = pairs.length :=
    UInt16.toNat_ofNat_of_lt' (by change pairs.length < 65536; omega)
  refine (Reads.uint16 _).bind ?_
  rw [hcount]
  exact (Reads.times fun p hp ↦ reads_rule (h p hp)).finish _

theorem getElem?_ofPairs (pairs : List (String × String)) (name : String) :
    (Rules.ofPairs pairs)[name]? = pairs.reverse.lookup name := by
  induction pairs using List.reverseRecOn with
  | nil => rfl
  | append_singleton pairs p ih =>
    rw [Rules.ofPairs, List.foldl_append, List.foldl_cons, List.foldl_nil,
      Std.TreeMap.getElem?_insert, List.reverse_append, List.reverse_singleton,
      List.singleton_append, List.lookup_cons]
    by_cases hname : p.1 = name
    · simp [hname]
    · have hne : (name == p.1) = false := by simpa using fun he ↦ hname he.symm
      rw [if_neg (by simpa using hname), hne]
      exact ih

theorem payload_header (type : UInt8) (bs : Bytes) : payload (header type ++ bs) = body type bs := by
  have hwhole := Reads.int32 wholeHeader ([type] ++ bs)
  rw [header, List.append_assoc]
  change (Cursor.int32 (Bytes.ofInt32 wholeHeader ++ ([type] ++ bs)) >>= fun p ↦ _) = _
  rw [hwhole]
  rfl

theorem decode_of_body {type : UInt8} {bs : Bytes} {answer : Payload} {rest : Bytes}
    (h : body type bs = .ok (answer, rest)) : decode (header type ++ bs) = .ok answer := by
  rw [decode, payload_header, h]
  rfl

theorem decode_of_reads {α : Type} {c : Cursor α} {wrap : α → Payload} {type : UInt8} {bs : Bytes}
    {a : α} (hbody : body type = wrap <$> c) (h : Reads c bs a) :
    decode (header type ++ bs) = .ok (wrap a) := by
  have hread := h.map wrap []
  rw [List.append_nil, ← hbody] at hread
  exact decode_of_body hread

/-- Answers are read as servers lay them out: details with the extras that the flags announce, or
without any, up to 255 players, and up to 65535 rules. The codes of a server's type and environment
are those of all characters up to U+00FF. -/
theorem layouts_decode :
    (header infoReply = [0xff, 0xff, 0xff, 0xff, 0x49] ∧
      header playersReply = [0xff, 0xff, 0xff, 0xff, 0x44] ∧
      header rulesReply = [0xff, 0xff, 0xff, 0xff, 0x45]) ∧
    (∀ s : ServerInfo, (∀ t ∈ s.texts, IsNulFree t) → decode s.datagram = .ok (.info s) ∧
      (s.extras = {} → decode s.shortDatagram = .ok (.info s))) ∧
    (∀ list : List Player, list.length ≤ 255 → (∀ p ∈ list, IsNulFree p.name) →
      decode (playersDatagram list) = .ok (.players list)) ∧
    ∀ pairs : List (String × String), pairs.length ≤ 65535 →
      (∀ p ∈ pairs, IsNulFree p.1 ∧ IsNulFree p.2) →
        ∃ map : Rules, decode (rulesDatagram pairs) = .ok (.rules map) ∧
          ∀ name : String, map[name]? = pairs.reverse.lookup name := by
  refine ⟨by decide, fun s hs ↦ ⟨?_, fun he ↦ ?_⟩, fun list hlen hlist ↦ ?_,
    fun pairs hlen hpairs ↦ ?_⟩
  · rw [ServerInfo.datagram, List.append_assoc]
    exact decode_of_reads rfl (reads_serverInfo hs)
  · have hbody : body infoReply s.detailsBody = .ok (.info s, []) := by
      change (serverInfo s.detailsBody >>= fun p ↦ _) = _
      rw [serverInfo_details hs he]
      rfl
    exact decode_of_body hbody
  · exact decode_of_reads rfl (reads_players hlen hlist)
  · refine ⟨Rules.ofPairs pairs, ?_, getElem?_ofPairs pairs⟩
    rw [rulesDatagram, List.append_assoc]
    exact decode_of_reads rfl (reads_rules hlen hpairs)

theorem relay_decodes :
    let plain : ServerInfo := {
      protocol := 17, name := "relay é", map := "", folder := "csgo", game := "Counter-Strike"
      appId := 730, players := 255, maxPlayers := 24, bots := 0, serverType := 0x64
      environment := 0xff, isPrivate := true, isSecure := false, version := "1.38" }
    let relay : ServerInfo := { plain with
      extras := {
        port := some 27015, steamId := some 90000000000000001
        spectators := some ⟨27020, "tv"⟩, keywords := some "", gameId := some 730 } }
    let list : List Player := [⟨0, "alice", 10, ⟨0x42760000⟩⟩, ⟨1, "", -2, ⟨0x7fc00001⟩⟩]
    let pairs : List (String × String) := [("a", "1"), ("b", ""), ("a", "2")]
    (∀ t ∈ relay.texts, IsNulFree t) ∧ decode relay.datagram = .ok (.info relay) ∧
      (∀ t ∈ plain.texts, IsNulFree t) ∧ decode plain.shortDatagram = .ok (.info plain) ∧
      (∀ p ∈ list, IsNulFree p.name) ∧ decode (playersDatagram list) = .ok (.players list) ∧
      (∀ p ∈ pairs, IsNulFree p.1 ∧ IsNulFree p.2) ∧
      ∃ map : Rules, decode (rulesDatagram pairs) = .ok (.rules map) ∧
        map["a"]? = some "2" ∧ map["b"]? = some "" ∧ map["c"]? = none := by
  intro plain relay list pairs
  obtain ⟨-, hinfo, hplayers, hrules⟩ := layouts_decode
  have hrelay : ∀ t ∈ relay.texts, IsNulFree t := by decide
  have hplain : ∀ t ∈ plain.texts, IsNulFree t := by decide
  have hlist : ∀ p ∈ list, IsNulFree p.name := by decide
  have hpairs : ∀ p ∈ pairs, IsNulFree p.1 ∧ IsNulFree p.2 := by decide
  obtain ⟨map, hmap, hlast⟩ := hrules pairs (by decide) hpairs
  refine ⟨hrelay, (hinfo relay hrelay).1, hplain, (hinfo plain hplain).2 rfl, hlist,
    hplayers list (by decide) hlist, hpairs, map, hmap, ?_⟩
  rw [hlast, hlast, hlast]
  decide

end GameServers.Inquiry
