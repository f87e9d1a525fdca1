import GameServers.Proofs.Transport.Peers

namespace GameServers

variable {P : Protocol}

namespace Reserve

variable {κ : Type} [DecidableEq κ] {isOpen : Nat → Bool} {key : κ} {c : Nat}

theorem takeFrom_sublist (xs : List (κ × Nat)) : ((takeFrom isOpen key xs).2).Sublist xs := by
  induction xs with
  | nil => exact .refl _
  | cons x xs ih =>
    obtain ⟨k, n⟩ := x
    unfold takeFrom
    split
    · split
      · exact List.sublist_cons_self _ _
      · exact ih.cons _
    · exact ih.cons_cons _

theorem isOpen_of_takeFrom {xs : List (κ × Nat)} (h : (takeFrom isOpen key xs).1 = some c) :
    isOpen c = true := by
  induction xs with
  | nil => cases h
  | cons x xs ih =>
    obtain ⟨k, n⟩ := x
    unfold takeFrom at h
    split at h
    · split at h
      · next ho => exact Option.some.inj h ▸ ho
      · exact ih h
    · exact ih h

theorem not_mem_of_takeFrom {xs : List (κ × Nat)} (hn : (xs.map Prod.snd).Nodup)
    (h : (takeFrom isOpen key xs).1 = some c) : c ∉ (takeFrom isOpen key xs).2.map Prod.snd := by
  induction xs with
  | nil => cases h
  | cons x xs ih =>
    obtain ⟨k, n⟩ := x
    obtain ⟨hhead, hn⟩ := List.nodup_cons.1 hn
    unfold takeFrom at h ⊢
    split at h
    · next hk =>
      rw [if_pos hk]
      split at h
      · next ho =>
        rw [if_pos ho]
        exact Option.some.inj h ▸ hhead
      · next ho =>
        rw [if_neg ho]
        exact ih hn h
    · next hk =>
      have h : (takeFrom isOpen key xs).1 = some c := h
      have hfound := (mem_takeFrom xs).1 c h
      rw [if_neg hk]
      intro hm
      rcases List.mem_cons.1 hm with rfl | hm
      · exact hhead (List.mem_map.2 ⟨_, hfound, rfl⟩)
      · exact ih hn h hm

end Reserve

namespace Switchboard

variable {b b' b'' : Switchboard P} {c : Nat}

structure Fades (b b' : Switchboard P) : Prop where
  count : b'.channels.length = b.channels.length
  peers : b'.peer? = b.peer?
  closing : ∀ c, b'.isOpen c = true → b.isOpen c = true

theorem Fades.of_channels (h : b'.channels = b.channels) : Fades b b' where
  count := by rw [h]
  peers := by
    funext c
    rw [peer?, peer?, h]
  closing c hc := by
    rw [isOpen, h] at hc
    exact hc

theorem Fades.refl (b : Switchboard P) : Fades b b := .of_channels rfl

theorem Fades.congr_left (h : Fades b b'') (hb : b.channels = b'.channels) : Fades b' b'' where
  count := h.count.trans (congrArg List.length hb)
  peers := by
    rw [h.peers]
    funext c
    rw [peer?, peer?, hb]
  closing c hc := by
    have ho := h.closing c hc
    rwa [isOpen, hb] at ho

theorem Fades.trans (h : Fades b b') (h' : Fades b' b'') : Fades b b'' where
  count := h'.count.trans h.count
  peers := h'.peers.trans h.peers
  closing c hc := h.closing c (h'.closing c hc)

theorem links_congr (h : b'.channels = b.channels) : b'.links = b.links :=
  congrArg (List.map Channel.link) h

theorem isOpen_eq_true : b.isOpen c = true ↔ ∃ x, b.channels[c]? = some x ∧ x.isOpen = true := by
  unfold isOpen
  cases b.channels[c]? with
  | none => simp
  | some x => simp

theorem Fades.modify {f : Channel P → Channel P}
    (hf : ∀ x, (f x).peer = x.peer ∧ ((f x).isOpen = true → x.isOpen = true)) (b : Switchboard P)
    (c : Nat) : Fades b (b.modify c f) where
  count := List.length_modify _ _ _
  peers := by
    funext k
    simp only [peer?, Switchboard.modify, List.getElem?_modify]
    cases b.channels[k]? with
    | none => rfl
    | some x =>
      simp only [Option.map_eq_map, Option.map_some, Option.bind_some]
      split
      · exact (hf x).1
      · rfl
  closing k hk := by
    obtain ⟨y, hy, ho⟩ := isOpen_eq_true.1 hk
    rw [Switchboard.modify, List.getElem?_modify] at hy
    obtain ⟨x, hx, rfl⟩ := Option.map_eq_some_iff.1 hy
    refine isOpen_eq_true.2 ⟨x, hx, ?_⟩
    split at ho
    · exact (hf x).2 ho
    · exact ho

theorem Fades.foldl {α : Type} {f : Switchboard P → α → Switchboard P} (hf : ∀ b x, Fades b (f b x))
    (xs : List α) (b : Switchboard P) : Fades b (xs.foldl f b) := by
  induction xs generalizing b with
  | nil => exact .refl b
  | cons x xs ih => exact (hf b x).trans (ih (f b x))

variable (b) (c)

theorem fades_shut : Fades b (b.shut c) := by
  refine Fades.modify (f := Channel.shut) (fun x ↦ ⟨rfl, fun h ↦ ?_⟩) b c
  cases h

theorem fades_abortReader : Fades b (b.abortReader c) := by
  have hs := Fades.modify (f := (·.setReader none)) (fun _ ↦ ⟨rfl, id⟩) b c
  simp only [abortReader]
  split
  · exact .refl b
  · split
    · exact hs.trans (.of_channels rfl)
    · exact hs

theorem fades_close : Fades b (b.close c) := (b.fades_shut c).trans (fades_abortReader _ c)

theorem isOpen_close : (b.close c).isOpen c = false := by
  rw [Bool.eq_false_iff]
  intro ho
  have hshut := (fades_abortReader _ c).closing c ho
  exact absurd ((b.isOpen_shut c).symm.trans hshut) (by decide)

theorem links_close : (b.close c).links = b.links :=
  ((b.shut c).links_abortReader c).trans (b.links_shut c)

theorem fades_attachOwn : Fades b (b.attachOwn c) := by
  unfold attachOwn
  split
  · refine (b.fades_abortReader c).trans ?_
    simp only [attach]
    refine Fades.congr_left (Fades.modify (fun x ↦ ?_) _ c) rfl
    exact ⟨rfl, id⟩
  · exact .refl b

theorem fades_makeWritable : Fades b b.makeWritable where
  count := List.length_map _
  peers := peer?_congr b.links_makeWritable
  closing c hc := by
    obtain ⟨y, hy, ho⟩ := isOpen_eq_true.1 hc
    rw [makeWritable, List.getElem?_map] at hy
    obtain ⟨x, hx, rfl⟩ := Option.map_eq_some_iff.1 hy
    exact isOpen_eq_true.2 ⟨x, hx, ho⟩

theorem fades_blame (e : Failure) : Fades b (b.blame c e) := by
  unfold blame
  split <;> exact .of_channels rfl

theorem fades_endReader (r : Nat) : Fades b (b.endReader r c) :=
  ((fades_shut _ c).congr_left rfl).trans (.of_channels rfl)

theorem fades_readStream (r : Nat) (x : Reader) (connection : Nat) (peer : SocketAddress) :
    Fades b (b.readStream r x connection peer) := by
  have hframes (b : Switchboard P) (frames : List Bytes) :
      Fades b (frames.foldl (readFrame x.channel peer) b) := by
    refine .foldl (fun b frame ↦ ?_) frames b
    simp only [readFrame]
    split
    · exact .of_channels rfl
    · exact (fades_blame _ _ _).congr_left rfl
  have hread (net : Network) (readers : List Reader) (frames : List Bytes) :
      Fades b (frames.foldl (readFrame x.channel peer) { b with net, readers }) :=
    (hframes _ frames).congr_left rfl
  simp only [readStream]
  split
  · exact hread _ _ _
  · refine Fades.trans ?_ (fades_endReader _ x.channel r)
    split
    · exact (hread _ _ _).trans (fades_blame _ _ _)
    · exact (hread _ _ _).trans (.of_channels rfl)

theorem fades_runReader (r : Nat) : Fades b (b.runReader r) := by
  unfold runReader
  split
  · exact .refl b
  · split
    · exact .refl b
    · split
      · exact .refl b
      · refine (Fades.foldl (fun b x ↦ ?_) _ _).congr_left rfl
        simp only [readDatagram]
        split <;> exact .of_channels rfl
      · split
        · exact b.fades_readStream r _ _ _
        · exact b.fades_endReader _ r

theorem fades_write (origin : Origin P) (bytes : Bytes) : Fades b (b.write c origin bytes).1 := by
  have hnote (x : Switchboard P × Except Failure Unit) (h : Fades b x.1) :
      Fades b (noteWrite c bytes x).1 := by
    unfold noteWrite
    split
    · exact h.trans (.of_channels rfl)
    · exact h
  have hm := Fades.modify (f := (·.note origin)) (fun _ ↦ ⟨rfl, id⟩) b c
  unfold write
  split
  · exact .refl b
  · split
    · exact .refl b
    · split
      · refine hnote _ ?_
        unfold writeDatagram
        split
        · exact .refl b
        · split <;> exact .of_channels rfl
      · refine hnote _ ?_
        simp only [writeStream]
        split
        · exact hm.trans (fades_shut _ c)
        · exact hm.trans (.of_channels rfl)

variable {κ : Type} (reserve : Reserve κ) (key : κ)

theorem channels_takeFrom [DecidableEq κ] : (b.takeFrom reserve key).1.channels = b.channels := by
  have hd (cs : List Nat) : (cs.foldl (fun b c ↦
      b.remark .debug ("dropping dead channel " ++ b.channelText c)) b).channels = b.channels := by
    refine foldl_keeps channels (fun b c ↦ ?_) cs b
    rfl
  simp only [takeFrom]
  split
  · exact hd _
  · exact hd _

theorem takeFrom_snd [DecidableEq κ] : (b.takeFrom reserve key).2 = reserve.take b.isOpen key := by
  have hopen (cs : List Nat) : (cs.foldl (fun b c ↦
      b.remark .debug ("dropping dead channel " ++ b.channelText c)) b).isOpen = b.isOpen := by
    refine foldl_keeps isOpen (fun b c ↦ ?_) cs b
    rfl
  rw [takeFrom, hopen]
  split
  · next h => exact h.symm
  · next h => exact h.symm

theorem channels_bind {a : SocketAddress} (h : b.bind a = .ok b') :
    ∃ x : Channel P, b'.channels = b.channels ++ [x] ∧ x.peer = none ∧ x.written = [] := by
  unfold bind at h
  split at h
  · cases h
  · obtain rfl := Except.ok.inj h
    exact ⟨_, rfl, rfl, rfl⟩

theorem channels_dial {a : SocketAddress} (h : b.dial a = .ok b') : b'.channels = b.channels := by
  unfold dial at h
  split at h
  · cases h
  · obtain rfl := Except.ok.inj h
    rfl

theorem channels_putBack : (b.putBack reserve key c).1.channels = b.channels := by
  simp only [putBack]
  split <;> rfl

theorem putBack_snd : (b.putBack reserve key c).2 = reserve.putBack b.isOpen key c := by
  simp only [putBack]
  split <;> rfl

end Switchboard

/-- How a transport shares channels. -/
inductive Sharing
  | never
  | byKind
  | byServer
  deriving DecidableEq

inductive Key (P : Protocol)
  | kind (k : P.Kind)
  | server (a : SocketAddress)

def Sharing.key? (P : Protocol) (request : P.Request) : Sharing → Option (Key P)
  | never => none
  | byKind => some (.kind (P.requestKind request))
  | byServer => (P.recipient request).map .server

def Carrier.sharing : Carrier P → Sharing
  | .perKind _ => .byKind
  | .perServer _ => .byServer
  | _ => .never

def Carrier.idle : Carrier P → List (Key P × Nat)
  | .perKind reserve => reserve.idle.map (Prod.map .kind id)
  | .perServer reserve => reserve.idle.map (Prod.map .server id)
  | _ => []

namespace Transport

variable (t : Transport P) {t' : Transport P} {k : Key P} {q : P.Request} {c : Nat}

def key? (q : P.Request) : Option (Key P) := t.carrier.sharing.key? P q

def idle : List (Key P × Nat) := t.carrier.idle

def idleChannels : List Nat := t.idle.map Prod.snd

def acquire (q : P.Request) : Transport P × Option Nat :=
  match t.carrier, P.recipient q with
  | .perKind reserve, _ =>
    let (board, found, reserve) := t.board.takeFrom reserve (P.requestKind q)
    ((t.withBoard board).withCarrier (.perKind reserve), found)
  | .perServer reserve, some server =>
    let (board, found, reserve) := t.board.takeFrom reserve server
    ((t.withBoard board).withCarrier (.perServer reserve), found)
  | _, _ => (t, none)

def clearIdle : Transport P := match t.carrier with
  | .perKind reserve => t.withCarrier (.perKind { reserve with idle := [] })
  | .perServer reserve => t.withCarrier (.perServer { reserve with idle := [] })
  | _ => t

def drain : Transport P × List Nat :=
  let count := t.kept.length
  let board := if count = 0 then t.board
    else t.board.remark .debug ("closing " ++ Nat.repr count ++ " channel(s)")
  match t.carrier with
  | .perKind reserve =>
    ((t.withBoard board).withCarrier (.perKind { reserve with live := [] }), reserve.live)
  | .perServer reserve =>
    ((t.withBoard board).withCarrier (.perServer { reserve with live := [] }), reserve.live)
  | _ => (t, [])

theorem close_eq (h : t.carrier.sharing ≠ .never) :
    t.close = t.clearIdle.drain.1.withBoard
      (t.clearIdle.drain.1.board.closeAll t.clearIdle.drain.2) := by
  cases hc : t.carrier with
  | shared | perRequest => exact absurd (congrArg Carrier.sharing hc) h
  | perKind reserve | perServer reserve =>
    simp only [close, clearIdle, drain, hc, withCarrier, withBoard, kept, Switchboard.closeReserve]

theorem key?_eq_kind {reserve : Reserve P.Kind} (hc : t.carrier = .perKind reserve) (q : P.Request) :
    t.key? q = some (.kind (P.requestKind q)) := by
  rw [key?, hc]
  rfl

theorem key?_eq_server {reserve : Reserve SocketAddress} (hc : t.carrier = .perServer reserve)
    (q : P.Request) : t.key? q = (P.recipient q).map .server := by
  rw [key?, hc]
  rfl

theorem carrier_of_key {a : SocketAddress} (h : t.key? q = some (.server a)) :
    ∃ reserve, t.carrier = .perServer reserve ∧ P.recipient q = some a := by
  cases hc : t.carrier with
  | shared | perRequest =>
    rw [key?, hc] at h
    cases h
  | perKind reserve =>
    rw [t.key?_eq_kind hc] at h
    cases Option.some.inj h
  | perServer reserve =>
    rw [t.key?_eq_server hc] at h
    obtain ⟨server, hq, he⟩ := Option.map_eq_some_iff.1 h
    exact ⟨reserve, rfl, Key.server.inj he ▸ hq⟩

theorem acquire_of_no_key (h : t.key? q = none) : (t.acquire q).2 = none := by
  cases hc : t.carrier with
  | shared | perRequest => simp only [acquire, hc]
  | perKind reserve =>
    rw [t.key?_eq_kind hc] at h
    cases h
  | perServer reserve =>
    rw [t.key?_eq_server hc, Option.map_eq_none_iff] at h
    simp only [acquire, hc, h]

theorem exists_key (hs : t.carrier.sharing ≠ .never)
    (h : (t.needsAddress && (P.recipient q).isNone) = false) : ∃ k, t.key? q = some k := by
  cases hc : t.carrier with
  | shared | perRequest => exact absurd (congrArg Carrier.sharing hc) hs
  | perKind reserve => exact ⟨_, t.key?_eq_kind hc q⟩
  | perServer reserve =>
    simp only [needsAddress, hc, Bool.true_and, Option.isNone_eq_false_iff] at h
    obtain ⟨server, hq⟩ := Option.isSome_iff_exists.1 h
    exact ⟨.server server, by rw [t.key?_eq_server hc, hq, Option.map_some]⟩

/-- What becomes of the channels when one is taken for a request with a key. -/
structure Takes (t t' : Transport P) (k : Key P) (found : Option Nat) : Prop where
  channels : t'.board.channels = t.board.channels
  sharing : t'.carrier.sharing = t.carrier.sharing
  kept : t'.kept = t.kept
  idle : t'.idle.Sublist t.idle
  found : ∀ c, found = some c → t.board.isOpen c = true ∧ (k, c) ∈ t.idle ∧
    (t.idleChannels.Nodup → c ∉ t'.idleChannels)

theorem idleChannels_map {κ : Type} (f : κ → Key P) (xs : List (κ × Nat)) :
    (xs.map (Prod.map f id)).map Prod.snd = xs.map Prod.snd := by
  rw [List.map_map]
  rfl

theorem takes_of_takeFrom {κ : Type} [DecidableEq κ] {f : κ → Key P} {reserve : Reserve κ} {key : κ}
    (hidle : t.idle = reserve.idle.map (Prod.map f id))
    (hidle' : t'.idle = (t.board.takeFrom reserve key).2.2.idle.map (Prod.map f id))
    (hboard : t'.board = (t.board.takeFrom reserve key).1)
    (hs : t'.carrier.sharing = t.carrier.sharing) (hk : t'.kept = t.kept) :
    t.Takes t' (f key) (t.board.takeFrom reserve key).2.1 where
  channels := by rw [hboard, Switchboard.channels_takeFrom]
  sharing := hs
  kept := hk
  idle := by
    rw [hidle, hidle', Switchboard.takeFrom_snd]
    exact (Reserve.takeFrom_sublist reserve.idle).map _
  found c hc := by
    rw [Switchboard.takeFrom_snd] at hc
    refine ⟨Reserve.isOpen_of_takeFrom hc, ?_, fun hn ↦ ?_⟩
    · rw [hidle]
      exact List.mem_map_of_mem ((reserve.mem_take _ key).1 c hc)
    · rw [idleChannels, hidle, idleChannels_map] at hn
      rw [idleChannels, hidle', idleChannels_map, Switchboard.takeFrom_snd]
      exact Reserve.not_mem_of_takeFrom hn hc

theorem takes_acquire (hk : t.key? q = some k) : t.Takes (t.acquire q).1 k (t.acquire q).2 := by
  cases hc : t.carrier with
  | shared | perRequest =>
    rw [key?, hc] at hk
    cases hk
  | perKind reserve =>
    obtain rfl := Option.some.inj ((t.key?_eq_kind hc q).symm.trans hk)
    simp only [acquire, hc]
    apply t.takes_of_takeFrom <;> simp [idle, Carrier.idle, kept, withCarrier, withBoard, hc,
      Carrier.sharing, Switchboard.takeFrom_snd, Reserve.take]
  | perServer reserve =>
    rw [t.key?_eq_server hc q] at hk
    obtain ⟨server, hq, rfl⟩ := Option.map_eq_some_iff.1 hk
    simp only [acquire, hc, hq]
    apply t.takes_of_takeFrom <;> simp [idle, Carrier.idle, kept, withCarrier, withBoard, hc,
      Carrier.sharing, Switchboard.takeFrom_snd, Reserve.take]

/-- A channel is looked at before it goes back. -/
def release (q : P.Request) (c : Nat) : Transport P := t.withBoard (t.giveBack q c).board

def shelve (q : P.Request) (c : Nat) : Transport P := match t.carrier, P.recipient q with
  | .perKind reserve, _ =>
    t.withCarrier (.perKind { reserve with idle := (P.requestKind q, c) :: reserve.idle })
  | .perServer reserve, some server =>
    t.withCarrier (.perServer { reserve with idle := (server, c) :: reserve.idle })
  | _, _ => t

theorem giveBack_eq (q : P.Request) (c : Nat) : t.giveBack q c =
    if t.board.isOpen c then (t.release q c).shelve q c else t.release q c := by
  have hopen : (t.board.remark .trace ("releasing channel " ++ t.board.channelText c)).isOpen =
      t.board.isOpen := rfl
  have hsame (hg : t.giveBack q c = t) (hs : t.shelve q c = t) : t.giveBack q c =
      if t.board.isOpen c then (t.release q c).shelve q c else t.release q c := by
    have hr : t.release q c = t := by
      rw [release, hg]
      rfl
    rw [hr, hs, hg, ite_self]
  cases hc : t.carrier with
  | shared | perRequest =>
    exact hsame (by simp only [giveBack, hc]) (by simp only [shelve, hc])
  | perKind reserve =>
    simp only [release, shelve, giveBack, hc, withBoard, withCarrier, Switchboard.putBack_snd,
      Reserve.putBack]
    split
    · rfl
    · simp [← hc]
  | perServer reserve =>
    cases hq : P.recipient q with
    | none => exact hsame (by simp only [giveBack, hc, hq]) (by simp only [shelve, hc, hq])
    | some server =>
      simp only [release, shelve, giveBack, hc, hq, withBoard, withCarrier, Switchboard.putBack_snd,
        Reserve.putBack, hopen]
      split
      · rfl
      · simp [← hc]

theorem channels_release (q : P.Request) (c : Nat) :
    (t.release q c).board.channels = t.board.channels := by
  cases hc : t.carrier with
  | shared | perRequest => simp [release, giveBack, hc, withBoard]
  | perKind reserve =>
    simp only [release, giveBack, hc, withBoard, withCarrier, Switchboard.channels_putBack]
  | perServer reserve =>
    cases hq : P.recipient q with
    | none => simp [release, giveBack, hc, hq, withBoard]
    | some server =>
      simp only [release, giveBack, hc, hq, withBoard, withCarrier]
      exact Switchboard.channels_putBack _ c _ _

theorem shelve_eq (hk : t.key? q = some k) (c : Nat) :
    (t.shelve q c).board = t.board ∧ (t.shelve q c).carrier.sharing = t.carrier.sharing ∧
      (t.shelve q c).kept = t.kept ∧ (t.shelve q c).idle = (k, c) :: t.idle := by
  cases hc : t.carrier with
  | shared | perRequest =>
    rw [key?, hc] at hk
    cases hk
  | perKind reserve =>
    obtain rfl := Option.some.inj ((t.key?_eq_kind hc q).symm.trans hk)
    simp only [shelve, kept, idle, hc]
    exact ⟨rfl, rfl, rfl, rfl⟩
  | perServer reserve =>
    rw [t.key?_eq_server hc q] at hk
    obtain ⟨server, hq, rfl⟩ := Option.map_eq_some_iff.1 hk
    simp only [shelve, kept, idle, hc, hq]
    exact ⟨rfl, rfl, rfl, rfl⟩

theorem keep_eq (hs : t.carrier.sharing ≠ .never) (q : P.Request) (c : Nat) :
    (t.keep q c).board.channels = t.board.channels ∧
      (t.keep q c).carrier.sharing = t.carrier.sharing ∧ (t.keep q c).idle = t.idle ∧
      (t.keep q c).kept = t.kept.filter t.board.isOpen ++ [c] := by
  cases hc : t.carrier with
  | shared | perRequest => exact absurd (congrArg Carrier.sharing hc) hs
  | perKind reserve | perServer reserve =>
    simp only [keep, kept, idle, hc]
    exact ⟨rfl, rfl, rfl, rfl⟩

theorem clearIdle_eq (hs : t.carrier.sharing ≠ .never) :
    t.clearIdle.board = t.board ∧ t.clearIdle.carrier.sharing = t.carrier.sharing ∧
      t.clearIdle.idle = [] ∧ t.clearIdle.kept = t.kept := by
  cases hc : t.carrier with
  | shared | perRequest => exact absurd (congrArg Carrier.sharing hc) hs
  | perKind reserve | perServer reserve =>
    simp only [clearIdle, kept, idle, hc]
    exact ⟨rfl, rfl, rfl, rfl⟩

theorem drain_eq (hs : t.carrier.sharing ≠ .never) :
    t.drain.1.board.channels = t.board.channels ∧
      t.drain.1.carrier.sharing = t.carrier.sharing ∧ t.drain.1.idle = t.idle ∧
      t.drain.1.kept = [] ∧ t.drain.2 = t.kept := by
  cases hc : t.carrier with
  | shared | perRequest => exact absurd (congrArg Carrier.sharing hc) hs
  | perKind reserve | perServer reserve =>
    simp only [drain, kept, idle, hc]
    refine ⟨?_, rfl, rfl, rfl, trivial⟩
    simp only [withBoard, withCarrier]
    split <;> rfl

end Transport

end GameServers
