import GameServers.Proofs.Desk
import GameServers.Transport

namespace GameServers

variable {P : Protocol}

/-- The server at the other end of a channel and what was written to it. -/
structure Link (P : Protocol) where
  peer : Option SocketAddress
  written : List (Origin P)

def Channel.link (x : Channel P) : Link P := ⟨x.peer, x.written⟩

namespace Switchboard

def links (b : Switchboard P) : List (Link P) := b.channels.map Channel.link

variable (b : Switchboard P) (c r : Nat)

@[simp] theorem links_remark (level : Level) (text : String) : (b.remark level text).links = b.links :=
  rfl

theorem links_modify {f : Channel P → Channel P} {g : Link P → Link P}
    (hf : ∀ x, (f x).link = g x.link) : (b.modify c f).links = b.links.modify c g := by
  refine List.ext_getElem? fun k ↦ ?_
  simp only [links, modify, List.getElem?_map, List.getElem?_modify, Option.map_eq_map,
    Option.map_map]
  refine congrArg (Option.map · b.channels[k]?) (funext fun x ↦ ?_)
  by_cases h : c = k <;> simp [h, hf]

theorem links_modify_of_eq {f : Channel P → Channel P} (hf : ∀ x, (f x).link = x.link) :
    (b.modify c f).links = b.links := by
  rw [b.links_modify c (g := id) hf]
  exact List.modify_id c b.links

@[simp] theorem links_shut : (b.shut c).links = b.links := b.links_modify_of_eq c fun _ ↦ rfl

theorem isOpen_shut : (b.shut c).isOpen c = false := by
  simp only [isOpen, shut, modify, List.getElem?_modify, if_true]
  cases b.channels[c]? <;> rfl

@[simp] theorem links_abortReader : (b.abortReader c).links = b.links := by
  have hs := b.links_modify_of_eq c (f := (·.setReader none)) fun _ ↦ rfl
  simp only [abortReader]
  split
  · rfl
  · split
    · exact hs
    · exact hs

@[simp] theorem links_attachOwn : (b.attachOwn c).links = b.links := by
  unfold attachOwn
  split
  · refine (links_modify_of_eq { b.abortReader c with net := _, readers := _ } c
      (f := (·.setReader (some _))) fun _ ↦ rfl).trans ?_
    exact b.links_abortReader c
  · rfl

theorem links_dial {b b' : Switchboard P} {a : SocketAddress} (h : b.dial a = .ok b') :
    b'.links = b.links := by
  unfold dial at h
  split at h
  · cases h
  · obtain rfl := Except.ok.inj h
    rfl

@[simp] theorem links_closeAll (cs : List Nat) : (b.closeAll cs).links = b.links :=
  foldl_keeps links (fun b c ↦ ((b.shut c).links_abortReader c).trans (b.links_shut c)) cs b

@[simp] theorem links_makeWritable : b.makeWritable.links = b.links := by
  simp only [links, makeWritable, List.map_map]
  rfl

theorem links_readStream (x : Reader) (connection : Nat) (peer : SocketAddress) :
    (b.readStream r x connection peer).links = b.links := by
  have hblame (b : Switchboard P) (e : Failure) : (b.blame x.channel e).links = b.links := by
    unfold blame
    split <;> rfl
  have hframe (b : Switchboard P) (frame : Bytes) :
      (readFrame x.channel peer b frame).links = b.links := by
    simp only [readFrame]
    split
    · rfl
    · exact hblame _ _
  have hframes (b : Switchboard P) (frames : List Bytes) :
      (frames.foldl (readFrame x.channel peer) b).links = b.links := foldl_keeps links hframe frames b
  have hend (b : Switchboard P) : (b.endReader r x.channel).links = b.links :=
    (b.stopReader r).links_shut x.channel
  simp only [readStream]
  split
  · exact hframes _ _
  · rw [hend]
    split
    · exact (hblame _ _).trans (hframes _ _)
    · exact hframes _ _

@[simp] theorem links_runReader : (b.runReader r).links = b.links := by
  unfold runReader
  split
  · rfl
  · split
    · rfl
    · split
      · rfl
      · refine foldl_keeps links (fun b x ↦ ?_) _ _
        simp only [readDatagram]
        split <;> rfl
      · split
        · exact b.links_readStream r _ _ _
        · exact (b.stopReader r).links_shut _

variable {κ : Type} (reserve : Reserve κ) (key : κ)

@[simp] theorem links_putBack : (b.putBack reserve key c).1.links = b.links := by
  simp only [putBack]
  split <;> rfl

@[simp] theorem links_closeReserve : (b.closeReserve reserve).links = b.links := by
  simp only [closeReserve, links_closeAll]
  split <;> rfl

@[simp] theorem links_takeFrom [DecidableEq κ] : (b.takeFrom reserve key).1.links = b.links := by
  have hd (cs : List Nat) : (cs.foldl (fun b c ↦
      b.remark .debug ("dropping dead channel " ++ b.channelText c)) b).links = b.links :=
    foldl_keeps links (fun b c ↦ b.links_remark .debug _) cs b
  simp only [takeFrom]
  split
  · exact hd _
  · exact hd _

theorem links_addStream (connection : Nat) (peer : SocketAddress) :
    (b.addStream connection peer).links = b.links ++ [⟨some peer, []⟩] := List.map_append

theorem links_write (origin : Origin P) (bytes : Bytes) :
    (b.write c origin bytes).1.links = b.links ∨
      (b.write c origin bytes).1.links = b.links.modify c fun l ↦ ⟨l.peer, origin :: l.written⟩ := by
  have hnote (x : Switchboard P × Except Failure Unit) :
      (noteWrite c bytes x).1.links = x.1.links := by
    unfold noteWrite
    split <;> rfl
  unfold write
  split
  · exact .inl rfl
  · split
    · exact .inl rfl
    · split
      · left
        rw [hnote]
        unfold writeDatagram
        split
        · rfl
        · split <;> rfl
      · right
        rw [hnote]
        have hm : (b.modify c (·.note origin)).links =
            b.links.modify c fun l ↦ ⟨l.peer, origin :: l.written⟩ := b.links_modify c fun _ ↦ rfl
        simp only [writeStream]
        split
        · exact (links_shut _ c).trans hm
        · exact hm

theorem peer?_eq : b.peer? c = b.links[c]?.bind Link.peer := by
  simp only [peer?, links, List.getElem?_map, Option.bind_map]
  rfl

theorem peer?_congr {b b' : Switchboard P} (h : b'.links = b.links) : b'.peer? = b.peer? := by
  funext c
  rw [peer?_eq, peer?_eq, h]

theorem peer?_addStream {connection : Nat} {peer server : SocketAddress}
    (h : b.peer? c = some server) :
    (b.addStream connection peer).peer? c = some server := by
  rw [peer?_eq] at h ⊢
  obtain ⟨l, hl, hp⟩ := Option.bind_eq_some_iff.1 h
  rw [links_addStream, List.getElem?_append_left (List.getElem?_eq_some_iff.1 hl).1, hl]
  exact hp

theorem peer?_new (connection : Nat) (server : SocketAddress) :
    (b.addStream connection server).peer? b.channels.length = some server := by
  have hlen : b.links.length = b.channels.length := List.length_map _
  rw [peer?_eq, links_addStream, ← hlen, List.getElem?_concat_length]
  rfl

theorem peer?_write (origin : Origin P) (bytes : Bytes) :
    (b.write c origin bytes).1.peer? = b.peer? := by
  rcases b.links_write c origin bytes with h | h
  · exact peer?_congr h
  · funext k
    rw [peer?_eq, peer?_eq, h, List.getElem?_modify]
    cases b.links[k]? with
    | none => rfl
    | some l =>
      by_cases hk : c = k <;> simp [hk]

end Switchboard

namespace Reserve

variable {κ : Type} [DecidableEq κ] {isOpen : Nat → Bool} {key : κ}

theorem mem_takeFrom (xs : List (κ × Nat)) :
    (∀ c, (takeFrom isOpen key xs).1 = some c → (key, c) ∈ xs) ∧
      ∀ x ∈ (takeFrom isOpen key xs).2, x ∈ xs := by
  induction xs with
  | nil => simp [takeFrom]
  | cons x xs ih =>
    obtain ⟨k, n⟩ := x
    by_cases hk : k = key
    · subst hk
      by_cases ho : isOpen n = true
      · simp only [takeFrom, if_true, if_pos ho]
        exact ⟨fun c hc ↦ Option.some.inj hc ▸ .head _, fun x hx ↦ .tail _ hx⟩
      · simp only [takeFrom, if_true, if_neg ho]
        exact ⟨fun c hc ↦ .tail _ (ih.1 c hc), fun x hx ↦ .tail _ (ih.2 x hx)⟩
    · simp only [takeFrom, if_neg hk]
      refine ⟨fun c hc ↦ .tail _ (ih.1 c hc), fun x hx ↦ ?_⟩
      rcases List.mem_cons.1 hx with rfl | hx
      · exact .head _
      · exact .tail _ (ih.2 x hx)

theorem mem_take (reserve : Reserve κ) (isOpen : Nat → Bool) (key : κ) :
    (∀ c, (reserve.take isOpen key).1 = some c → (key, c) ∈ reserve.idle) ∧
      ∀ x ∈ (reserve.take isOpen key).2.idle, x ∈ reserve.idle := mem_takeFrom reserve.idle

omit [DecidableEq κ] in
theorem mem_putBack {reserve : Reserve κ} {c : Nat} {x : κ × Nat}
    (hx : x ∈ (reserve.putBack isOpen key c).idle) : x = (key, c) ∨ x ∈ reserve.idle := by
  unfold putBack at hx
  split at hx
  · exact List.mem_cons.1 hx
  · exact .inr hx

end Reserve

theorem Switchboard.mem_takeFrom {κ : Type} [DecidableEq κ] (b : Switchboard P)
    (reserve : Reserve κ) (key : κ) :
    (∀ c, (b.takeFrom reserve key).2.1 = some c → (key, c) ∈ reserve.idle) ∧
      ∀ x ∈ (b.takeFrom reserve key).2.2.idle, x ∈ reserve.idle := by
  simp only [takeFrom]
  split
  · next c left h => exact h ▸ reserve.mem_take _ key
  · next left h => exact h ▸ reserve.mem_take _ key

/-- All that was written to a channel are requests of some sort to the server at its other end. -/
def Link.Fits (S : P.Request → Prop) (l : Link P) : Prop :=
  ∀ o ∈ l.written, S o.request ∧
    ∃ server, P.recipient o.request = some server ∧ l.peer = some server

theorem Switchboard.fits_write {S : P.Request → Prop} {b : Switchboard P} {c : Nat} {origin : Origin P}
    {bytes : Bytes} {server : SocketAddress} (h : ∀ l ∈ b.links, l.Fits S) (hS : S origin.request)
    (hq : P.recipient origin.request = some server) (hc : b.peer? c = some server) :
    ∀ l ∈ (b.write c origin bytes).1.links, l.Fits S := by
  intro l hl o ho
  rcases b.links_write c origin bytes with hw | hw
  · exact h l (hw ▸ hl) o ho
  · obtain ⟨k, hk⟩ := List.mem_iff_getElem?.1 (hw ▸ hl)
    rw [List.getElem?_modify] at hk
    obtain ⟨l', hl', rfl⟩ := Option.map_eq_some_iff.1 hk
    -- What is new is at the channel that was written to.
    have hfits := h l' (List.mem_of_getElem? hl')
    split at ho
    · next hck =>
      subst hck
      have hpeer : l'.peer = some server := by
        rw [Switchboard.peer?_eq, hl'] at hc
        exact hc
      rcases List.mem_cons.1 ho with rfl | ho
      · exact ⟨hS, server, hq, by simpa using hpeer⟩
      · simpa using hfits o ho
    · next hck => simpa [hck] using hfits o ho

/-- An errand carries a request of some sort to its server. -/
def Errand.Fits (S : P.Request → Prop) (peer? : Nat → Option SocketAddress) (e : Errand P) : Prop :=
  S e.origin.request ∧ match e.state with
    | .dialing _ server => P.recipient e.origin.request = some server
    | .holding c => ∃ server, P.recipient e.origin.request = some server ∧ peer? c = some server
    | .finished _ => True

theorem Errand.Fits.mono {S : P.Request → Prop} {peer? peer?' : Nat → Option SocketAddress}
    {e : Errand P} (h : e.Fits S peer?) (hp : ∀ c a, peer? c = some a → peer?' c = some a) :
    e.Fits S peer?' := by
  obtain ⟨origin, bytes, state⟩ := e
  cases state with
  | dialing | finished => exact h
  | holding c =>
    obtain ⟨hS, server, hq, hc⟩ := h
    exact ⟨hS, server, hq, hp c server hc⟩

namespace Transport

/-- Connections are kept by the servers at their other ends, and each has got requests to its server
only, all of some sort. -/
structure Addressed (S : P.Request → Prop) (t : Transport P) : Prop where
  links : ∀ l ∈ t.board.links, l.Fits S
  errands : ∀ x ∈ t.errands, x.2.Fits S t.board.peer?
  kept : ∃ reserve, t.carrier = .perServer reserve ∧
    ∀ x ∈ reserve.idle, t.board.peer? x.2 = some x.1

theorem links_keep (t : Transport P) (q : P.Request) (c : Nat) :
    (t.keep q c).board.links = t.board.links := by
  unfold keep
  split <;> rfl

namespace Addressed

variable {S S' : P.Request → Prop} {t : Transport P} {e : Errand P} {server : SocketAddress}
  {c n : Nat}

theorem mono (h : t.Addressed S) (hS : ∀ q, S q → S' q) : t.Addressed S' where
  links l hl o ho := ⟨hS _ (h.links l hl o ho).1, (h.links l hl o ho).2⟩
  errands x hx := ⟨hS _ (h.errands x hx).1, (h.errands x hx).2⟩
  kept := h.kept

theorem withBoard (h : t.Addressed S) {board : Switchboard P} (hl : board.links = t.board.links) :
    (t.withBoard board).Addressed S where
  links := hl ▸ h.links
  errands := Switchboard.peer?_congr hl ▸ h.errands
  kept := Switchboard.peer?_congr hl ▸ h.kept

theorem withCarrier (h : t.Addressed S) (reserve : Reserve SocketAddress)
    (hr : ∀ x ∈ reserve.idle, t.board.peer? x.2 = some x.1) :
    (t.withCarrier (.perServer reserve)).Addressed S where
  links := h.links
  errands := h.errands
  kept := ⟨reserve, rfl, hr⟩

theorem see (h : t.Addressed S) (event : ChannelEvent) : (t.see event).Addressed S where
  links := h.links
  errands := h.errands
  kept := h.kept

theorem setErrand (h : t.Addressed S) (he : e.Fits S t.board.peer?) :
    (t.setErrand n e).Addressed S where
  links := h.links
  errands x hx := by
    rcases List.mem_cons.1 hx with rfl | hx
    · exact he
    · exact h.errands x (List.mem_filter.1 hx).1
  kept := h.kept

theorem finish (h : t.Addressed S) (hS : S e.origin.request) (result : Except Failure Unit) :
    (t.finish n e result).Addressed S := h.setErrand ⟨hS, trivial⟩

theorem welcome (h : t.Addressed S) : t.welcome.Addressed S :=
  (h.withBoard (t.board.links_attachOwn _)).see _

theorem keep (h : t.Addressed S) (q : P.Request) (c : Nat) : (t.keep q c).Addressed S := by
  obtain ⟨reserve, hc, hr⟩ := h.kept
  simp only [Transport.keep, hc]
  exact h.withCarrier (reserve.remember t.board.isOpen c) hr

theorem giveBack (h : t.Addressed S) {q : P.Request} (hq : P.recipient q = some server)
    (hc : t.board.peer? c = some server) : (t.giveBack q c).Addressed S := by
  obtain ⟨reserve, hk, hr⟩ := h.kept
  simp only [Transport.giveBack, hk, hq]
  have hl := (t.board.remark .trace ("releasing channel " ++ t.board.channelText c)).links_putBack c
    reserve server
  refine (h.withBoard hl).withCarrier _ fun x hx ↦ ?_
  refine (congrFun (Switchboard.peer?_congr hl) x.2).trans ?_
  rcases Reserve.mem_putBack hx with rfl | hx
  · exact hc
  · exact hr x hx

section

variable (h : t.Addressed S) (hS : S e.origin.request)
  (hq : P.recipient e.origin.request = some server)

include h hS hq

theorem dialFor : (t.dialFor n e server).Addressed S := by
  unfold Transport.dialFor
  split
  · exact h.finish hS _
  · next board hb => exact (h.withBoard (Switchboard.links_dial hb)).setErrand ⟨hS, hq⟩

variable (hc : t.board.peer? c = some server)

include hc

theorem write : (t.withBoard (t.board.write c e.origin e.bytes).1).Addressed S where
  links := Switchboard.fits_write h.links hS hq hc
  errands := t.board.peer?_write c e.origin e.bytes ▸ h.errands
  kept := t.board.peer?_write c e.origin e.bytes ▸ h.kept

theorem writeOut : (t.writeOut n e c).Addressed S := by
  have hw := (h.write hS hq hc).see (.released c)
  have hc' := (congrFun (t.board.peer?_write c e.origin e.bytes) c).trans hc
  exact (hw.giveBack hq hc').finish hS _

theorem hold : (t.hold n e c).Addressed S := by
  simp only [Transport.hold]
  split
  · exact (h.see _).writeOut hS hq hc
  · exact (h.see _).setErrand ⟨hS, server, hq, hc⟩

end

theorem dispatch (h : t.Addressed S) (hS : S e.origin.request) : (t.dispatch n e).Addressed S := by
  obtain ⟨reserve, hk, hr⟩ := h.kept
  cases hq : P.recipient e.origin.request with
  | none =>
    simp only [Transport.dispatch, hk, hq]
    exact h
  | some server =>
    simp only [Transport.dispatch, hk, hq]
    have hl := t.board.links_takeFrom reserve server
    obtain ⟨hfound, hleft⟩ := t.board.mem_takeFrom reserve server
    have hpeer := Switchboard.peer?_congr hl
    have ht := (h.withBoard hl).withCarrier (t.board.takeFrom reserve server).2.2
      fun x hx ↦ (congrFun hpeer x.2).trans (hr x (hleft x hx))
    split
    · next c hc =>
      exact ht.hold hS hq ((congrFun hpeer c).trans (hr _ (hfound c hc)))
    · exact (ht.withBoard (Switchboard.links_remark _ .debug _)).dialFor hS hq

theorem begin (h : t.Addressed S) {origin : Origin P} (hS : S origin.request) :
    (t.begin n origin).Addressed S := by
  simp only [Transport.begin]
  split
  · exact h.finish hS _
  · split
    · exact h.finish hS _
    · exact h.dispatch hS

theorem mem_errands (he : t.errand? n = some e) : (n, e) ∈ t.errands := by
  obtain ⟨before, after, hl, -⟩ := List.lookup_eq_some_iff.1 he
  rw [hl]
  exact List.mem_append_right _ (.head _)

theorem addStream (h : t.Addressed S) (connection : Nat) (server : SocketAddress) :
    (t.withBoard (t.board.addStream connection server)).Addressed S where
  links l hl := by
    have hl : l ∈ t.board.links ++ [⟨some server, []⟩] := t.board.links_addStream _ _ ▸ hl
    rcases List.mem_append.1 hl with hl | hl
    · exact h.links l hl
    · rw [List.mem_singleton.1 hl]
      exact fun o ho ↦ by cases ho
  errands x hx := (h.errands x hx).mono fun c a hc ↦ t.board.peer?_addStream c hc
  kept := by
    obtain ⟨reserve, hk, hr⟩ := h.kept
    exact ⟨reserve, hk, fun x hx ↦ t.board.peer?_addStream x.2 (hr x hx)⟩

theorem resume (h : t.Addressed S) (n : Nat) : (t.resume n).Addressed S := by
  unfold Transport.resume
  split
  · next e he =>
    obtain ⟨hS, hstate⟩ := h.errands _ (mem_errands he)
    split
    · next connection server hd =>
      rw [hd] at hstate
      let c := t.board.channels.length
      let t' := t.withBoard (t.board.addStream connection server)
      have hl : (t'.welcome.keep e.origin.request c).board.links = t'.board.links :=
        (t'.welcome.links_keep _ c).trans (t'.board.links_attachOwn _)
      have ht := (h.addStream connection server).welcome.keep e.origin.request c
      exact ht.hold hS hstate
        ((congrFun (Switchboard.peer?_congr hl) c).trans (t.board.peer?_new connection server))
    · next c hd =>
      rw [hd] at hstate
      obtain ⟨server, hq, hc⟩ := hstate
      exact h.writeOut hS hq hc
    · exact h
  · exact h

theorem turn (h : t.Addressed S) : t.turn.1.Addressed S :=
  h.withBoard (Switchboard.links_makeWritable _)

theorem close (h : t.Addressed S) : t.close.Addressed S := by
  obtain ⟨reserve, hk, -⟩ := h.kept
  simp only [Transport.close, hk]
  exact (h.withBoard (t.board.links_closeReserve reserve)).withCarrier {} (by simp)

end Addressed

end Transport

end GameServers
