import GameServers.Plain
import GameServers.Proofs.Transport.Traffic

namespace GameServers

variable {P : Protocol}

namespace Transport

variable (t : Transport P) {t' : Transport P} {n m c : Nat} {e : Errand P} {k : Key P}

def plain : Transport P := { t with errands := [] }

theorem errand?_setErrand : (t.setErrand n e).errand? m = if m = n then some e else t.errand? m := by
  have hother (xs : List (Nat × Errand P)) (hmn : m ≠ n) :
      (xs.filter (·.1 ≠ n)).lookup m = xs.lookup m := by
    induction xs with
    | nil => rfl
    | cons x xs ih =>
      obtain ⟨i, x⟩ := x
      by_cases hi : i = n
      · have hm : (m == i) = false := by simp [hi, hmn]
        rw [List.filter_cons_of_neg (by simp [hi]), ih, List.lookup_cons, hm]
      · rw [List.filter_cons_of_pos (by simp [hi]), List.lookup_cons, List.lookup_cons, ih]
  rw [errand?, setErrand, List.lookup_cons]
  by_cases hmn : m = n
  · simp [hmn]
  · have hm : (m == n) = false := by simp [hmn]
    rw [hm, if_neg hmn]
    exact hother _ hmn

theorem plain_keep (q : P.Request) (c : Nat) : (t.keep q c).plain = t.plain.keep q c := by
  cases hc : t.carrier <;> simp [keep, plain, hc, withCarrier, remark, withBoard]

theorem plain_release (q : P.Request) (c : Nat) : (t.release q c).plain = t.plain.release q c := by
  cases hc : t.carrier <;> cases hq : P.recipient q <;>
    simp [release, giveBack, plain, hc, hq, withCarrier, withBoard]

theorem plain_shelve (q : P.Request) (c : Nat) : (t.shelve q c).plain = t.plain.shelve q c := by
  cases hc : t.carrier <;> cases hq : P.recipient q <;> simp [shelve, plain, hc, hq, withCarrier]

theorem plain_acquire (q : P.Request) :
    t.plain.acquire q = ((t.acquire q).1.plain, (t.acquire q).2) := by
  cases hc : t.carrier <;> cases hq : P.recipient q <;>
    simp [acquire, plain, hc, hq, withCarrier, withBoard]

theorem errands_keep (q : P.Request) (c : Nat) : (t.keep q c).errands = t.errands := by
  cases hc : t.carrier <;> simp [keep, hc, withCarrier, remark, withBoard]

theorem errands_shelve (q : P.Request) (c : Nat) : (t.shelve q c).errands = t.errands := by
  cases hc : t.carrier <;> cases hq : P.recipient q <;> simp [shelve, hc, hq, withCarrier]

theorem errands_acquire (q : P.Request) : (t.acquire q).1.errands = t.errands := by
  cases hc : t.carrier <;> cases hq : P.recipient q <;>
    simp [acquire, hc, hq, withCarrier, withBoard]

def establish (n : Nat) (e : Errand P) : Transport P :=
  match t.carrier, P.recipient e.origin.request with
  | .perServer _, some server =>
    (t.remark .debug ("opening connection to " ++ server.text)).dialFor n e server
  | _, _ => t.bindFor n e

theorem dispatch_eq (hk : t.key? e.origin.request = some k) : t.dispatch n e =
    match t.acquire e.origin.request with
    | (t, some c) => t.hold n e c
    | (t, none) => t.establish n e := by
  cases hc : t.carrier with
  | shared | perRequest =>
    rw [key?, hc] at hk
    cases hk
  | perKind reserve =>
    simp only [dispatch, acquire, hc]
    cases (t.board.takeFrom reserve (P.requestKind e.origin.request)).2.1 with
    | none => simp only [establish, withCarrier]
    | some c => rfl
  | perServer reserve =>
    rw [t.key?_eq_server hc] at hk
    obtain ⟨server, hq, rfl⟩ := Option.map_eq_some_iff.1 hk
    simp only [dispatch, acquire, hc, hq]
    cases (t.board.takeFrom reserve server).2.1 with
    | none => simp only [establish, withCarrier, hq]
    | some c => rfl

end Transport

def ErrandState.leg : ErrandState → Leg
  | dialing connection server => .dialing connection server
  | holding c => .holding c
  | finished result => .ended result

def Errand.sight (e : Errand P) : Origin P × Bytes × Leg := (e.origin, e.bytes, e.state.leg)

def Passage.sight (x : Passage P) : Origin P × Bytes × Leg := (x.origin, x.bytes, x.leg)

namespace Traffic

variable {s s' s'' : Traffic P} {t u : Transport P} {n c : Nat} {x : Passage P} {e : Errand P}
  {k : Key P}

/-- The requests and the errands are the same, but for one. -/
structure ShowsBut (n : Nat) (s : Traffic P) (t : Transport P) : Prop where
  transport : s.transport = t.plain
  others : ∀ m, m ≠ n → (s.passages m).map Passage.sight = (t.errand? m).map Errand.sight

/-- The requests are the errands of the transport. -/
structure Shows (s : Traffic P) (t : Transport P) : Prop where
  transport : s.transport = t.plain
  passages : ∀ n, (s.passages n).map Passage.sight = (t.errand? n).map Errand.sight

theorem Shows.but (h : Shows s t) (n : Nat) : ShowsBut n s t := ⟨h.transport, fun m _ ↦ h.passages m⟩

theorem ShowsBut.put (h : ShowsBut n s t) (he : u.errands = t.errands) :
    ShowsBut n (s.put n x u.plain) u where
  transport := rfl
  others m hm := by
    rw [passages_put, if_neg hm, h.others m hm, Transport.errand?, Transport.errand?, he]

theorem ShowsBut.shows (h : ShowsBut n s t) (hx : s.passages n = some x) (he : x.sight = e.sight) :
    Shows s (t.setErrand n e) where
  transport := h.transport
  passages m := by
    rw [Transport.errand?_setErrand]
    split
    · next hm => rw [hm, hx, Option.map_some, Option.map_some, he]
    · next hm => exact h.others m hm

/-- A few steps, none of them towards closing. -/
def Follows (s s' : Traffic P) : Prop := (∃ as, s.run as = s') ∧ s'.closing = s.closing

theorem Follows.refl (s : Traffic P) : Follows s s := ⟨⟨[], rfl⟩, rfl⟩

theorem Follows.trans (h : Follows s s') (h' : Follows s' s'') : Follows s s'' := by
  obtain ⟨⟨as, rfl⟩, hc⟩ := h
  obtain ⟨⟨bs, rfl⟩, hc'⟩ := h'
  exact ⟨⟨as ++ bs, s.run_append as bs⟩, hc'.trans hc⟩

theorem closing_advance : (s.advance n x).closing = s.closing := by
  unfold advance
  split <;> try rfl
  simp only [reach, dialFor, bindFor]
  split <;> split <;> rfl

theorem follows_advance (hx : s.passages n = some x) : Follows s (s.advance n x) := by
  refine ⟨⟨[.advance n], ?_⟩, closing_advance⟩
  simp only [run, List.foldl_cons, List.foldl_nil, act, hx]

/-- What is to be shown of an operation of the transport. -/
def Reaches (s : Traffic P) (t : Transport P) : Prop := ∃ s', Follows s s' ∧ Shows s' t

theorem Follows.reaches (h : Follows s s') (h' : Reaches s' t) : Reaches s t := by
  obtain ⟨s'', hf, hs⟩ := h'
  exact ⟨s'', h.trans hf, hs⟩

theorem reaches_put {leg : Leg} {state : ErrandState} (h : ShowsBut n s t) (ho : x.origin = e.origin)
    (hb : x.bytes = e.bytes) (he : u.errands = t.errands) (hl : leg = state.leg) :
    Reaches (s.put n { x with leg } u.plain) (u.setErrand n { e with state }) := by
  refine ⟨_, .refl _, (h.put he).shows (x := { x with leg }) ?_ ?_⟩
  · rw [passages_put_self]
  · simp only [Passage.sight, Errand.sight, ho, hb, hl]

section

variable (h : ShowsBut n s t) (hx : s.passages n = some x) (ho : x.origin = e.origin)
  (hb : x.bytes = e.bytes)

include h hx ho hb

theorem reaches_giveBack {result : Except Failure Unit} (hl : x.leg = .written c result) :
    Reaches s ((t.giveBack e.origin.request c).finish n e result) := by
  let u := t.release e.origin.request c
  have hopen : s.transport.board.isOpen c = t.board.isOpen c :=
    congrArg (·.board.isOpen c) h.transport
  have hrelease : s.advance n x = s.put n
      { x with leg := if t.board.isOpen c then .returning c result else .ended result } u.plain := by
    simp only [advance, hl, hopen]
    rw [h.transport, ho, ← t.plain_release]
  refine (hrelease ▸ follows_advance hx).reaches ?_
  rw [t.giveBack_eq]
  cases t.board.isOpen c with
  | false => exact reaches_put (u := u) h ho hb rfl rfl
  | true =>
    have hput : (s.put n { x with leg := .returning c result } u.plain).passages n =
        some { x with leg := .returning c result } := passages_put_self
    have hshelve : (s.put n { x with leg := .returning c result } u.plain).advance n
        { x with leg := .returning c result } =
          (s.put n { x with leg := .returning c result } u.plain).put n
            { x with leg := .ended result } (u.shelve e.origin.request c).plain := by
      rw [u.plain_shelve, ← ho]
      rfl
    refine (hshelve ▸ follows_advance hput).reaches ?_
    exact reaches_put (x := { x with leg := .returning c result }) (h.put (u := u) rfl) ho hb
      (u.errands_shelve _ c) rfl

theorem reaches_writeOut (hl : x.leg = .holding c) : Reaches s (t.writeOut n e c) := by
  let u := (t.withBoard (t.board.write c e.origin e.bytes).1).see (.released c)
  let result := (t.board.write c e.origin e.bytes).2
  have hwrite : s.advance n x = s.put n { x with leg := .written c result } u.plain := by
    simp only [advance, hl, h.transport, ho, hb]
    rfl
  refine (hwrite ▸ follows_advance hx).reaches ?_
  refine reaches_giveBack (x := { x with leg := .written c result }) (h.put (u := u) rfl) ?_ ho hb rfl
  rw [passages_put_self]

end

theorem reaches_hold (h : ShowsBut n s (t.see (.acquired c))) (hx : s.passages n = some x)
    (ho : x.origin = e.origin) (hb : x.bytes = e.bytes) (hl : x.leg = .holding c) :
    Reaches s (t.hold n e c) := by
  simp only [Transport.hold]
  split
  · exact reaches_writeOut h hx ho hb hl
  · refine ⟨s, .refl s, h.shows hx ?_⟩
    simp only [Passage.sight, Errand.sight, ho, hb, hl]
    rfl

theorem reaches_keep (h : ShowsBut n s t) (hx : s.passages n = some x) (ho : x.origin = e.origin)
    (hb : x.bytes = e.bytes) (hl : x.leg = .made c) :
    Reaches s ((t.keep e.origin.request c).hold n e c) := by
  have hkeep : s.advance n x = s.put n { x with leg := .holding c }
      ((t.keep e.origin.request c).see (.acquired c)).plain := by
    simp only [advance, hl, h.transport, ho, ← Transport.plain_keep]
    rfl
  refine (hkeep ▸ follows_advance hx).reaches ?_
  refine reaches_hold (x := { x with leg := .holding c }) (h.put (t.errands_keep _ c)) ?_ ho hb rfl
  rw [passages_put_self]

theorem reaches_made (h : ShowsBut n s t) (ho : x.origin = e.origin) (hb : x.bytes = e.bytes)
    (board : Switchboard P) :
    Reaches (s.put n { x with leg := .made c, opened := some c } (t.plain.withBoard board).welcome)
      (((t.withBoard board).welcome.keep e.origin.request c).hold n e c) := by
  have hput := h.put (u := (t.withBoard board).welcome)
    (x := { x with leg := .made c, opened := some c }) rfl
  refine reaches_keep (x := { x with leg := .made c, opened := some c }) hput ?_ ho hb rfl
  rw [passages_put_self]

theorem reaches_establish (h : ShowsBut n s t) (hx : s.passages n = some x) (ho : x.origin = e.origin)
    (hb : x.bytes = e.bytes) (hl : x.leg = .opening) : Reaches s (t.establish n e) := by
  have hreach : s.advance n x = s.reach n x := by simp only [advance, hl]
  have hbind : Reaches (s.bindFor n x) (t.bindFor n e) := by
    have hboard : t.plain.board.bind t.plain.bindAddress = t.board.bind t.bindAddress := rfl
    simp only [bindFor, Transport.bindFor, h.transport, hboard]
    cases t.board.bind t.bindAddress with
    | error failure => exact reaches_put h ho hb rfl rfl
    | ok board => exact reaches_made h ho hb board
  have hdial (server : SocketAddress) : Reaches (s.dialFor n x server)
      ((t.remark .debug ("opening connection to " ++ server.text)).dialFor n e server) := by
    let u := t.remark .debug ("opening connection to " ++ server.text)
    have hboard :
        (t.plain.remark .debug ("opening connection to " ++ server.text)).board = u.board := rfl
    simp only [dialFor, Transport.dialFor, h.transport, hboard]
    cases u.board.dial server with
    | error failure => exact reaches_put (u := u) h ho hb rfl rfl
    | ok board => exact reaches_put (u := u.withBoard board) h ho hb rfl rfl
  refine (follows_advance hx).reaches ?_
  have hcarrier : s.transport.carrier = t.carrier := congrArg (·.carrier) h.transport
  simp only [hreach, reach, Transport.establish, hcarrier, ho]
  cases t.carrier with
  | perServer reserve =>
    cases P.recipient e.origin.request with
    | none => exact hbind
    | some server => exact hdial server
  | _ => exact hbind

theorem Shows.begin (h : Shows s t) (hs : t.carrier.sharing ≠ .never) (hn : t.errand? n = none)
    (origin : Origin P) : Reaches s (t.begin n origin) := by
  have hnone : s.passages n = none := by
    have hsight := h.passages n
    rw [hn] at hsight
    exact Option.map_eq_none_iff.1 hsight
  have hstart : Follows s (s.begin n origin) := by
    refine ⟨⟨[.begin n origin], ?_⟩, ?_⟩
    · simp only [run, List.foldl_cons, List.foldl_nil, act, hnone]
    · simp only [Traffic.begin]
      split <;> try rfl
      split <;> try rfl
      split <;> rfl
  refine hstart.reaches ?_
  have haddress : t.plain.needsAddress = t.needsAddress := rfl
  have hover (r : Except Failure Unit) : Reaches (s.put n ⟨origin, [], .ended r, none⟩ t.plain)
      (t.finish n ⟨origin, [], .finished (.ok ())⟩ r) :=
    reaches_put (x := ⟨origin, [], .ended r, none⟩) (e := ⟨origin, [], .finished (.ok ())⟩)
      (h.but n) rfl rfl rfl rfl
  simp only [Traffic.begin, Transport.begin, h.transport, haddress]
  split
  · exact hover _
  · next hok =>
    obtain ⟨k, hk⟩ := t.exists_key hs (Bool.not_eq_true _ ▸ hok)
    cases P.encode origin.request with
    | error failure => exact hover _
    | ok bytes =>
      have hacquired := t.errands_acquire origin.request
      simp only [t.plain_acquire]
      rw [Transport.dispatch_eq t hk]
      generalize t.acquire origin.request = r at hacquired
      obtain ⟨u, _ | c⟩ := r
      · refine reaches_establish (x := ⟨origin, bytes, .opening, none⟩)
          ((h.but n).put hacquired) ?_ rfl rfl rfl
        rw [passages_put_self]
      · refine reaches_hold (x := ⟨origin, bytes, .holding c, none⟩)
          ((h.but n).put (u := u.see (.acquired c)) hacquired) ?_ rfl rfl rfl
        rw [passages_put_self]

theorem Shows.resume (h : Shows s t) (n : Nat) : Reaches s (t.resume n) := by
  have hrest : Reaches s t := ⟨s, .refl s, h⟩
  cases he : t.errand? n with
  | none =>
    simp only [Transport.resume, he]
    exact hrest
  | some e =>
    have hsight := h.passages n
    rw [he] at hsight
    obtain ⟨x, hx, hxe⟩ := Option.map_eq_some_iff.1 hsight
    simp only [Passage.sight, Errand.sight, Prod.mk.injEq] at hxe
    obtain ⟨ho, hb, hl⟩ := hxe
    simp only [Transport.resume, he]
    cases hstate : e.state with
    | finished result => exact hrest
    | holding c =>
      rw [hstate] at hl
      exact reaches_writeOut (h.but n) hx ho hb hl
    | dialing connection server =>
      rw [hstate] at hl
      refine (follows_advance hx).reaches ?_
      simp only [advance, hl, ErrandState.leg, h.transport]
      exact reaches_made (h.but n) ho hb _

/-- What a transport does, and what happens to it, but for its end. -/
inductive Operation (P : Protocol)
  | begin (n : Nat) (origin : Origin P)
  | resume (n : Nat)
  | turn
  | read (r : Nat)
  | setNet (net : Network)

end Traffic

open Traffic (Operation)

namespace Transport

def operate (t : Transport P) : Operation P → Transport P
  | .begin n origin => if (t.errand? n).isNone then t.begin n origin else t
  | .resume n => t.resume n
  | .turn => t.turn.1
  | .read r => t.withBoard (t.board.runReader r)
  | .setNet net => t.withBoard { t.board with net }

def operateAll (t : Transport P) (ops : List (Operation P)) : Transport P := ops.foldl operate t

theorem plain_clearIdle (t : Transport P) : t.clearIdle.plain = t.plain.clearIdle := by
  cases hc : t.carrier <;> simp [clearIdle, plain, hc, withCarrier]

theorem plain_drain (t : Transport P) : t.plain.drain = (t.drain.1.plain, t.drain.2) := by
  cases hc : t.carrier <;> simp [drain, plain, kept, hc, withCarrier, withBoard]

theorem errands_close (t : Transport P) : t.close.errands = t.errands := by
  cases hc : t.carrier <;> simp [close, hc, withCarrier, withBoard]

/-- A transport that shares its channels, and has none yet. -/
structure IsNewPool (t : Transport P) : Prop where
  channels : t.board.channels = []
  errands : t.errands = []
  carrier : t.carrier = .perKind {} ∨ t.carrier = .perServer {}

end Transport

namespace Traffic

variable {s s' : Traffic P} {t : Transport P}

theorem Shows.withBoard (h : Shows s t) (board : Switchboard P) :
    Shows (s.withBoard board) (t.withBoard board) where
  transport := congrArg (·.withBoard board) h.transport
  passages := h.passages

theorem Shows.operate (h : Shows s t) (hs : Sound s) (op : Operation P) :
    Reaches s (t.operate op) := by
  have hboard : s.transport.board = t.board := congrArg (·.board) h.transport
  cases op with
  | begin n origin =>
    simp only [Transport.operate]
    split
    · next hn =>
      have hsharing : t.carrier.sharing = s.transport.carrier.sharing :=
        congrArg (·.carrier.sharing) h.transport.symm
      exact h.begin (hsharing ▸ hs.shared) (Option.isNone_iff_eq_none.1 hn) origin
    · exact ⟨s, .refl s, h⟩
  | resume n => exact h.resume n
  | turn =>
    refine ⟨_, ⟨⟨[.wake, .setNet t.board.net.tell.1], rfl⟩, rfl⟩, ?_⟩
    change Shows (s.withBoard { s.transport.board.makeWritable with net := t.board.net.tell.1 }) _
    rw [hboard]
    exact h.withBoard _
  | read r =>
    refine ⟨_, ⟨⟨[.read r], rfl⟩, rfl⟩, ?_⟩
    change Shows (s.withBoard (s.transport.board.runReader r)) _
    rw [hboard]
    exact h.withBoard _
  | setNet net =>
    refine ⟨_, ⟨⟨[.setNet net], rfl⟩, rfl⟩, ?_⟩
    change Shows (s.withBoard { s.transport.board with net }) _
    rw [hboard]
    exact h.withBoard _

theorem Shows.operateAll (h : Shows s t) (hs : Sound s) (ops : List (Operation P)) :
    Reaches s (t.operateAll ops) := by
  induction ops generalizing s t with
  | nil => exact ⟨s, .refl s, h⟩
  | cons op ops ih =>
    obtain ⟨s', hf, hshows⟩ := h.operate hs op
    obtain ⟨as, rfl⟩ := hf.1
    exact hf.reaches (ih hshows (hs.run as))

theorem run_close {taken left : List Nat} (hc : s.closing = .under taken left) :
    s.run (left.map fun _ ↦ .close) =
      { s.withBoard (s.transport.board.closeAll left) with closing := .under taken [] } := by
  induction left generalizing s with
  | nil =>
    obtain ⟨transport, passages, closing⟩ := s
    obtain rfl : closing = .under taken [] := hc
    rfl
  | cons c left ih =>
    have hact : s.act .close =
        { s.withBoard (s.transport.board.close c) with closing := .under taken left } := by
      simp only [act, close, hc]
      rfl
    rw [List.map_cons, run, List.foldl_cons, hact]
    exact ih rfl

theorem Shows.close (h : Shows s t) (hs : Sound s) (hc : s.closing = .never) :
    ∃ as taken, Shows (s.run as) t.close ∧ (s.run as).closing = .under taken [] := by
  have hsharing : t.carrier.sharing ≠ .never := by
    have he : t.carrier.sharing = s.transport.carrier.sharing :=
      congrArg (·.carrier.sharing) h.transport.symm
    exact he ▸ hs.shared
  let u := t.clearIdle.drain
  have hbegin : s.run [.close, .close] =
      { s with transport := u.1.plain, closing := .under u.2 u.2 } := by
    simp only [run, List.foldl_cons, List.foldl_nil, act, Traffic.close, hc, h.transport,
      ← Transport.plain_clearIdle, Transport.plain_drain]
    rfl
  -- Two steps to give up the pool, and one for each channel in it.
  refine ⟨[.close, .close] ++ u.2.map fun _ ↦ .close, u.2, ?_, ?_⟩
  · rw [run_append, hbegin, run_close rfl, t.close_eq hsharing]
    refine ⟨rfl, fun n ↦ ?_⟩
    have herrands : (u.1.withBoard (u.1.board.closeAll u.2)).errand? n = t.errand? n := by
      have he := t.errands_close
      rw [t.close_eq hsharing] at he
      rw [Transport.errand?, he, Transport.errand?]
    rw [herrands]
    exact h.passages n
  · rw [run_append, hbegin, run_close rfl]

def start (t : Transport P) : Traffic P := { transport := t }

theorem sound_start (ht : t.IsNewPool) : Sound (start t) := by
  have hidle : t.idle = [] := by
    rw [Transport.idle]
    rcases ht.carrier with hc | hc <;> rw [hc] <;> rfl
  refine {
    shared := ?_
    idleOnce := ?_
    idleFree := fun n c hc ↦ ?_
    alone := fun m n c hc ↦ ?_
    idleKeyed := fun k c hi ↦ ?_
    heldKeyed := fun n x c hx ↦ by cases hx
    keyed := fun n x hx ↦ by cases hx
    dialed := fun n x _ _ hx ↦ by cases hx
    unmade := fun n x hx ↦ by cases hx
    made := fun n x c hx ↦ by cases hx
    counted := fun n x c hx ↦ by cases hx
    peers := fun c a ho ↦ ?_
    links := fun _ l hl ↦ ?_
    live := fun c hc ↦ ?_ }
  · change t.carrier.sharing ≠ .never
    rcases ht.carrier with hc | hc <;> simp [hc, Carrier.sharing]
  · change (t.idle.map Prod.snd).Nodup
    rw [hidle]
    exact List.nodup_nil
  · obtain ⟨x, hx, -⟩ := hc
    cases hx
  · obtain ⟨x, hx, -⟩ := hc
    cases hx
  · have hi : (k, c) ∈ t.idle := hi
    rw [hidle] at hi
    cases hi
  · obtain ⟨n, x, hx, -⟩ := ho
    cases hx
  · have hl : l ∈ t.board.channels.map Channel.link := hl
    rw [ht.channels] at hl
    cases hl
  · obtain ⟨n, x, hx, -⟩ := hc
    cases hx

theorem shows_start (ht : t.IsNewPool) : Shows (start t) t where
  transport := by
    obtain ⟨carrier, bindAddress, board, errands, events⟩ := t
    obtain rfl : errands = [] := ht.errands
    rfl
  passages n := by
    rw [Transport.errand?, ht.errands]
    rfl

structure Exclusive (s : Traffic P) : Prop where
  idleOnce : s.transport.idleChannels.Nodup
  idleFree : ∀ n c, s.Holds n c → c ∉ s.transport.idleChannels
  alone : ∀ m n c, s.Holds m c → s.Holds n c → m = n
  /-- What is taken for a request is open. -/
  acquired : ∀ q t c, s.transport.acquire q = (t, some c) → s.transport.board.isOpen c = true
  keyed : ∀ k c, (k, c) ∈ s.transport.idle → s.Opened c k
  /-- Over connections, a request has one to its server. -/
  peers : s.transport.carrier.sharing = .byServer → ∀ n x c, s.passages n = some x →
    x.leg.channel? = some c → ∃ server, P.recipient x.origin.request = some server ∧
      s.transport.board.peer? c = some server
  written : s.transport.carrier.sharing = .byServer → ∀ l ∈ s.transport.board.links, ∀ o ∈ l.written,
    ∃ server, P.recipient o.request = some server ∧ l.peer = some server
  live : ∀ c, s.Tracked c → s.transport.board.isOpen c = true → c ∉ s.closing.taken →
    c ∈ s.transport.kept

theorem Sound.exclusive (h : Sound s) : Exclusive s where
  idleOnce := h.idleOnce
  idleFree := h.idleFree
  alone := h.alone
  acquired q t c ha := by
    cases hk : s.transport.key? q with
    | none =>
      have hnone : (s.transport.acquire q).2 = none := s.transport.acquire_of_no_key hk
      rw [ha] at hnone
      cases hnone
    | some k =>
      have htakes := s.transport.takes_acquire hk
      rw [ha] at htakes
      exact (htakes.found c rfl).1
  keyed := h.idleKeyed
  peers hs n x c hx hc := h.peer_of_holding hs hx hc
  written hs l hl o ho := (h.links hs l hl o ho).2
  live := h.live

theorem Dooms.run {D : Nat → Prop} (hd : s.Dooms D) (h : Sound s)
    (hD : ∀ c, D c → c < s.transport.board.channels.length) (as : List (Act P)) :
    (s.run as).Dooms D := by
  induction as generalizing s with
  | nil => exact hd
  | cons a as ih =>
    have hstep := h.act_step a
    obtain ⟨hd', hD'⟩ := hstep.dooms h hD hd
    exact ih hd' (hstep.sound h) hD'

theorem Sound.closed (h : Sound s) (hc : s.closing = .never) {as : List (Act P)} {taken : List Nat}
    (he : ((s.act .close).run as).closing = .under taken []) {c : Nat} (ht : s.Tracked c) :
    ((s.act .close).run as).transport.board.isOpen c = false := by
  obtain ⟨hboard, -, -, hkept⟩ := s.transport.clearIdle_eq h.shared
  have hact : s.act .close = { s with transport := s.transport.clearIdle, closing := .begun } := by
    simp only [act, Traffic.close, hc]
  have hnow : (s.act .close).Dooms s.Tracked := by
    rw [hact]
    intro c ht ho
    change c ∈ s.transport.clearIdle.kept
    rw [hkept]
    exact h.live c ht (hboard ▸ ho) (by simp [hc, Closing.taken])
  have hcount : ∀ c, s.Tracked c → c < (s.act .close).transport.board.channels.length := by
    rintro c ⟨n, x, hx, hopened, -⟩
    rw [hact]
    change c < s.transport.clearIdle.board.channels.length
    rw [hboard]
    exact h.counted n x c hx hopened
  have hend := hnow.run ((h.act_step .close).sound h) hcount as
  rw [Dooms, he] at hend
  rw [Bool.eq_false_iff]
  intro ho
  cases hend c ht ho

/-- However requests are carried at once, no channel is idle twice, idle while a request has it, or
with two requests. A closing transport closes all channels that it knew of when it began. Whatever a
transport does is one of the ways in which its requests may be carried. -/
theorem channels_have_one_user (ht : t.IsNewPool) :
    (∀ as, Exclusive ((start t).run as)) ∧
      (∀ before after taken, ((start t).run before).closing = .never →
        ((start t).run (before ++ .close :: after)).closing = .under taken [] →
        ∀ c, ((start t).run before).Tracked c →
          ((start t).run (before ++ .close :: after)).transport.board.isOpen c = false) ∧
      ∀ ops ops', ∃ as as' taken, Shows ((start t).run as) (t.operateAll ops) ∧
        Shows ((start t).run (as ++ as')) ((t.operateAll ops).close.operateAll ops') ∧
        ((start t).run (as ++ as')).closing = .under taken [] := by
  have hs := sound_start ht
  refine ⟨fun as ↦ (hs.run as).exclusive, fun before after taken hc he c htracked ↦ ?_,
    fun ops ops' ↦ ?_⟩
  · have hrun : (start t).run (before ++ .close :: after) =
        (((start t).run before).act .close).run after := run_append _ _ _
    rw [hrun] at he ⊢
    exact (hs.run before).closed hc he htracked
  · obtain ⟨s₁, ⟨⟨as, rfl⟩, hc⟩, hshows⟩ := (shows_start ht).operateAll hs ops
    obtain ⟨bs, taken, hclosed, hend⟩ := hshows.close (hs.run as) hc
    obtain ⟨s₂, ⟨⟨cs, rfl⟩, hc'⟩, hlast⟩ := hclosed.operateAll ((hs.run as).run bs) ops'
    refine ⟨as, bs ++ cs, taken, hshows, ?_, ?_⟩
    · rw [run_append, run_append]
      exact hlast
    · rw [run_append, run_append]
      exact hc'.trans hend

theorem two_channels_and_their_users :
    let server : SocketAddress := .v4 Server.host 27015
    let t : Transport Plain.protocol := {
      carrier := .perServer {}
      board := { net := { up := true, servers := [{ kind := .stream, port := 27015 }] } } }
    let origin : Origin Plain.protocol := ⟨none, ⟨.info, some server, "status"⟩⟩
    let before : List (Act Plain.protocol) :=
      [.begin 0 origin, .begin 1 origin, .advance 0, .advance 1, .advance 0, .advance 1, .advance 0,
        .advance 1, .advance 0, .advance 0, .advance 0, .begin 2 origin]
    let s := (start t).run before
    let s' := (start t).run (before ++ .close :: [.close, .close, .close])
    t.IsNewPool ∧ (s.Holds 2 0 ∧ s.Holds 1 1) ∧ Exclusive s ∧ s.transport.kept = [0, 1] ∧
      s'.transport.board.isOpen 0 = false := by
  intro server t origin before s s'
  have ht : t.IsNewPool := ⟨rfl, rfl, .inr rfl⟩
  have hholds : s.Holds 2 0 ∧ s.Holds 1 1 :=
    ⟨holds_iff.2 (by decide +kernel), holds_iff.2 (by decide +kernel)⟩
  have hkept : s.transport.kept = [0, 1] := by decide +kernel
  have htracked : s.Tracked 0 := by
    have hover : (s.passages 0).any (fun x ↦ x.opened = some 0 && x.leg.channel?.isNone) = true := by
      decide +kernel
    obtain ⟨x, hx, hp⟩ := (Option.any_eq_true _ _).1 hover
    rw [Bool.and_eq_true, decide_eq_true_eq, Option.isNone_iff_eq_none] at hp
    refine ⟨0, x, hx, hp.1, fun hl ↦ ?_⟩
    rw [hl] at hp
    cases hp.2
  obtain ⟨hexclusive, hclosed, -⟩ := channels_have_one_user ht
  exact ⟨ht, hholds, hexclusive before, hkept,
    hclosed before [.close, .close, .close] [0, 1] (by decide +kernel) (by decide +kernel) 0 htracked⟩

end Traffic

end GameServers
