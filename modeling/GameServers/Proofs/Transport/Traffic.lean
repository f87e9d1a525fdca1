import GameServers.Proofs.Transport.Pool
import Mathlib.Logic.Function.Basic

namespace GameServers

variable {P : Protocol}

/-- How far a request has come. -/
inductive Leg
  /-- No channel was idle. -/
  | opening
  | dialing (connection : Nat) (server : SocketAddress)
  /-- The transport does not know of the new channel yet. -/
  | made (channel : Nat)
  | holding (channel : Nat)
  /-- The channel has not gone back yet. -/
  | written (channel : Nat) (result : Except Failure Unit)
  /-- The channel was open, and goes back. -/
  | returning (channel : Nat) (result : Except Failure Unit)
  | ended (result : Except Failure Unit)

def Leg.channel? : Leg → Option Nat
  | made c | holding c | written c _ | returning c _ => some c
  | _ => none

def Leg.isEarly : Leg → Bool
  | opening | dialing _ _ => true
  | _ => false

structure Passage (P : Protocol) where
  origin : Origin P
  bytes : Bytes
  leg : Leg
  /-- The channel that was made for this request. -/
  opened : Option Nat := none

/-- How far the closing of a transport has come. -/
inductive Closing
  | never
  /-- No channel was left idle. -/
  | begun
  /-- The transport was told to close these channels, and some are left. -/
  | under (taken left : List Nat)
  deriving DecidableEq

def Closing.taken : Closing → List Nat
  | under taken _ => taken
  | _ => []

structure Traffic (P : Protocol) where
  transport : Transport P
  /-- By the number of the request. -/
  passages : Nat → Option (Passage P) := fun _ ↦ none
  closing : Closing := .never

namespace Traffic

def put (s : Traffic P) (n : Nat) (x : Passage P) (transport : Transport P) : Traffic P :=
  { s with transport, passages := Function.update s.passages n (some x) }

/-- A request sets out, and takes an idle channel if there is one. -/
def begin (s : Traffic P) (n : Nat) (origin : Origin P) : Traffic P :=
  let t := s.transport
  let request := origin.request
  if t.needsAddress && (P.recipient request).isNone then
    s.put n ⟨origin, [], .ended (.error (.unresolvedAddress (P.requestText request))), none⟩ t
  else match P.encode request with
    | .error failure => s.put n ⟨origin, [], .ended (.error failure), none⟩ t
    | .ok bytes => match t.acquire request with
      | (t, some c) => s.put n ⟨origin, bytes, .holding c, none⟩ (t.see (.acquired c))
      | (t, none) => s.put n ⟨origin, bytes, .opening, none⟩ t

def bindFor (s : Traffic P) (n : Nat) (x : Passage P) : Traffic P :=
  let t := s.transport
  match t.board.bind t.bindAddress with
  | .error failure => s.put n { x with leg := .ended (.error failure) } t
  | .ok board =>
    let c := t.board.channels.length
    s.put n { x with leg := .made c, opened := some c } (t.withBoard board).welcome

def dialFor (s : Traffic P) (n : Nat) (x : Passage P) (server : SocketAddress) : Traffic P :=
  let t := s.transport.remark .debug ("opening connection to " ++ server.text)
  match t.board.dial server with
  | .error failure => s.put n { x with leg := .ended (.error failure) } t
  | .ok board =>
    s.put n { x with leg := .dialing t.board.net.connections.length server } (t.withBoard board)

def reach (s : Traffic P) (n : Nat) (x : Passage P) : Traffic P :=
  match s.transport.carrier, P.recipient x.origin.request with
  | .perServer _, some server => s.dialFor n x server
  | _, _ => s.bindFor n x

def advance (s : Traffic P) (n : Nat) (x : Passage P) : Traffic P :=
  let t := s.transport
  match x.leg with
  | .opening => s.reach n x
  | .dialing connection server =>
    let c := t.board.channels.length
    s.put n { x with leg := .made c, opened := some c }
      (t.withBoard (t.board.addStream connection server)).welcome
  | .made c =>
    s.put n { x with leg := .holding c } ((t.keep x.origin.request c).see (.acquired c))
  | .holding c =>
    let (board, result) := t.board.write c x.origin x.bytes
    s.put n { x with leg := .written c result } ((t.withBoard board).see (.released c))
  | .written c result =>
    s.put n { x with leg := if t.board.isOpen c then .returning c result else .ended result }
      (t.release x.origin.request c)
  | .returning c result => s.put n { x with leg := .ended result } (t.shelve x.origin.request c)
  | .ended _ => s

def close (s : Traffic P) : Traffic P :=
  let t := s.transport
  match s.closing with
  | .never => { s with transport := t.clearIdle, closing := .begun }
  | .begun =>
    let (t, taken) := t.drain
    { s with transport := t, closing := .under taken taken }
  | .under taken (c :: left) =>
    { s with transport := t.withBoard (t.board.close c), closing := .under taken left }
  | .under _ [] => s

inductive Act (P : Protocol)
  | begin (n : Nat) (origin : Origin P)
  | advance (n : Nat)
  | close
  /-- A channel dies. -/
  | die (c : Nat)
  | read (r : Nat)
  | setNet (net : Network)
  /-- Every channel takes bytes from now on. -/
  | wake

def withBoard (s : Traffic P) (board : Switchboard P) : Traffic P :=
  { s with transport := s.transport.withBoard board }

def act (s : Traffic P) : Act P → Traffic P
  | .begin n origin => match s.passages n with
    | none => s.begin n origin
    | some _ => s
  | .advance n => match s.passages n with
    | none => s
    | some x => s.advance n x
  | .close => s.close
  | .die c => s.withBoard (s.transport.board.shut c)
  | .read r => s.withBoard (s.transport.board.runReader r)
  | .setNet net => s.withBoard { s.transport.board with net }
  | .wake => s.withBoard s.transport.board.makeWritable

def run (s : Traffic P) (as : List (Act P)) : Traffic P := as.foldl act s

theorem run_append (s : Traffic P) (as bs : List (Act P)) : s.run (as ++ bs) = (s.run as).run bs :=
  List.foldl_append

variable {s : Traffic P} {n m c : Nat} {k : Key P} {x : Passage P} {t : Transport P}

def Holds (s : Traffic P) (n c : Nat) : Prop :=
  ∃ x, s.passages n = some x ∧ x.leg.channel? = some c

theorem holds_iff : s.Holds n c ↔ (s.passages n).bind (·.leg.channel?) = some c :=
  Option.bind_eq_some_iff.symm

/-- The channel was made for a request with the key. -/
def Opened (s : Traffic P) (c : Nat) (k : Key P) : Prop :=
  ∃ n x, s.passages n = some x ∧ x.opened = some c ∧ s.transport.key? x.origin.request = some k

/-- The channel was made for some request, and the transport knows of it. -/
def Tracked (s : Traffic P) (c : Nat) : Prop :=
  ∃ n x, s.passages n = some x ∧ x.opened = some c ∧ x.leg ≠ .made c

theorem passages_put : (s.put n x t).passages m = if m = n then some x else s.passages m :=
  Function.update_apply _ _ _ _

@[simp] theorem passages_put_self : (s.put n x t).passages n = some x := Function.update_self ..

theorem of_passages_put {y : Passage P} (hy : (s.put n x t).passages m = some y) :
    n = m ∧ x = y ∨ m ≠ n ∧ s.passages m = some y := by
  rw [passages_put] at hy
  split at hy
  · next hmn => exact .inl ⟨hmn.symm, Option.some.inj hy⟩
  · next hmn => exact .inr ⟨hmn, hy⟩

theorem of_holds_put (hc : (s.put n x t).Holds m c) :
    m = n ∧ x.leg.channel? = some c ∨ m ≠ n ∧ s.Holds m c := by
  obtain ⟨y, hy, hc⟩ := hc
  rcases of_passages_put hy with ⟨rfl, rfl⟩ | ⟨hmn, hy⟩
  · exact .inl ⟨rfl, hc⟩
  · exact .inr ⟨hmn, y, hy, hc⟩

structure Sound (s : Traffic P) : Prop where
  shared : s.transport.carrier.sharing ≠ .never
  idleOnce : s.transport.idleChannels.Nodup
  idleFree : ∀ n c, s.Holds n c → c ∉ s.transport.idleChannels
  alone : ∀ m n c, s.Holds m c → s.Holds n c → m = n
  idleKeyed : ∀ k c, (k, c) ∈ s.transport.idle → s.Opened c k
  heldKeyed : ∀ n x c, s.passages n = some x → x.leg.channel? = some c →
    ∃ k, s.transport.key? x.origin.request = some k ∧ s.Opened c k
  keyed : ∀ n x, s.passages n = some x → (∀ r, x.leg ≠ .ended r) →
    ∃ k, s.transport.key? x.origin.request = some k
  dialed : ∀ n x connection server, s.passages n = some x → x.leg = .dialing connection server →
    s.transport.key? x.origin.request = some (.server server)
  unmade : ∀ n x, s.passages n = some x → x.leg.isEarly = true → x.opened = none
  made : ∀ n x c, s.passages n = some x → x.leg = .made c → x.opened = some c
  counted : ∀ n x c, s.passages n = some x → x.opened = some c →
    c < s.transport.board.channels.length
  peers : ∀ c a, s.Opened c (.server a) → s.transport.board.peer? c = some a
  links : s.transport.carrier.sharing = .byServer →
    ∀ l ∈ s.transport.board.links, l.Fits fun _ ↦ True
  live : ∀ c, s.Tracked c → s.transport.board.isOpen c = true → c ∉ s.closing.taken →
    c ∈ s.transport.kept

theorem Sound.counted_of_opened (h : Sound s) (ho : s.Opened c k) :
    c < s.transport.board.channels.length := by
  obtain ⟨n, x, hx, hc, -⟩ := ho
  exact h.counted n x c hx hc

theorem Sound.counted_of_holds (h : Sound s) (hc : s.Holds n c) :
    c < s.transport.board.channels.length := by
  obtain ⟨x, hx, hc⟩ := hc
  obtain ⟨k, -, ho⟩ := h.heldKeyed n x c hx hc
  exact h.counted_of_opened ho

/-- There may be more channels. Those that were there may close, and are otherwise as they were. -/
structure Extends (b b' : Switchboard P) : Prop where
  count : b.channels.length ≤ b'.channels.length
  peers : ∀ c < b.channels.length, b'.peer? c = b.peer? c
  closing : ∀ c < b.channels.length, b'.isOpen c = true → b.isOpen c = true

theorem Extends.of_fades {b b' : Switchboard P} (h : b.Fades b') :
    Extends b b' := ⟨h.count.ge, fun c _ ↦ congrFun h.peers c, fun c _ ↦ h.closing c⟩

/-- What one step does to the request that takes it. -/
structure Moves (s : Traffic P) (n : Nat) (x : Passage P) (t : Transport P) : Prop where
  before : ∀ y, s.passages n = some y →
    y.origin = x.origin ∧ ∀ c, y.opened = some c → x.opened = some c
  sharing : t.carrier.sharing = s.transport.carrier.sharing
  board : Extends s.transport.board t.board
  idleOnce : t.idleChannels.Nodup
  idle : ∀ k c, (k, c) ∈ t.idle → (k, c) ∈ s.transport.idle ∨
    s.Holds n c ∧ x.leg.channel? = none ∧ s.transport.key? x.origin.request = some k
  held : ∀ c, x.leg.channel? = some c → c ∉ t.idleChannels ∧ (s.Holds n c ∨
    (∃ k, s.transport.key? x.origin.request = some k ∧ (k, c) ∈ s.transport.idle) ∨
    c = s.transport.board.channels.length ∧ x.opened = some c)
  keyed : (∀ r, x.leg ≠ .ended r) → ∃ k, s.transport.key? x.origin.request = some k
  dialed : ∀ connection server, x.leg = .dialing connection server →
    s.transport.key? x.origin.request = some (.server server)
  unmade : x.leg.isEarly = true → x.opened = none
  made : ∀ c, x.leg = .made c → x.opened = some c
  opened : ∀ c, x.opened = some c → (∃ y, s.passages n = some y ∧ y.opened = some c) ∨
    c = s.transport.board.channels.length ∧ c < t.board.channels.length ∧
      ∀ a, s.transport.key? x.origin.request = some (.server a) → t.board.peer? c = some a
  links : s.transport.carrier.sharing = .byServer →
    (∀ l ∈ s.transport.board.links, l.Fits fun _ ↦ True) → ∀ l ∈ t.board.links, l.Fits fun _ ↦ True
  kept : ∀ c ∈ s.transport.kept, t.board.isOpen c = true → c ∈ t.kept
  tracked : ∀ c, x.opened = some c → x.leg ≠ .made c →
    (∃ y, s.passages n = some y ∧ y.opened = some c ∧ y.leg ≠ .made c) ∨ c ∈ t.kept

namespace Moves

variable (hm : Moves s n x t)

include hm

theorem key? (q : P.Request) : t.key? q = s.transport.key? q := by
  rw [Transport.key?, Transport.key?, hm.sharing]

theorem opened_of (ho : s.Opened c k) : (s.put n x t).Opened c k := by
  obtain ⟨m, y, hy, hc, hk⟩ := ho
  by_cases hmn : m = n
  · subst hmn
    obtain ⟨horigin, hopened⟩ := hm.before y hy
    refine ⟨m, x, passages_put_self, hopened c hc, ?_⟩
    exact (hm.key? _).trans (horigin ▸ hk)
  · exact ⟨m, y, by rw [passages_put, if_neg hmn, hy], hc, (hm.key? _).trans hk⟩

theorem sound (h : Sound s) : Sound (s.put n x t) where
  shared := hm.sharing ▸ h.shared
  idleOnce := hm.idleOnce
  idleFree m c hc hi := by
    rcases of_holds_put hc with ⟨-, hx⟩ | ⟨hmn, hold⟩
    · exact (hm.held c hx).1 hi
    · obtain ⟨⟨k, c⟩, hkc, rfl⟩ := List.mem_map.1 hi
      rcases hm.idle k c hkc with hkc | ⟨hn, -⟩
      · exact h.idleFree m c hold (List.mem_map.2 ⟨_, hkc, rfl⟩)
      · exact hmn (h.alone m n c hold hn)
  alone m m' c hc hc' := by
    have hother {m : Nat} (hx : x.leg.channel? = some c) (hmn : m ≠ n) (hold : s.Holds m c) :
        False := by
      rcases (hm.held c hx).2 with hn | ⟨k, -, hi⟩ | ⟨rfl, -⟩
      · exact hmn (h.alone m n c hold hn)
      · exact h.idleFree m c hold (List.mem_map.2 ⟨_, hi, rfl⟩)
      · exact absurd (h.counted_of_holds hold) (lt_irrefl _)
    rcases of_holds_put hc with ⟨rfl, hx⟩ | ⟨hmn, hold⟩ <;>
      rcases of_holds_put hc' with ⟨rfl, hx'⟩ | ⟨hmn', hold'⟩
    · rfl
    · exact (hother hx hmn' hold').elim
    · exact (hother hx' hmn hold).elim
    · exact h.alone m m' c hold hold'
  idleKeyed k c hi := by
    rcases hm.idle k c hi with hi | ⟨⟨y, hy, hc⟩, -, hk⟩
    · exact hm.opened_of (h.idleKeyed k c hi)
    · obtain ⟨k', hk', ho⟩ := h.heldKeyed n y c hy hc
      rw [(hm.before y hy).1, hk] at hk'
      exact Option.some.inj hk' ▸ hm.opened_of ho
  heldKeyed m y c hy hc := by
    rcases of_passages_put hy with ⟨rfl, rfl⟩ | ⟨-, hy⟩
    · rcases (hm.held c hc).2 with ⟨z, hz, hzc⟩ | ⟨k, hk, hi⟩ | ⟨-, hopened⟩
      · obtain ⟨k, hk, ho⟩ := h.heldKeyed n z c hz hzc
        rw [(hm.before z hz).1] at hk
        exact ⟨k, (hm.key? _).trans hk, hm.opened_of ho⟩
      · exact ⟨k, (hm.key? _).trans hk, hm.opened_of (h.idleKeyed k c hi)⟩
      · obtain ⟨k, hk⟩ := hm.keyed fun r hr ↦ by simp [hr, Leg.channel?] at hc
        have hk := (hm.key? _).trans hk
        exact ⟨k, hk, n, x, passages_put_self, hopened, hk⟩
    · obtain ⟨k, hk, ho⟩ := h.heldKeyed m y c hy hc
      exact ⟨k, (hm.key? _).trans hk, hm.opened_of ho⟩
  keyed m y hy hr := by
    rcases of_passages_put hy with ⟨rfl, rfl⟩ | ⟨-, hy⟩
    · obtain ⟨k, hk⟩ := hm.keyed hr
      exact ⟨k, (hm.key? _).trans hk⟩
    · obtain ⟨k, hk⟩ := h.keyed m y hy hr
      exact ⟨k, (hm.key? _).trans hk⟩
  dialed m y connection server hy hd := by
    rcases of_passages_put hy with ⟨rfl, rfl⟩ | ⟨-, hy⟩
    · exact (hm.key? _).trans (hm.dialed connection server hd)
    · exact (hm.key? _).trans (h.dialed m y connection server hy hd)
  unmade m y hy he := by
    rcases of_passages_put hy with ⟨rfl, rfl⟩ | ⟨-, hy⟩
    · exact hm.unmade he
    · exact h.unmade m y hy he
  made m y c hy hp := by
    rcases of_passages_put hy with ⟨rfl, rfl⟩ | ⟨-, hy⟩
    · exact hm.made c hp
    · exact h.made m y c hy hp
  counted m y c hy hc := by
    rcases of_passages_put hy with ⟨rfl, rfl⟩ | ⟨-, hy⟩
    · rcases hm.opened c hc with ⟨z, hz, hzc⟩ | ⟨-, hlt, -⟩
      · exact (h.counted n z c hz hzc).trans_le hm.board.count
      · exact hlt
    · exact (h.counted m y c hy hc).trans_le hm.board.count
  peers c a ho := by
    have hold (ho : s.Opened c (.server a)) : t.board.peer? c = some a :=
      (hm.board.peers c (h.counted_of_opened ho)).trans (h.peers c a ho)
    obtain ⟨m, y, hy, hc, hk⟩ := ho
    have hk := (hm.key? _).symm.trans hk
    rcases of_passages_put hy with ⟨rfl, rfl⟩ | ⟨-, hy⟩
    · rcases hm.opened c hc with ⟨z, hz, hzc⟩ | ⟨-, -, hpeer⟩
      · exact hold ⟨n, z, hz, hzc, (hm.before z hz).1 ▸ hk⟩
      · exact hpeer a hk
    · exact hold ⟨m, y, hy, hc, hk⟩
  links hs := hm.links (hm.sharing ▸ hs) (h.links (hm.sharing ▸ hs))
  live c ht ho hc := by
    -- A channel that is new to the transport is kept at once, and it forgets no open one.
    have hold (hs : s.Tracked c) : c ∈ t.kept := by
      obtain ⟨m, y, hy, hopened, -⟩ := id hs
      have hlt := h.counted m y c hy hopened
      exact hm.kept c (h.live c hs (hm.board.closing c hlt ho) hc) ho
    obtain ⟨m, y, hy, hopened, hp⟩ := ht
    rcases of_passages_put hy with ⟨rfl, rfl⟩ | ⟨-, hy⟩
    · rcases hm.tracked c hopened hp with ⟨z, hz, hzo, hzp⟩ | hk
      · exact hold ⟨n, z, hz, hzo, hzp⟩
      · exact hk
    · exact hold ⟨m, y, hy, hopened, hp⟩

end Moves

theorem Extends.of_channels {b b' : Switchboard P} {y : Channel P}
    (h : b'.channels = b.channels ++ [y]) : Extends b b' where
  count := by simp [h]
  peers c hc := by rw [Switchboard.peer?, Switchboard.peer?, h, List.getElem?_append_left hc]
  closing c hc ho := by rwa [Switchboard.isOpen, h, List.getElem?_append_left hc] at ho

theorem Extends.trans_fades {b b' b'' : Switchboard P} (h : Extends b b') (hf : b'.Fades b'') :
    Extends b b'' where
  count := hf.count ▸ h.count
  peers c hc := (congrFun hf.peers c).trans (h.peers c hc)
  closing c hc ho := h.closing c hc (hf.closing c ho)

namespace Sound

variable (h : Sound s)

include h

theorem stays (hbefore : ∀ y, s.passages n = some y → y.origin = x.origin ∧ y.opened = x.opened)
    (hopened : s.passages n = none → x.opened = none)
    (hsharing : t.carrier.sharing = s.transport.carrier.sharing)
    (hboard : s.transport.board.Fades t.board) (hidle : t.idle.Sublist s.transport.idle)
    (hkept : t.kept = s.transport.kept) (hheld : ∀ c, x.leg.channel? = some c → s.Holds n c)
    (hkeyed : (∀ r, x.leg ≠ .ended r) → ∃ k, s.transport.key? x.origin.request = some k)
    (hdialed : ∀ connection server, x.leg = .dialing connection server →
      s.transport.key? x.origin.request = some (.server server))
    (hmade : ∀ c, x.leg ≠ .made c) (hunmade : x.leg.isEarly = true → x.opened = none)
    (hlinks : s.transport.carrier.sharing = .byServer →
      (∀ l ∈ s.transport.board.links, l.Fits fun _ ↦ True) → ∀ l ∈ t.board.links, l.Fits fun _ ↦ True)
    (htracked : ∀ y c, s.passages n = some y → y.leg = .made c → x.opened = none) :
    Moves s n x t where
  before y hy := ⟨(hbefore y hy).1, fun c hc ↦ (hbefore y hy).2 ▸ hc⟩
  sharing := hsharing
  board := .of_fades hboard
  idleOnce := h.idleOnce.sublist (hidle.map _)
  idle k c hi := .inl (hidle.subset hi)
  held c hc := ⟨fun hi ↦ h.idleFree n c (hheld c hc) ((hidle.map _).subset hi), .inl (hheld c hc)⟩
  keyed := hkeyed
  dialed := hdialed
  unmade := hunmade
  made c hc := absurd hc (hmade c)
  opened c hc := by
    cases hx : s.passages n with
    | none => simp [hopened hx] at hc
    | some y => exact .inl ⟨y, rfl, (hbefore y hx).2.trans hc⟩
  links := hlinks
  kept c hc _ := hkept ▸ hc
  tracked c hc _ := by
    cases hx : s.passages n with
    | none => simp [hopened hx] at hc
    | some y =>
      refine .inl ⟨y, rfl, (hbefore y hx).2.trans hc, fun hy ↦ ?_⟩
      simp [htracked y c hx hy] at hc

theorem moves_early (hbefore : ∀ y, s.passages n = some y → y.origin = x.origin ∧ y.leg.isEarly = true)
    (hopened : x.opened = none) (hchannel : x.leg.channel? = none)
    (hsharing : t.carrier.sharing = s.transport.carrier.sharing)
    (hboard : t.board.channels = s.transport.board.channels) (hidle : t.idle.Sublist s.transport.idle)
    (hkept : t.kept = s.transport.kept)
    (hkeyed : (∀ r, x.leg ≠ .ended r) → ∃ k, s.transport.key? x.origin.request = some k)
    (hdialed : ∀ connection server, x.leg = .dialing connection server →
      s.transport.key? x.origin.request = some (.server server)) : Moves s n x t := by
  apply h.stays
  case hbefore =>
    intro y hy
    exact ⟨(hbefore y hy).1, (h.unmade n y hy (hbefore y hy).2).trans hopened.symm⟩
  case hopened => exact fun _ ↦ hopened
  case hboard => exact .of_channels hboard
  case hheld => exact fun c hc ↦ by simp [hchannel] at hc
  case hmade => exact fun c hc ↦ by simp [hc, Leg.channel?] at hchannel
  case hunmade => exact fun _ ↦ hopened
  case hlinks =>
    intro _ hl
    rwa [Switchboard.links_congr hboard]
  case htracked => exact fun _ _ _ _ ↦ hopened
  all_goals assumption

theorem moves_made {board : Switchboard P} {y : Channel P} (hx : s.passages n = some x)
    (he : x.leg.isEarly = true) (hk : s.transport.key? x.origin.request = some k)
    (hb : board.channels = s.transport.board.channels ++ [y]) (hw : y.written = [])
    (hp : ∀ a, k = .server a → y.peer = some a) :
    Moves s n { x with
      leg := .made s.transport.board.channels.length
      opened := some s.transport.board.channels.length } (s.transport.withBoard board).welcome := by
  have hfades : board.Fades (s.transport.withBoard board).welcome.board := board.fades_attachOwn _
  have hextends := (Extends.of_channels hb).trans_fades hfades
  refine {
    before := fun y hy ↦ ?_
    sharing := rfl
    board := hextends
    idleOnce := h.idleOnce
    idle := fun k c hi ↦ .inl hi
    held := fun c hc ↦ ?_
    keyed := fun _ ↦ ⟨k, hk⟩
    dialed := fun _ _ hd ↦ by cases hd
    unmade := fun he ↦ by cases he
    made := fun c hc ↦ ?_
    opened := fun c hc ↦ ?_
    links := fun _ hl l hm ↦ ?_
    kept := fun c hc _ ↦ hc
    tracked := fun c hc hm ↦ ?_ }
  · obtain rfl := Option.some.inj (hx.symm.trans hy)
    exact ⟨rfl, fun c hc ↦ by simp [h.unmade n x hx he] at hc⟩
  · obtain rfl := Option.some.inj hc
    refine ⟨fun hi ↦ ?_, .inr (.inr ⟨rfl, rfl⟩)⟩
    obtain ⟨⟨k, c⟩, hi, he⟩ := List.mem_map.1 hi
    have hlt := h.counted_of_opened (h.idleKeyed k c hi)
    exact absurd he hlt.ne
  · cases hc
    rfl
  · obtain rfl := Option.some.inj hc
    refine .inr ⟨rfl, ?_, fun a ha ↦ ?_⟩
    · rw [hfades.count, hb, List.length_append, List.length_singleton]
      exact Nat.lt_succ_self _
    · have hpeer := hp a (Option.some.inj (hk.symm.trans ha))
      rw [hfades.peers, Switchboard.peer?, hb, List.getElem?_concat_length]
      exact hpeer
  · have hlinks : (s.transport.withBoard board).welcome.board.links = board.links :=
      board.links_attachOwn _
    rw [hlinks, Switchboard.links, hb, List.map_append] at hm
    rcases List.mem_append.1 hm with hm | hm
    · exact hl l hm
    · obtain rfl := List.mem_singleton.1 hm
      intro o ho
      rw [Channel.link, hw] at ho
      cases ho
  · obtain rfl := Option.some.inj hc
    exact absurd rfl hm

theorem moves_track (hx : s.passages n = some x) (hl : x.leg = .made c) :
    Moves s n { x with leg := .holding c }
      ((s.transport.keep x.origin.request c).see (.acquired c)) := by
  obtain ⟨hchannels, hsharing, hidle, hkept⟩ := s.transport.keep_eq h.shared x.origin.request c
  have hholds : s.Holds n c := ⟨x, hx, by rw [hl]; rfl⟩
  have hopen := h.made n x c hx hl
  have hchannelsIdle : ((s.transport.keep x.origin.request c).see (.acquired c)).idleChannels =
      s.transport.idleChannels := congrArg (List.map Prod.snd) hidle
  have hmem : c ∈ ((s.transport.keep x.origin.request c).see (.acquired c)).kept := by
    change c ∈ (s.transport.keep x.origin.request c).kept
    rw [hkept]
    exact List.mem_append_right _ (.head _)
  refine {
    before := fun y hy ↦ ?_
    sharing := hsharing
    board := .of_fades (.of_channels hchannels)
    idleOnce := ?_
    idle := fun k c hi ↦ .inl (hidle ▸ hi)
    held := fun c' hc ↦ ?_
    keyed := fun _ ↦ h.keyed n x hx fun r hr ↦ by simp [hl] at hr
    dialed := fun _ _ hd ↦ by cases hd
    unmade := fun he ↦ by cases he
    made := fun c hc ↦ by cases hc
    opened := fun c hc ↦ .inl ⟨x, hx, hc⟩
    links := fun _ hl l hm ↦ hl l (s.transport.links_keep _ _ ▸ hm)
    kept := fun c' hc ho ↦ ?_
    tracked := fun c' hc _ ↦ .inr ?_ }
  · obtain rfl := Option.some.inj (hx.symm.trans hy)
    exact ⟨rfl, fun _ hc ↦ hc⟩
  · exact hchannelsIdle ▸ h.idleOnce
  · obtain rfl := Option.some.inj hc
    exact ⟨hchannelsIdle ▸ h.idleFree n c hholds, .inl hholds⟩
  · change c' ∈ (s.transport.keep x.origin.request c).kept
    have hfades : s.transport.board.Fades
        ((s.transport.keep x.origin.request c).see (.acquired c)).board := .of_channels hchannels
    rw [hkept]
    exact List.mem_append_left _ (List.mem_filter.2 ⟨hc, hfades.closing c' ho⟩)
  · rw [Option.some.inj (hc.symm.trans hopen)]
    exact hmem

theorem moves_take (hn : s.passages n = none) (hk : s.transport.key? x.origin.request = some k)
    (hopened : x.opened = none) (hl : x.leg = .holding c)
    (ht : s.transport.Takes t k (some c)) : Moves s n x (t.see (.acquired c)) := by
  obtain ⟨-, hidle, hfree⟩ := ht.found c rfl
  refine {
    before := fun y hy ↦ by simp [hn] at hy
    sharing := ht.sharing
    board := .of_fades (.of_channels ht.channels)
    idleOnce := h.idleOnce.sublist (ht.idle.map _)
    idle := fun k c hi ↦ .inl (ht.idle.subset hi)
    held := fun c' hc ↦ ?_
    keyed := fun _ ↦ ⟨k, hk⟩
    dialed := fun _ _ hd ↦ by simp [hl] at hd
    unmade := fun _ ↦ hopened
    made := fun c hc ↦ by simp [hl] at hc
    opened := fun c hc ↦ by simp [hopened] at hc
    links := fun _ hlinks l hm ↦ hlinks l ?_
    kept := fun c hc _ ↦ ht.kept ▸ hc
    tracked := fun c hc ↦ by simp [hopened] at hc }
  · rw [hl] at hc
    obtain rfl := Option.some.inj hc
    exact ⟨hfree h.idleOnce, .inr (.inl ⟨k, hk, hidle⟩)⟩
  · exact Switchboard.links_congr ht.channels ▸ hm

theorem peer_of_holding (hs : s.transport.carrier.sharing = .byServer) (hx : s.passages n = some x)
    (hc : x.leg.channel? = some c) : ∃ server, P.recipient x.origin.request = some server ∧
      s.transport.board.peer? c = some server := by
  obtain ⟨k, hk, ho⟩ := h.heldKeyed n x c hx hc
  have hkey : s.transport.key? x.origin.request = (P.recipient x.origin.request).map .server := by
    rw [Transport.key?, hs]
    rfl
  obtain ⟨server, hq, rfl⟩ := Option.map_eq_some_iff.1 (hkey.symm.trans hk)
  exact ⟨server, hq, h.peers c server ho⟩

theorem moves_write (hx : s.passages n = some x) (hl : x.leg = .holding c) :
    Moves s n { x with leg := .written c (s.transport.board.write c x.origin x.bytes).2 }
      ((s.transport.withBoard (s.transport.board.write c x.origin x.bytes).1).see (.released c)) := by
  have hchannel : x.leg.channel? = some c := by
    rw [hl]
    rfl
  apply h.stays
  case hbefore =>
    intro y hy
    obtain rfl := Option.some.inj (hx.symm.trans hy)
    exact ⟨rfl, rfl⟩
  case hopened => exact fun hn ↦ by simp [hn] at hx
  case hsharing | hkept => rfl
  case hboard => exact s.transport.board.fades_write c x.origin x.bytes
  case hidle => exact .refl _
  case hheld =>
    intro c' hc
    obtain rfl := Option.some.inj hc
    exact ⟨x, hx, hchannel⟩
  case hkeyed => exact fun _ ↦ h.keyed n x hx fun r hr ↦ by simp [hl] at hr
  case hdialed => exact fun _ _ hd ↦ by cases hd
  case hmade => exact fun _ hm ↦ by cases hm
  case hunmade => exact fun he ↦ by cases he
  case hlinks =>
    intro hs hfits
    obtain ⟨server, hq, hp⟩ := h.peer_of_holding hs hx hchannel
    exact Switchboard.fits_write hfits trivial hq hp
  case htracked =>
    intro y c' hy hm
    obtain rfl := Option.some.inj (hx.symm.trans hy)
    simp [hl] at hm

theorem moves_release (hx : s.passages n = some x) {result : Except Failure Unit}
    (hl : x.leg = .written c result) : Moves s n { x with
      leg := if s.transport.board.isOpen c then .returning c result else .ended result }
      (s.transport.release x.origin.request c) := by
  have hchannels := s.transport.channels_release x.origin.request c
  apply h.stays
  case hbefore =>
    intro y hy
    obtain rfl := Option.some.inj (hx.symm.trans hy)
    exact ⟨rfl, rfl⟩
  case hopened => exact fun hn ↦ by simp [hn] at hx
  case hsharing | hkept => rfl
  case hboard => exact .of_channels hchannels
  case hidle => exact .refl _
  case hheld =>
    intro c' hc
    split at hc
    · obtain rfl := Option.some.inj hc
      exact ⟨x, hx, by rw [hl]; rfl⟩
    · cases hc
  case hkeyed => exact fun _ ↦ h.keyed n x hx fun r hr ↦ by simp [hl] at hr
  case hdialed => exact fun _ _ hd ↦ by split at hd <;> cases hd
  case hmade => exact fun _ hm ↦ by split at hm <;> cases hm
  case hunmade => exact fun he ↦ by split at he <;> cases he
  case hlinks =>
    intro _ hlinks
    rwa [Switchboard.links_congr hchannels]
  case htracked =>
    intro y c' hy hm
    obtain rfl := Option.some.inj (hx.symm.trans hy)
    simp [hl] at hm

theorem moves_shelve (hx : s.passages n = some x) {result : Except Failure Unit}
    (hl : x.leg = .returning c result) :
    Moves s n { x with leg := .ended result } (s.transport.shelve x.origin.request c) := by
  have hchannel : x.leg.channel? = some c := by
    rw [hl]
    rfl
  obtain ⟨k, hk, -⟩ := h.heldKeyed n x c hx hchannel
  obtain ⟨hboard, hsharing, hkept, hidle⟩ := s.transport.shelve_eq hk c
  have hholds : s.Holds n c := ⟨x, hx, hchannel⟩
  refine {
    before := fun y hy ↦ ?_
    sharing := hsharing
    board := .of_fades (.of_channels (congrArg _ hboard))
    idleOnce := ?_
    idle := fun k' c' hi ↦ ?_
    held := fun c hc ↦ by cases hc
    keyed := fun hr ↦ absurd rfl (hr result)
    dialed := fun _ _ hd ↦ by cases hd
    unmade := fun he ↦ by cases he
    made := fun c hc ↦ by cases hc
    opened := fun c hc ↦ .inl ⟨x, hx, hc⟩
    links := fun _ hlinks l hm ↦ hlinks l (hboard ▸ hm)
    kept := fun c hc _ ↦ hkept ▸ hc
    tracked := fun c' hc _ ↦ .inl ⟨x, hx, hc, fun hm ↦ by simp [hl] at hm⟩ }
  · obtain rfl := Option.some.inj (hx.symm.trans hy)
    exact ⟨rfl, fun _ hc ↦ hc⟩
  · rw [Transport.idleChannels, hidle]
    exact List.nodup_cons.2 ⟨h.idleFree n c hholds, h.idleOnce⟩
  · rw [hidle] at hi
    rcases List.mem_cons.1 hi with he | hi
    · obtain ⟨rfl, rfl⟩ := Prod.mk.inj he
      exact .inr ⟨hholds, rfl, hk⟩
    · exact .inl hi

theorem moves_aside (hbefore : ∀ y, s.passages n = some y → y.origin = x.origin ∧ y.leg.isEarly = true)
    (hopened : x.opened = none) (hchannel : x.leg.channel? = none)
    (hcarrier : t.carrier = s.transport.carrier)
    (hboard : t.board.channels = s.transport.board.channels)
    (hkeyed : (∀ r, x.leg ≠ .ended r) → ∃ k, s.transport.key? x.origin.request = some k)
    (hdialed : ∀ connection server, x.leg = .dialing connection server →
      s.transport.key? x.origin.request = some (.server server)) : Moves s n x t := by
  apply h.moves_early
  case hsharing => rw [hcarrier]
  case hidle => rw [Transport.idle, hcarrier, Transport.idle]
  case hkept => rw [Transport.kept, hcarrier, Transport.kept]
  all_goals assumption

theorem moves_begin (hn : s.passages n = none) (origin : Origin P) :
    ∃ x t, s.begin n origin = s.put n x t ∧ Moves s n x t := by
  have hbefore (x : Passage P) :
      ∀ y, s.passages n = some y → y.origin = x.origin ∧ y.leg.isEarly = true :=
    fun y hy ↦ by simp [hn] at hy
  have hover (r : Except Failure Unit) : Moves s n ⟨origin, [], .ended r, none⟩ s.transport :=
    h.moves_aside (hbefore _) rfl rfl rfl rfl (fun hr ↦ absurd rfl (hr r)) fun _ _ hd ↦ by cases hd
  simp only [begin]
  split
  · exact ⟨_, _, rfl, hover _⟩
  · next haddress =>
    split
    · exact ⟨_, _, rfl, hover _⟩
    · next bytes _ =>
      obtain ⟨k, hk⟩ := s.transport.exists_key h.shared (Bool.not_eq_true _ ▸ haddress)
      have htakes := s.transport.takes_acquire hk
      split
      · next t c ha =>
        rw [ha] at htakes
        exact ⟨_, _, rfl, h.moves_take hn hk rfl rfl htakes⟩
      · next t ha =>
        rw [ha] at htakes
        exact ⟨_, _, rfl, h.moves_early (hbefore _) rfl rfl htakes.sharing htakes.channels htakes.idle
          htakes.kept (fun _ ↦ ⟨k, hk⟩) fun _ _ hd ↦ by cases hd⟩

theorem moves_reach (hx : s.passages n = some x) (hl : x.leg = .opening) :
    ∃ y t, s.reach n x = s.put n y t ∧ Moves s n y t := by
  have he : x.leg.isEarly = true := by
    rw [hl]
    rfl
  have hopened := h.unmade n x hx he
  have hbefore : ∀ y, s.passages n = some y → y.origin = x.origin ∧ y.leg.isEarly = true := by
    intro y hy
    obtain rfl := Option.some.inj (hx.symm.trans hy)
    exact ⟨rfl, he⟩
  obtain ⟨k, hk⟩ := h.keyed n x hx fun r hr ↦ by simp [hl] at hr
  have hover (r : Except Failure Unit) {t : Transport P} (hc : t.carrier = s.transport.carrier)
      (hb : t.board.channels = s.transport.board.channels) :
      Moves s n { x with leg := .ended r } t :=
    h.moves_aside hbefore hopened rfl hc hb (fun hr ↦ absurd rfl (hr r)) fun _ _ hd ↦ by cases hd
  simp only [reach]
  split
  · next reserve server hc hq =>
    have hkey : s.transport.key? x.origin.request = some (.server server) := by
      rw [s.transport.key?_eq_server hc, hq]
      rfl
    simp only [dialFor]
    split
    · exact ⟨_, _, rfl, hover _ rfl rfl⟩
    · next board hd =>
      have hchannels := Switchboard.channels_dial _ hd
      refine ⟨_, _, rfl, h.moves_aside hbefore hopened rfl rfl hchannels (fun _ ↦ ⟨_, hkey⟩)
        fun connection a ha ↦ ?_⟩
      obtain ⟨-, rfl⟩ := Leg.dialing.inj ha
      exact hkey
  · next hno =>
    simp only [bindFor]
    split
    · exact ⟨_, _, rfl, hover _ rfl rfl⟩
    · next board hb =>
      obtain ⟨y, hchannels, -, hw⟩ := Switchboard.channels_bind _ hb
      refine ⟨_, _, rfl, h.moves_made hx he hk hchannels hw fun a ha ↦ ?_⟩
      -- Where the key is a server, there is no socket to be bound.
      obtain ⟨reserve, hc, hq⟩ := s.transport.carrier_of_key (ha ▸ hk)
      exact (hno reserve a hc hq).elim

theorem moves_advance (hx : s.passages n = some x) :
    s.advance n x = s ∨ ∃ y t, s.advance n x = s.put n y t ∧ Moves s n y t := by
  cases hl : x.leg with
  | opening =>
    simp only [advance, hl]
    exact .inr (h.moves_reach hx hl)
  | dialing connection server =>
    simp only [advance, hl]
    have hk := h.dialed n x connection server hx hl
    refine .inr ⟨_, _, rfl, h.moves_made hx (by rw [hl]; rfl) hk rfl rfl fun a ha ↦ ?_⟩
    rw [Key.server.inj ha]
  | made c =>
    simp only [advance, hl]
    exact .inr ⟨_, _, rfl, h.moves_track hx hl⟩
  | holding c =>
    simp only [advance, hl]
    exact .inr ⟨_, _, rfl, h.moves_write hx hl⟩
  | written c result =>
    simp only [advance, hl]
    exact .inr ⟨_, _, rfl, h.moves_release hx hl⟩
  | returning c result =>
    simp only [advance, hl]
    exact .inr ⟨_, _, rfl, h.moves_shelve hx hl⟩
  | ended r =>
    simp [advance, hl]

theorem fades {closing : Closing} (hsharing : t.carrier.sharing = s.transport.carrier.sharing)
    (hboard : s.transport.board.Fades t.board) (hlinks : t.board.links = s.transport.board.links)
    (hidle : t.idle.Sublist s.transport.idle)
    (hlive : ∀ c, s.Tracked c → t.board.isOpen c = true → c ∉ closing.taken → c ∈ t.kept) :
    Sound { s with transport := t, closing } := by
  have hkey (q : P.Request) : t.key? q = s.transport.key? q := by
    rw [Transport.key?, Transport.key?, hsharing]
  have hopened {c : Nat} {k : Key P} :
      Opened { s with transport := t, closing } c k ↔ s.Opened c k := by
    simp only [Opened, hkey]
  exact {
    shared := hsharing ▸ h.shared
    idleOnce := h.idleOnce.sublist (hidle.map _)
    idleFree := fun n c hc hi ↦ h.idleFree n c hc ((hidle.map _).subset hi)
    alone := h.alone
    idleKeyed := fun k c hi ↦ hopened.2 (h.idleKeyed k c (hidle.subset hi))
    heldKeyed := fun n x c hx hc ↦ by
      obtain ⟨k, hk, ho⟩ := h.heldKeyed n x c hx hc
      exact ⟨k, (hkey _).trans hk, hopened.2 ho⟩
    keyed := fun n x hx hr ↦ by
      obtain ⟨k, hk⟩ := h.keyed n x hx hr
      exact ⟨k, (hkey _).trans hk⟩
    dialed := fun n x connection server hx hd ↦
      (hkey _).trans (h.dialed n x connection server hx hd)
    unmade := h.unmade
    made := h.made
    counted := fun n x c hx hc ↦ (h.counted n x c hx hc).trans_eq hboard.count.symm
    peers := fun c a ho ↦ (congrFun hboard.peers c).trans (h.peers c a (hopened.1 ho))
    links := fun hs ↦ hlinks ▸ h.links (hsharing ▸ hs)
    live := hlive }

end Sound

inductive Step (s : Traffic P) : Traffic P → Prop
  | rest : Step s s
  | move {n : Nat} {x : Passage P} {t : Transport P} (hm : Moves s n x t) : Step s (s.put n x t)
  | fade {board : Switchboard P} (hb : s.transport.board.Fades board)
      (hl : board.links = s.transport.board.links) : Step s (s.withBoard board)
  | clear (hc : s.closing = .never) :
      Step s { s with transport := s.transport.clearIdle, closing := .begun }
  | drain (hc : s.closing = .begun) : Step s { s with
      transport := s.transport.drain.1
      closing := .under s.transport.kept s.transport.kept }
  | shut {taken : List Nat} {c : Nat} {left : List Nat} (hc : s.closing = .under taken (c :: left)) :
      Step s { s.withBoard (s.transport.board.close c) with closing := .under taken left }

theorem Sound.act_step (h : Sound s) (a : Act P) : Step s (s.act a) := by
  cases a with
  | begin n origin =>
    cases hx : s.passages n with
    | none =>
      obtain ⟨x, t, he, hm⟩ := h.moves_begin hx origin
      simp only [act, hx, he]
      exact .move hm
    | some x =>
      simp only [act, hx]
      exact .rest
  | advance n =>
    cases hx : s.passages n with
    | none =>
      simp only [act, hx]
      exact .rest
    | some x =>
      simp only [act, hx]
      rcases h.moves_advance hx with he | ⟨y, t, he, hm⟩
      · rw [he]
        exact .rest
      · rw [he]
        exact .move hm
  | close =>
    simp only [act, close]
    split
    · next hc => exact .clear hc
    · next hc =>
      rw [(s.transport.drain_eq h.shared).2.2.2.2]
      exact .drain hc
    · next hc => exact .shut hc
    · exact .rest
  | die c => exact .fade (s.transport.board.fades_shut c) (s.transport.board.links_shut c)
  | read r => exact .fade (s.transport.board.fades_runReader r) (s.transport.board.links_runReader r)
  | setNet net => exact .fade (.of_channels rfl) rfl
  | wake => exact .fade s.transport.board.fades_makeWritable s.transport.board.links_makeWritable

variable {s' : Traffic P}

theorem Step.sound (hs : Step s s') (h : Sound s) : Sound s' := by
  cases hs with
  | rest => exact h
  | move hm => exact hm.sound h
  | fade hb hl => exact h.fades rfl hb hl (.refl _) fun c hc ho ↦ h.live c hc (hb.closing c ho)
  | clear hc =>
    obtain ⟨hboard, hsharing, hidle, hkept⟩ := s.transport.clearIdle_eq h.shared
    apply h.fades hsharing (.of_channels (congrArg _ hboard)) (congrArg _ hboard)
    · rw [hidle]
      exact List.nil_sublist _
    · intro c ht ho _
      rw [hkept]
      exact h.live c ht (hboard ▸ ho) (by simp [hc, Closing.taken])
  | drain hc =>
    obtain ⟨hchannels, hsharing, hidle, -, -⟩ := s.transport.drain_eq h.shared
    have hfades := Switchboard.Fades.of_channels hchannels
    apply h.fades hsharing hfades (Switchboard.links_congr hchannels)
    · rw [hidle]
    · intro c ht ho hnot
      exact absurd (h.live c ht (hfades.closing c ho) (by simp [hc, Closing.taken])) hnot
  | @shut taken c left hc =>
    have hfades := s.transport.board.fades_close c
    refine h.fades rfl hfades (s.transport.board.links_close c) (.refl _) fun c' ht ho hnot ↦ ?_
    exact h.live c' ht (hfades.closing c' ho) (by simpa [hc, Closing.taken] using hnot)

theorem Sound.run (h : Sound s) (as : List (Act P)) : Sound (s.run as) := by
  induction as generalizing s with
  | nil => exact h
  | cons a as ih => exact ih ((h.act_step a).sound h)

/-- Of some channels, those that are open are still to be closed. -/
def Dooms (s : Traffic P) (D : Nat → Prop) : Prop := match s.closing with
  | .never => False
  | .begun => ∀ c, D c → s.transport.board.isOpen c = true → c ∈ s.transport.kept
  | .under _ left => ∀ c, D c → s.transport.board.isOpen c = true → c ∈ left

theorem Dooms.mono {D : Nat → Prop} (h : s.Dooms D) (hc : s'.closing = s.closing)
    (ho : ∀ c, D c → s'.transport.board.isOpen c = true → s.transport.board.isOpen c = true)
    (hk : ∀ c ∈ s.transport.kept, s'.transport.board.isOpen c = true → c ∈ s'.transport.kept) :
    s'.Dooms D := by
  unfold Dooms at h ⊢
  rw [hc]
  cases hs : s.closing with
  | never => simp [hs] at h
  | begun =>
    simp only [hs] at h
    exact fun c hD hopen ↦ hk c (h c hD (ho c hD hopen)) hopen
  | under taken left =>
    simp only [hs] at h
    exact fun c hD hopen ↦ h c hD (ho c hD hopen)

theorem Step.dooms {D : Nat → Prop} (hs : Step s s') (h : Sound s)
    (hD : ∀ c, D c → c < s.transport.board.channels.length) (hd : s.Dooms D) :
    s'.Dooms D ∧ ∀ c, D c → c < s'.transport.board.channels.length := by
  cases hs with
  | rest => exact ⟨hd, hD⟩
  | move hm =>
    exact ⟨hd.mono rfl (fun c hc ↦ hm.board.closing c (hD c hc)) hm.kept,
      fun c hc ↦ (hD c hc).trans_le hm.board.count⟩
  | fade hb => exact ⟨hd.mono rfl (fun c _ ↦ hb.closing c) fun c hc _ ↦ hc,
      fun c hc ↦ (hD c hc).trans_eq hb.count.symm⟩
  | clear hc => simp [Dooms, hc] at hd
  | drain hc =>
    have hchannels := (s.transport.drain_eq h.shared).1
    have hfades := Switchboard.Fades.of_channels hchannels
    simp only [Dooms, hc] at hd
    exact ⟨fun c hDc ho ↦ hd c hDc (hfades.closing c ho),
      fun c hDc ↦ (hD c hDc).trans_eq hfades.count.symm⟩
  | @shut taken c left hc =>
    have hfades := s.transport.board.fades_close c
    simp only [Dooms, hc] at hd
    refine ⟨fun c' hDc ho ↦ ?_, fun c' hDc ↦ (hD c' hDc).trans_eq hfades.count.symm⟩
    -- The channel that was closed is not open, so the others are left.
    rcases List.mem_cons.1 (hd c' hDc (hfades.closing c' ho)) with rfl | hl
    · have hshut := s.transport.board.isOpen_close c'
      exact absurd (hshut.symm.trans ho) (by decide)
    · exact hl

end Traffic

end GameServers
