import GameServers.Console.Protocol
import GameServers.Proofs.Console.Packet
import GameServers.Proofs.Frame
import GameServers.Proofs.Transport.Peers
import GameServers.Proofs.Transport.Reading

namespace GameServers

variable {P : Protocol}

/-- What a reader complains about when the frames end there. -/
def Frame.Stop.failure? : Frame.Stop → Option Failure
  | .between => none
  | .within => some (.receiveError .earlyEnd)
  | .oversized size => some (.malformedPacket (.frameSize size))

theorem Frames.failure?_stop (f : Frames) : Switchboard.endFailure? f .orderly = f.stop.failure? := by
  obtain ⟨buffer, broken⟩ := f
  cases broken with
  | some size => rfl
  | none =>
    simp only [Switchboard.endFailure?, stop]
    split
    · rfl
    · rfl

/-- A delivery without the request that it is tied to. -/
def untie (x : Delivery P) : Except Failure P.Response := x.mapError Rejection.failure

theorem untie_tie (origin : Option (Origin P)) (x : Except Failure P.Response) :
    untie (tie origin x) = x := by cases x <;> rfl

theorem map_untie_tie (origin : Option (Origin P)) (xs : List (Except Failure P.Response)) :
    (xs.map (tie origin)).map untie = xs := by
  rw [List.map_map]
  exact (List.map_congr_left fun x _ ↦ untie_tie origin x).trans xs.map_id

namespace Network

/-- What the client has not read of a connection, and how the connection has ended. -/
def incoming (n : Network) (k : Nat) : Option (Bytes × Option Ending) :=
  n.connections[k]?.map fun x ↦ (x.toClient, x.ending)

def finish (n : Network) (k : Nat) : Network :=
  { n with connections := n.connections.modify k ({ · with toServer := [] }) }.hangUp (.connection k)

variable {n n' : Network} {k : Nat} {pending : Bytes} {ending : Option Ending}

theorem incoming_stir (n : Network) (s : Spot) : (n.stir s).incoming = n.incoming := by
  unfold stir
  split <;> rfl

theorem incoming_set (n : Network) {c : Nat} {x x' : Connection} (hx : n.connections[c]? = some x) :
    { n with connections := n.connections.set c x' }.incoming k =
      if c = k then some (x'.toClient, x'.ending) else n.incoming k := by
  have hlt := (List.getElem?_eq_some_iff.1 hx).1
  simp only [incoming, List.getElem?_set, hlt]
  split
  · simp
  · rfl

theorem incoming_answer (h : n.incoming k = some (pending, ending)) (server : Nat) (bytes : Bytes)
    (via : Option Nat) : (n.answer server (.connection k) bytes via).incoming k =
      some (if ending.isSome then pending else pending ++ bytes, ending) := by
  obtain ⟨x, hx, he⟩ := Option.map_eq_some_iff.1 h
  obtain ⟨rfl, rfl⟩ := Prod.mk.inj he
  simp only [answer, hx]
  split
  · exact h
  · rw [incoming_stir]
    exact (n.incoming_set hx).trans (if_pos rfl)

theorem incoming_finish (h : n.incoming k = some (pending, ending)) :
    (n.finish k).incoming k = some (pending, ending.or (some .orderly)) := by
  obtain ⟨x, hx, he⟩ := Option.map_eq_some_iff.1 h
  obtain ⟨rfl, rfl⟩ := Prod.mk.inj he
  have hread : (n.connections.modify k ({ · with toServer := [] }))[k]? =
      some { x with toServer := [] } := by simp [hx]
  simp only [finish, hangUp, hread]
  cases hend : x.ending with
  | some e => simp [incoming, hx, hend]
  | none =>
    simp only [Option.isSome_none, Bool.false_eq_true, if_false, incoming_stir]
    exact (incoming_set { n with connections := _, arrivals := _ } hread).trans (if_pos rfl)

theorem incoming_write {c : Nat} {bytes : Bytes} (h : n.write c bytes = .ok n') :
    n'.incoming k = n.incoming k := by
  unfold write at h
  split at h
  · cases h
  · next x hx =>
    split at h
    · cases h
    · obtain rfl := Except.ok.inj h
      rw [incoming_stir]
      refine (incoming_set { n with arrivals := _ } hx).trans ?_
      split
      · next hc =>
        subst hc
        simp [incoming, hx]
      · rfl

theorem takeBytes_of_incoming (h : n.incoming k = some (pending, ending)) :
    (n.takeBytes k).2 = (pending, ending) ∧ (n.takeBytes k).1.incoming k = some ([], ending) := by
  obtain ⟨x, hx, he⟩ := Option.map_eq_some_iff.1 h
  obtain ⟨rfl, rfl⟩ := Prod.mk.inj he
  simp only [takeBytes, hx, true_and]
  exact (n.incoming_set hx).trans (if_pos rfl)

end Network

namespace Switchboard

variable (b : Switchboard P) (c r : Nat)

def hushed : Switchboard P := { b with signals := [] }

theorem hushed_blame (e : Failure) : (b.blame c e).hushed = b.hushed := by
  unfold blame
  split <;> rfl

theorem hushed_readFrame (peer : SocketAddress) (frame : Bytes) :
    (readFrame c peer b frame).hushed = b.hushed := by
  simp only [readFrame]
  split
  · rfl
  · exact hushed_blame _ c _

theorem hushed_readStream (x : Reader) (connection : Nat) (peer : SocketAddress) :
    (b.readStream r x connection peer).hushed =
      let net := b.net.takeBytes connection
      let frames := (x.frames.feed net.2.1).1
      let left : Switchboard P := { b with
        net := net.1
        readers := b.readers.set r { x with frames }
        signals := [] }
      match endOf frames net.2.2 with
      | none => left
      | some _ => (left.stopReader r).shut x.channel := by
  have hframes (b : Switchboard P) (frames : List Bytes) :
      (frames.foldl (readFrame x.channel peer) b).hushed = b.hushed :=
    foldl_keeps hushed (fun b f ↦ b.hushed_readFrame x.channel peer f) frames b
  have hend {a b : Switchboard P} (h : a.hushed = b.hushed) :
      (a.endReader r x.channel).hushed = ((b.hushed.stopReader r).shut x.channel) :=
    congrArg (fun b ↦ (stopReader b r).shut x.channel) h
  simp only [readStream, endOf]
  split
  · next hstop =>
    rw [hstop]
    exact hframes _ _
  · next ending hstop =>
    rw [hstop]
    refine hend (b := { b with net := _, readers := _, signals := [] }) ?_
    split
    · exact (hushed_blame _ _ _).trans (hframes _ _)
    · exact hframes _ _

theorem hushed_noteWrite (bytes : Bytes) (x : Switchboard P × Except Failure Unit) :
    (noteWrite c bytes x).1.hushed = x.1.hushed := by
  unfold noteWrite
  split <;> rfl

theorem hushed_write {x : Channel P} {connection : Nat} (hx : b.channels[c]? = some x)
    (hline : x.line = .connection connection) (origin : Origin P) (bytes : Bytes) :
    (b.write c origin bytes).1.hushed =
      if x.isOpen then
        match b.net.write connection bytes with
        | .error _ => ((b.modify c (·.note origin)).shut c).hushed
        | .ok net => { b.modify c (·.note origin) with net }.hushed
      else b.hushed := by
  simp only [write, hx, hline]
  cases x.isOpen with
  | false => rfl
  | true =>
    simp only [Bool.not_true, Bool.false_eq_true, if_false, if_true]
    rw [hushed_noteWrite]
    simp only [writeStream, modify]
    cases b.net.write connection bytes <;> rfl

def ends? : Option (Line × Option SocketAddress) := b.channels[c]?.map fun x ↦ (x.line, x.peer)

theorem ends?_modify {f : Channel P → Channel P}
    (hf : ∀ x, ((f x).line, (f x).peer) = (x.line, x.peer)) :
    (b.modify c f).ends? c = b.ends? c := by
  simp only [ends?, modify, List.getElem?_modify, if_true, Option.map_eq_map, Option.map_map]
  exact congrArg (Option.map · b.channels[c]?) (funext hf)

theorem peer?_of_ends {line : Line} {peer : SocketAddress} (h : b.ends? c = some (line, some peer)) :
    b.peer? c = some peer := by
  obtain ⟨x, hx, he⟩ := Option.map_eq_some_iff.1 h
  simp [peer?, hx, (Prod.mk.inj he).2]

theorem write_on_stream {connection : Nat} {peer : Option SocketAddress}
    (h : b.ends? c = some (.connection connection, peer)) (origin : Origin P) (bytes : Bytes) :
    (b.isOpen c = false ∧ (b.write c origin bytes).1.hushed = b.hushed) ∨
      b.isOpen c = true ∧ ∃ net f, (∀ k, net.incoming k = b.net.incoming k) ∧
        (∀ x : Channel P,
          (f x).line = x.line ∧ (f x).peer = x.peer ∧ (f x).lastRequest = some origin) ∧
          (b.write c origin bytes).1.hushed = { b.modify c f with net }.hushed := by
  obtain ⟨x, hx, he⟩ := Option.map_eq_some_iff.1 h
  have hopen : b.isOpen c = x.isOpen := by simp only [isOpen, hx]
  rw [hopen, b.hushed_write c hx (Prod.mk.inj he).1]
  cases x.isOpen with
  | false => exact .inl ⟨rfl, rfl⟩
  | true =>
    right
    cases hw : b.net.write connection bytes with
    | error fault =>
      refine ⟨rfl, b.net, Channel.shut ∘ (·.note origin), fun _ ↦ rfl, fun _ ↦ ⟨rfl, rfl, rfl⟩, ?_⟩
      simp only [if_true, shut, modify, List.modify_modify_eq]
    | ok net =>
      exact ⟨rfl, net, (·.note origin), fun k ↦ Network.incoming_write hw,
        fun _ ↦ ⟨rfl, rfl, rfl⟩, rfl⟩

theorem lastRequest?_eq : b.lastRequest? c = b.links[c]?.bind (·.written.head?) := by
  simp only [lastRequest?, links, List.getElem?_map, Option.bind_map]
  rfl

end Switchboard

/-- A connection to a server, with its channel and the reader of the channel. -/
structure Stream where
  connection : Nat
  channel : Nat
  reader : Nat
  peer : SocketAddress

namespace Stream

/-- What may happen while a stream is read. -/
inductive Act (P : Protocol)
  | arrive (server : Nat) (piece : Bytes)
  | finish
  | read
  | write (origin : Origin P) (bytes : Bytes)
  /-- The network moves on, but not here. -/
  | elsewhere (net : Network)

def act (s : Stream) (b : Switchboard P) : Act P → Switchboard P
  | .arrive server piece =>
    { b with net := b.net.answer server (.connection s.connection) piece none }
  | .finish => { b with net := b.net.finish s.connection }
  | .read => b.runReader s.reader
  | .write origin bytes => (b.write s.channel origin bytes).1
  | .elsewhere net =>
    if net.incoming s.connection = b.net.incoming s.connection then { b with net } else b

def play (s : Stream) (b : Switchboard P) (acts : List (Act P)) : Switchboard P :=
  acts.foldl s.act b

theorem play_append (s : Stream) (b : Switchboard P) (acts more : List (Act P)) :
    s.play b (acts ++ more) = s.play (s.play b acts) more := List.foldl_append

/-- What the server has sent, and whether it has ended the stream. -/
def Act.extend (sent : Bytes × Bool) : Act P → Bytes × Bool
  | .arrive _ piece => if sent.2 then sent else (sent.1 ++ piece, false)
  | .finish => (sent.1, true)
  | .read | .write .. | .elsewhere _ => sent

/-- All that the server sends before it ends the stream, and whether it does. -/
def sent (early : Bytes × Bool) (acts : List (Act P)) : Bytes × Bool := acts.foldl Act.extend early

theorem sent_append (early : Bytes × Bool) (acts more : List (Act P)) :
    sent early (acts ++ more) = more.foldl Act.extend (sent early acts) := List.foldl_append

def readerAfter (s : Stream) (taken : Bytes) : Reader where
  channel := s.channel
  source := some (.connection s.connection)
  frames := (({} : Frames).feed taken).1

/-- The reader has taken some of the bytes and waits for more. -/
structure Reading (s : Stream) (b : Switchboard P) (taken pending : Bytes) (ended : Bool) : Prop where
  ends : b.ends? s.channel = some (.connection s.connection, some s.peer)
  reader : b.readers[s.reader]? = some (s.readerAfter taken)
  incoming : b.net.incoming s.connection = some (pending, if ended then some .orderly else none)
  unbroken : (({} : Frames).feed taken).1.broken = none

/-- The reader has come to its end, and the channel with it. -/
structure Stopped (s : Stream) (b : Switchboard P) : Prop where
  ends : b.ends? s.channel = some (.connection s.connection, some s.peer)
  reader : ∃ x, b.readers[s.reader]? = some x ∧ x.running = false
  closed : b.isOpen s.channel = false

variable {s : Stream} {b b₀ : Switchboard P} {taken pending : Bytes} {ended : Bool}

theorem endOf_eq (frames : Frames) (ended : Bool) :
    Switchboard.endOf frames (if ended then some .orderly else none) =
      if ended || frames.broken.isSome then some .orderly else none := by
  cases ended <;> cases h : frames.broken <;> simp [Switchboard.endOf, h]

namespace Reading

variable (h : s.Reading b taken pending ended)

include h

theorem runReader_eq : b.runReader s.reader =
    b.readStream s.reader (s.readerAfter taken) s.connection s.peer := by
  have hpeer := b.peer?_of_ends s.channel h.ends
  simp [Switchboard.runReader, h.reader, readerAfter, hpeer]

theorem deliveries_read : (b.runReader s.reader).deliveries = b.deliveries ++
    (((({} : Frames).feed taken).1.feed pending).2.map (P.decode · s.peer) ++
      if ended || (({} : Frames).feed (taken ++ pending)).1.broken.isSome then
        (({} : Frames).feed (taken ++ pending)).1.stop.failure?.toList.map Except.error
      else []).map (tie (b.lastRequest? s.channel)) := by
  have htake := (Network.takeBytes_of_incoming h.incoming).1
  rw [h.runReader_eq, Switchboard.deliveries_readStream_eq]
  simp only [htake, readerAfter, endOf_eq, Frames.feed_append, List.map_append, List.map_map]
  rw [List.append_assoc]
  congr 2
  generalize ((({} : Frames).feed taken).1.feed pending).1 = frames
  cases ended || frames.broken.isSome with
  | false => rfl
  | true =>
    simp only [if_true, Option.bind_some, Frames.failure?_stop]
    cases frames.stop.failure? <;> rfl

theorem hushed_read : (b.runReader s.reader).hushed =
    let left : Switchboard P := { b with
      net := (b.net.takeBytes s.connection).1
      readers := b.readers.set s.reader (s.readerAfter (taken ++ pending))
      signals := [] }
    if ended || (({} : Frames).feed (taken ++ pending)).1.broken.isSome then
      (left.stopReader s.reader).shut s.channel
    else left := by
  have htake := (Network.takeBytes_of_incoming h.incoming).1
  rw [h.runReader_eq, Switchboard.hushed_readStream]
  simp only [htake, readerAfter, endOf_eq, Frames.feed_append]
  cases ended || ((({} : Frames).feed taken).1.feed pending).1.broken.isSome <;> rfl

theorem readers_read (x : Reader) : (b.readers.set s.reader x)[s.reader]? = some x :=
  List.getElem?_set_self (List.getElem?_eq_some_iff.1 h.reader).1

theorem read_on (hend : (ended || (({} : Frames).feed (taken ++ pending)).1.broken.isSome) = false) :
    s.Reading (b.runReader s.reader) (taken ++ pending) [] ended := by
  have hleft := h.hushed_read
  simp only [hend, Bool.false_eq_true, if_false] at hleft
  obtain ⟨hended, hbroken⟩ := Bool.or_eq_false_iff.1 hend
  exact {
    ends := (congrArg (·.ends? s.channel) hleft).trans h.ends
    reader := (congrArg (·.readers[s.reader]?) hleft).trans (h.readers_read _)
    incoming := (congrArg (·.net.incoming s.connection) hleft).trans
      (Network.takeBytes_of_incoming h.incoming).2
    unbroken := Option.isSome_eq_false_iff.1 hbroken |> Option.isNone_iff_eq_none.1 }

theorem read_to_end
    (hend : (ended || (({} : Frames).feed (taken ++ pending)).1.broken.isSome) = true) :
    s.Stopped (b.runReader s.reader) := by
  have hleft := h.hushed_read
  simp only [hend, if_true] at hleft
  refine ⟨?_, ?_, ?_⟩
  · refine ((congrArg (·.ends? s.channel) hleft).trans ?_).trans h.ends
    exact Switchboard.ends?_modify _ s.channel fun _ ↦ rfl
  · refine ⟨(s.readerAfter (taken ++ pending)).stop, ?_, rfl⟩
    refine (congrArg (·.readers[s.reader]?) hleft).trans ((List.getElem?_modify ..).trans ?_)
    rw [h.readers_read]
    exact congrArg some (if_pos rfl)
  · exact (congrArg (·.isOpen s.channel) hleft).trans (Switchboard.isOpen_shut _ s.channel)

end Reading

namespace Reading

variable (h : s.Reading b taken pending ended)

include h

theorem moves {net : Network} {pending' : Bytes} {ended' : Bool}
    (hn : net.incoming s.connection = some (pending', if ended' then some .orderly else none)) :
    s.Reading { b with net } taken pending' ended' := ⟨h.ends, h.reader, hn, h.unbroken⟩

theorem arrive (server : Nat) (piece : Bytes) : s.Reading (s.act b (.arrive server piece)) taken
    (if ended then pending else pending ++ piece) ended := by
  apply h.moves
  rw [Network.incoming_answer h.incoming]
  cases ended <;> rfl

theorem finish : s.Reading (s.act b .finish) taken pending true := by
  apply h.moves
  rw [Network.incoming_finish h.incoming]
  cases ended <;> rfl

theorem elsewhere (net : Network) : s.Reading (s.act b (.elsewhere net)) taken pending ended := by
  simp only [act]
  split
  · next hn => exact h.moves (hn.trans h.incoming)
  · exact h

theorem write (origin : Origin P) (bytes : Bytes) :
    s.Reading (s.act b (.write origin bytes)) taken pending ended := by
  rcases b.write_on_stream s.channel h.ends origin bytes with ⟨-, hb⟩ | ⟨-, net, f, hn, hf, hb⟩
  · exact {
      ends := (congrArg (·.ends? s.channel) hb).trans h.ends
      reader := (congrArg (·.readers[s.reader]?) hb).trans h.reader
      incoming := (congrArg (·.net.incoming s.connection) hb).trans h.incoming
      unbroken := h.unbroken }
  · exact {
      ends := ((congrArg (·.ends? s.channel) hb).trans
        (b.ends?_modify s.channel fun x ↦ Prod.ext (hf x).1 (hf x).2.1)).trans h.ends
      reader := (congrArg (·.readers[s.reader]?) hb).trans h.reader
      incoming := ((congrArg (·.net.incoming s.connection) hb).trans (hn _)).trans h.incoming
      unbroken := h.unbroken }

end Reading

namespace Stopped

variable (h : s.Stopped b)

include h

theorem runReader_eq : b.runReader s.reader = b := by
  obtain ⟨x, hx, hr⟩ := h.reader
  simp [Switchboard.runReader, hx, hr]

theorem act (a : Act P) : s.Stopped (s.act b a) := by
  have hnet (net : Network) : s.Stopped { b with net } := ⟨h.ends, h.reader, h.closed⟩
  cases a with
  | arrive | finish => exact hnet _
  | read =>
    rw [Stream.act, h.runReader_eq]
    exact h
  | elsewhere net =>
    simp only [Stream.act]
    split
    · exact hnet net
    · exact h
  | write origin bytes =>
    rcases b.write_on_stream s.channel h.ends origin bytes with ⟨-, hb⟩ | ⟨hopen, -⟩
    · exact {
        ends := (congrArg (·.ends? s.channel) hb).trans h.ends
        reader := by
          obtain ⟨x, hx, hr⟩ := h.reader
          exact ⟨x, (congrArg (·.readers[s.reader]?) hb).trans hx, hr⟩
        closed := (congrArg (·.isOpen s.channel) hb).trans h.closed }
    · exact absurd (hopen.symm.trans h.closed) (by decide)

end Stopped

/-- What the reader has found since a stream began. -/
def Heard (b₀ b : Switchboard P) (found : List (Except Failure P.Response)) : Prop :=
  ∃ ds, b.deliveries = b₀.deliveries ++ ds ∧ ds.map untie = found

theorem Heard.more {found : List (Except Failure P.Response)} (h : Heard b₀ b found)
    {b' : Switchboard P} {origin : Option (Origin P)} {more : List (Except Failure P.Response)}
    (hd : b'.deliveries = b.deliveries ++ more.map (tie origin)) : Heard b₀ b' (found ++ more) := by
  obtain ⟨ds, hds, rfl⟩ := h
  refine ⟨ds ++ more.map (tie origin), ?_, ?_⟩
  · rw [hd, hds, List.append_assoc]
  · rw [List.map_append, map_untie_tie]

/-- The server has ended the stream, or sent a size that no frame has. -/
def Over (x : Bytes × Bool) : Prop :=
  x.2 = true ∨ ∃ frames size, Frame.Cuts x.1 frames (.oversized size)

theorem over_iff {x : Bytes × Bool} :
    Over x ↔ (x.2 || (({} : Frames).feed x.1).1.broken.isSome) = true := by
  rw [Bool.or_eq_true_iff]
  refine or_congr Iff.rfl ⟨fun ⟨frames, size, h⟩ ↦ ?_, fun h ↦ ?_⟩
  · have hstop := (Frames.eq_feed_of_cuts h).2
    unfold Frames.stop at hstop
    split at hstop
    · next n hn => rw [hn, Option.isSome_some]
    · split at hstop <;> cases hstop
  · obtain ⟨size, hsize⟩ := Option.isSome_iff_exists.1 h
    have hcuts := Frames.cuts_feed x.1
    simp only [Frames.stop, hsize] at hcuts
    exact ⟨_, size, hcuts⟩

/-- The reader has come to its end, and has found all that there is to find. -/
structure Done (s : Stream) (b₀ : Switchboard P) (x : Bytes × Bool) (b : Switchboard P) : Prop where
  stopped : s.Stopped b
  isOver : Over x
  found : ∀ frames stop, Frame.Cuts x.1 frames stop →
    Heard b₀ b (frames.map (P.decode · s.peer) ++ stop.failure?.toList.map .error)

/-- Where a stream may stand once the server has sent some bytes, and maybe ended it. -/
inductive Course (s : Stream) (b₀ : Switchboard P) : Bytes × Bool → Switchboard P → Prop
  | reading {b : Switchboard P} {taken pending : Bytes} {ended : Bool}
      (h : s.Reading b taken pending ended)
      (hd : Heard b₀ b ((({} : Frames).feed taken).2.map (P.decode · s.peer))) :
    Course s b₀ (taken ++ pending, ended) b
  | done {x : Bytes × Bool} {b : Switchboard P} (h : s.Done b₀ x b) : Course s b₀ x b

theorem Over.extend {x : Bytes × Bool} (h : Over x) (a : Act P) :
    Over (a.extend x) ∧ ∀ frames stop, Frame.Cuts (a.extend x).1 frames stop →
      Frame.Cuts x.1 frames stop := by
  obtain ⟨bs, ended⟩ := x
  cases a with
  | finish => exact ⟨.inl rfl, fun _ _ ↦ id⟩
  | read | write | elsewhere => exact ⟨h, fun _ _ ↦ id⟩
  | arrive server piece =>
    cases ended with
    | true => exact ⟨h, fun _ _ ↦ id⟩
    | false =>
      obtain ⟨frames, size, hc⟩ := h.resolve_left (by simp)
      have hmore := hc.append piece
      refine ⟨.inr ⟨frames, size, hmore⟩, fun frames' stop' hc' ↦ ?_⟩
      obtain ⟨rfl, rfl⟩ := hmore.unique hc'
      exact hc

theorem deliveries_act {a : Act P} (ha : a ≠ .read) : (s.act b a).deliveries = b.deliveries := by
  cases a with
  | arrive | finish => rfl
  | read => exact absurd rfl ha
  | write origin bytes => exact b.deliveries_write s.channel origin bytes
  | elsewhere net =>
    simp only [act]
    split <;> rfl

theorem Heard.act {found : List (Except Failure P.Response)} (h : Heard b₀ b found) {a : Act P}
    (ha : a ≠ .read) : Heard b₀ (s.act b a) found := by
  obtain ⟨ds, hds, hmap⟩ := h
  exact ⟨ds, (deliveries_act ha).trans hds, hmap⟩

theorem Done.act {x : Bytes × Bool} (h : s.Done b₀ x b) (a : Act P) :
    s.Done b₀ (a.extend x) (s.act b a) where
  stopped := h.stopped.act a
  isOver := (h.isOver.extend a).1
  found frames stop hc := by
    have hfound := h.found frames stop ((h.isOver.extend a).2 frames stop hc)
    by_cases ha : a = .read
    · subst ha
      rw [Stream.act, h.stopped.runReader_eq]
      exact hfound
    · exact hfound.act ha

/-- A run of the reader takes it from what it has taken to what has come, and to its end if the
stream is over. -/
theorem Course.read {x : Bytes × Bool} (h : s.Course b₀ x b) :
    s.Course b₀ x (b.runReader s.reader) ∧ (Over x → s.Done b₀ x (b.runReader s.reader)) := by
  cases h with
  | done h => exact ⟨.done (h.act .read), fun _ ↦ h.act .read⟩
  | @reading _ taken pending ended h hd =>
    have hfound := hd.more h.deliveries_read
    have hframes : (({} : Frames).feed taken).2 ++ ((({} : Frames).feed taken).1.feed pending).2 =
        (({} : Frames).feed (taken ++ pending)).2 := by rw [Frames.feed_append]
    rw [← List.append_assoc, ← List.map_append, hframes] at hfound
    -- The reader ends if the stream does, or if it meets a size that no frame has.
    cases hend : ended || (({} : Frames).feed (taken ++ pending)).1.broken.isSome with
    | false =>
      have hover : ¬ Over (taken ++ pending, ended) := by rw [over_iff, hend]; simp
      obtain rfl : ended = false := (Bool.or_eq_false_iff.1 hend).1
      simp only [hend, Bool.false_eq_true, if_false, List.append_nil] at hfound
      have hnext := Course.reading (h.read_on hend) hfound
      rw [List.append_nil] at hnext
      exact ⟨hnext, fun ho ↦ absurd ho hover⟩
    | true =>
      simp only [hend, if_true] at hfound
      have hdone : s.Done b₀ (taken ++ pending, ended) (b.runReader s.reader) := {
        stopped := h.read_to_end hend
        isOver := over_iff.2 hend
        found := by
          intro frames stop hc
          obtain ⟨rfl, rfl⟩ := (Frames.cuts_feed (taken ++ pending)).unique hc
          exact hfound }
      exact ⟨.done hdone, fun _ ↦ hdone⟩

theorem Course.act {x : Bytes × Bool} (h : s.Course b₀ x b) (a : Act P) :
    s.Course b₀ (a.extend x) (s.act b a) := by
  cases h with
  | done h => exact .done (h.act a)
  | @reading _ taken pending ended h hd =>
    cases a with
    | arrive server piece =>
      have hnext := Course.reading (h.arrive server piece) (hd.act (by simp))
      cases ended with
      | false =>
        rw [Act.extend, if_neg (by simp), List.append_assoc]
        exact hnext
      | true => exact hnext
    | finish => exact .reading h.finish (hd.act (by simp))
    | read => exact (Course.reading h hd).read.1
    | write origin bytes => exact .reading (h.write origin bytes) (hd.act (by simp))
    | elsewhere net => exact .reading (h.elsewhere net) (hd.act (by simp))

theorem Course.play {x : Bytes × Bool} (h : s.Course b₀ x b) (acts : List (Act P)) :
    s.Course b₀ (acts.foldl Act.extend x) (s.play b acts) := by
  induction acts generalizing x b with
  | nil => exact h
  | cons a acts ih => exact ih (h.act a)

theorem Done.play {x : Bytes × Bool} (h : s.Done b₀ x b) (acts : List (Act P)) :
    s.Done b₀ (acts.foldl Act.extend x) (s.play b acts) := by
  induction acts generalizing x b with
  | nil => exact h
  | cons a acts ih => exact ih (h.act a)

theorem Over.play {x : Bytes × Bool} (h : Over x) (acts : List (Act P)) :
    Over (acts.foldl Act.extend x) := by
  induction acts generalizing x with
  | nil => exact h
  | cons a acts ih => exact ih (h.extend a).1

/-- A stream whose reader has just been attached. Something may have come already. -/
structure Begins (s : Stream) (b : Switchboard P) (early : Bytes × Bool) : Prop where
  ends : b.ends? s.channel = some (.connection s.connection, some s.peer)
  reader : b.readers[s.reader]? = some (.fresh s.channel (some (.connection s.connection)))
  incoming : b.net.incoming s.connection = some (early.1, if early.2 then some .orderly else none)
  unwritten : b.lastRequest? s.channel = none

namespace Begins

variable {early : Bytes × Bool} (h : s.Begins b early)

include h

theorem course (acts : List (Act P)) : s.Course b (sent early acts) (s.play b acts) := by
  have hempty : ({} : Frames).feed [] = ({}, []) := Frames.feed_short (by decide)
  have hreading : s.Reading b [] early.1 early.2 := {
    ends := h.ends
    reader := by rw [h.reader, readerAfter, hempty]; rfl
    incoming := h.incoming
    unbroken := by rw [hempty] }
  refine Course.play (x := early) (.reading hreading ⟨[], ?_, ?_⟩) acts
  · exact (List.append_nil _).symm
  · rw [hempty]
    rfl

theorem done {before after : List (Act P)} (ho : Over (sent early before)) (hr : .read ∈ after) :
    s.Done b (sent early (before ++ after)) (s.play b (before ++ after)) := by
  obtain ⟨between, rest, rfl⟩ := List.append_of_mem hr
  have hover : Over (sent early (before ++ between)) := by
    rw [sent_append]
    exact ho.play between
  have hdone := ((h.course (before ++ between)).read.2 hover).play rest
  rw [← List.append_assoc, sent_append, play_append]
  exact hdone

end Begins

theorem Course.ends {x : Bytes × Bool} (h : s.Course b₀ x b) :
    b.ends? s.channel = some (.connection s.connection, some s.peer) := by
  cases h with
  | reading h => exact h.ends
  | done h => exact h.stopped.ends

theorem Course.deliveries_act {x : Bytes × Bool} (h : s.Course b₀ x b) (a : Act P) :
    ∃ xs : List (Except Failure P.Response),
      (s.act b a).deliveries = b.deliveries ++ xs.map (tie (b.lastRequest? s.channel)) := by
  by_cases ha : a = .read
  · subst ha
    cases h with
    | reading h => exact ⟨_, h.deliveries_read⟩
    | done h =>
      rw [Stream.act, h.stopped.runReader_eq]
      exact ⟨[], (List.append_nil _).symm⟩
  · rw [Stream.deliveries_act ha]
    exact ⟨[], (List.append_nil _).symm⟩

def Act.written? (isOpen : Bool) : Act P → Option (Origin P)
  | .write origin _ => if isOpen then some origin else none
  | _ => none

theorem lastRequest?_act (h : b.ends? s.channel = some (.connection s.connection, some s.peer))
    (a : Act P) : (s.act b a).lastRequest? s.channel =
      (a.written? (b.isOpen s.channel)).or (b.lastRequest? s.channel) := by
  cases a with
  | arrive | finish => rfl
  | read =>
    rw [act, Switchboard.lastRequest?_eq, Switchboard.links_runReader, ← Switchboard.lastRequest?_eq]
    rfl
  | elsewhere net =>
    simp only [act]
    split
    · rfl
    · rfl
  | write origin bytes =>
    rcases b.write_on_stream s.channel h origin bytes with ⟨hopen, hb⟩ | ⟨hopen, net, f, -, hf, hb⟩
    · rw [Act.written?, hopen, if_neg (by simp), Option.none_or]
      exact congrArg (·.lastRequest? s.channel) hb
    · rw [Act.written?, hopen, if_pos rfl, Option.some_or]
      refine (congrArg (·.lastRequest? s.channel) hb).trans ?_
      obtain ⟨x, hx, -⟩ := Option.map_eq_some_iff.1 h
      simp only [Switchboard.lastRequest?, Switchboard.hushed, Switchboard.modify,
        List.getElem?_modify, hx, if_true, Option.map_eq_map, Option.map_some, Option.bind_some,
        (hf x).2.2]

/-- What the reader makes of a stream. -/
structure InStep (s : Stream) (b : Switchboard P) (early : Bytes × Bool) : Prop where
  /-- Once the stream is over and the reader runs, there is one delivery for each frame of all that
  was sent, in order, and one for the failure at the end, and the channel is closed for good. -/
  whole : ∀ before after, Over (sent early before) → .read ∈ after → ∃ frames stop,
    (∀ frames' stop', Frame.Cuts (sent early (before ++ after)).1 frames' stop' ↔
      frames' = frames ∧ stop' = stop) ∧
    Heard b (s.play b (before ++ after))
      (frames.map (P.decode · s.peer) ++ stop.failure?.toList.map .error) ∧
    (s.play b (before ++ after)).isOpen s.channel = false
  /-- Each failure is tied to the last request written when the reader ran. -/
  blamed : ∀ acts a, ∃ xs : List (Except Failure P.Response),
    (s.play b (acts ++ [a])).deliveries = (s.play b acts).deliveries ++
      xs.map (tie ((s.play b acts).lastRequest? s.channel))
  unwritten : b.lastRequest? s.channel = none
  written : ∀ acts a, (s.play b (acts ++ [a])).lastRequest? s.channel =
    (a.written? ((s.play b acts).isOpen s.channel)).or ((s.play b acts).lastRequest? s.channel)

theorem Begins.inStep {early : Bytes × Bool} (h : s.Begins b early) : s.InStep b early where
  whole before after ho hr := by
    have hdone := h.done ho hr
    have hcuts := Frames.cuts_feed (sent early (before ++ after)).1
    refine ⟨_, _, fun frames stop ↦ ?_, hdone.found _ _ hcuts, hdone.stopped.closed⟩
    constructor
    · intro hc
      exact hc.unique hcuts
    · rintro ⟨rfl, rfl⟩
      exact hcuts
  blamed acts a := by
    rw [play_append]
    exact (h.course acts).deliveries_act a
  unwritten := h.unwritten
  written acts a := by
    rw [play_append]
    exact lastRequest?_act (h.course acts).ends a

end Stream

namespace Console

theorem cuts_packs {packets : List Packet} (h : ∀ p ∈ packets, p.body.utf8ByteSize ≤ 4086) :
    Frame.Cuts (packets.flatMap Packet.pack) (packets.map Packet.pack) .between := by
  induction packets with
  | nil => exact .between [] (by decide)
  | cons p packets ih =>
    have hp := h p (.head _)
    have hsize := Packet.toInt_size (p := p) (by omega)
    have hlength := p.length_pack
    rw [List.flatMap_cons, List.map_cons]
    rw [Packet.pack_eq] at hlength ⊢
    rw [List.length_append, Bytes.length_ofInt32] at hlength
    refine .frame p.size _ _ _ _ ⟨by omega, by omega⟩ (by omega) ?_
    exact ih fun q hq ↦ h q (.tail _ hq)

end Console

namespace Stream

/-- Every stream is read frame by frame, however it is cut into pieces. In particular the packets of
the remote console are. -/
theorem stays_in_step :
    (∀ {P : Protocol} {s : Stream} {b : Switchboard P} {early : Bytes × Bool},
      s.Begins b early → s.InStep b early) ∧
    ∀ {s : Stream} {b : Switchboard Console.protocol} {early : Bytes × Bool}
      {packets : List Console.Packet} {before after : List (Act Console.protocol)},
      s.Begins b early → (∀ p ∈ packets, p.body.utf8ByteSize ≤ 4086) →
      (sent early (before ++ after)).1 = packets.flatMap Console.Packet.pack →
      Over (sent early before) → .read ∈ after →
      Heard b (s.play b (before ++ after)) (packets.map fun p ↦ Console.decode p.pack s.peer) ∧
        (s.play b (before ++ after)).isOpen s.channel = false := by
  refine ⟨fun h ↦ h.inStep, fun {s b early packets before after} h hp hsent ho hr ↦ ?_⟩
  have hdone := h.done ho hr
  have hfound := hdone.found _ _ (hsent ▸ Console.cuts_packs hp)
  rw [List.map_map] at hfound
  exact ⟨List.append_nil (packets.map _) ▸ hfound, hdone.stopped.closed⟩

/-- A password is refused between two packets that come in three pieces. -/
theorem in_step_after_refusal :
    let server : SocketAddress := .v4 Server.host 27015
    let s : Stream := ⟨0, 0, 0, server⟩
    let net : Network :=
      { up := true, connections := [{ server := 0, address := .v4 Server.host 40000 }] }
    let b : Switchboard Console.protocol :=
      (({ net } : Switchboard _).addStream 0 server).attachOwn 0
    let packets : List Console.Packet :=
      [⟨7, .response, "ok"⟩, ⟨-1, .authResponse, ""⟩, ⟨8, .response, "é"⟩]
    let bytes := packets.flatMap Console.Packet.pack
    let request : Console.Request := .auth server 3 "secret"
    let before : List (Act Console.protocol) :=
      [.arrive 0 (bytes.take 18), .read, .write ⟨some 0, request⟩ request.packet.pack,
        .arrive 0 ((bytes.drop 18).take 3), .read, .arrive 0 (bytes.drop 21), .finish]
    (s.Begins b ([], false) ∧ (∀ p ∈ packets, p.body.utf8ByteSize ≤ 4086) ∧
      (sent ([], false) (before ++ [.read])).1 = bytes ∧ Over (sent ([], false) before)) ∧
    s.InStep b ([], false) ∧
    Heard b (s.play b (before ++ [.read])) [.ok ⟨server, ⟨7, .response, "ok"⟩⟩,
      .error .wrongPassword, .ok ⟨server, ⟨8, .response, "é"⟩⟩] ∧
    (s.play b (before ++ [.read])).isOpen 0 = false := by
  intro server s net b packets bytes request before
  have hb : s.Begins b ([], false) := ⟨rfl, rfl, rfl, rfl⟩
  have hp : ∀ p ∈ packets, p.body.utf8ByteSize ≤ 4086 := by decide
  have hsent : (sent ([], false) (before ++ [.read])).1 = bytes := by decide
  have hover : Over (sent ([], false) before) := .inl rfl
  obtain ⟨hstep, hpackets⟩ := stays_in_step
  have hdecode : (packets.map fun p ↦ Console.decode p.pack server) =
      [.ok ⟨server, ⟨7, .response, "ok"⟩⟩, .error .wrongPassword,
        .ok ⟨server, ⟨8, .response, "é"⟩⟩] := by
    decide
  exact ⟨⟨hb, hp, hsent, hover⟩, hstep hb, hdecode ▸ hpackets hb hp hsent hover (.head _)⟩

end Stream

end GameServers
