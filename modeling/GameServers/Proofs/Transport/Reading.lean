import GameServers.Proofs.Transport.Deliveries

namespace GameServers

variable {P : Protocol}

def tie (origin : Option (Origin P)) (x : Except Failure P.Response) : Delivery P :=
  x.mapError fun e ↦ ⟨origin, e⟩

namespace Switchboard

/-- What a reader finds when it runs, message by message, each with its sender. -/
def messages (b : Switchboard P) (r : Nat) : List (SocketAddress × Bytes) :=
  match b.readers[r]? with
  | none => []
  | some x =>
    if !x.running then []
    else match x.source with
      | none => []
      | some (.socket s) => (b.net.takeDatagrams s).2
      | some (.connection connection) => match b.peer? x.channel with
        | some peer => (x.frames.feed (b.net.takeBytes connection).2.1).2.map (peer, ·)
        | none => []

def lastRequest? (b : Switchboard P) (c : Nat) : Option (Origin P) :=
  b.channels[c]?.bind Channel.lastRequest

/-- The request that a reader blames for what fails. -/
def culprit? (b : Switchboard P) (r : Nat) : Option (Origin P) :=
  match b.readers[r]? with
  | some ⟨channel, some (.connection _), _, _⟩ => b.lastRequest? channel
  | _ => none

variable (b : Switchboard P) (c r : Nat)

theorem deliveries_deliver (x : Delivery P) : (b.deliver x).deliveries = b.deliveries ++ [x] := by
  simp [deliveries, deliver, emit, Signal.delivery?]

theorem deliveries_blame (e : Failure) :
    (b.blame c e).deliveries = b.deliveries ++ [.error ⟨b.lastRequest? c, e⟩] := by
  unfold blame lastRequest?
  split
  · next x hx =>
    rw [deliveries_deliver, hx]
    rfl
  · next hx =>
    rw [deliveries_deliver, hx]
    rfl

theorem channels_blame (e : Failure) : (b.blame c e).channels = b.channels := by
  unfold blame
  split <;> rfl

theorem lastRequest?_congr {b b' : Switchboard P} (h : b'.channels = b.channels) :
    b'.lastRequest? c = b.lastRequest? c := by
  rw [lastRequest?, h, lastRequest?]

theorem channels_readFrame (peer : SocketAddress) (frame : Bytes) :
    (readFrame c peer b frame).channels = b.channels := by
  simp only [readFrame]
  split
  · rfl
  · exact channels_blame _ c _

theorem deliveries_readFrame (peer : SocketAddress) (frame : Bytes) :
    (readFrame c peer b frame).deliveries =
      b.deliveries ++ [tie (b.lastRequest? c) (P.decode frame peer)] := by
  simp only [readFrame]
  split
  · next x hx => rw [deliveries_deliver, deliveries_remark, hx]; rfl
  · next e he => rw [deliveries_blame, deliveries_remark, he]; rfl

theorem deliveries_readFrames (peer : SocketAddress) (frames : List Bytes) :
    (frames.foldl (readFrame c peer) b).deliveries =
      b.deliveries ++ frames.map fun f ↦ tie (b.lastRequest? c) (P.decode f peer) := by
  induction frames generalizing b with
  | nil => exact (List.append_nil _).symm
  | cons f frames ih =>
    have hc := lastRequest?_congr c (b.channels_readFrame c peer f)
    rw [List.foldl_cons, ih, deliveries_readFrame, hc, List.append_assoc]
    rfl

theorem deliveries_readDatagrams (datagrams : List (SocketAddress × Bytes)) :
    (datagrams.foldl (readDatagram c) b).deliveries =
      b.deliveries ++ datagrams.map fun x ↦ tie none (P.decode x.2 x.1) := by
  induction datagrams generalizing b with
  | nil => exact (List.append_nil _).symm
  | cons x xs ih =>
    have hx : (readDatagram c b x).deliveries = b.deliveries ++ [tie none (P.decode x.2 x.1)] := by
      simp only [readDatagram]
      split
      · next r hr => rw [deliveries_deliver, deliveries_remark, hr]; rfl
      · next e he => rw [deliveries_deliver, deliveries_remark, he]; rfl
    rw [List.foldl_cons, ih, hx, List.append_assoc]
    rfl

theorem deliveries_endReader : (b.endReader r c).deliveries = b.deliveries :=
  deliveries_remark ((b.stopReader r).shut c) .debug _

/-- How a stream has ended for its reader. A size that no frame has is an end as well. -/
def endOf (frames : Frames) (ending : Option Ending) : Option Ending :=
  if frames.broken.isSome then some .orderly else ending

theorem deliveries_readStream_eq (x : Reader) (connection : Nat) (peer : SocketAddress) :
    (b.readStream r x connection peer).deliveries = b.deliveries ++
      ((x.frames.feed (b.net.takeBytes connection).2.1).2.map fun f ↦
        tie (b.lastRequest? x.channel) (P.decode f peer)) ++
      (((endOf (x.frames.feed (b.net.takeBytes connection).2.1).1
        (b.net.takeBytes connection).2.2).bind
          (endFailure? (x.frames.feed (b.net.takeBytes connection).2.1).1)).map fun e ↦
            .error ⟨b.lastRequest? x.channel, e⟩).toList := by
  let frames := (x.frames.feed (b.net.takeBytes connection).2.1).2
  let board : Switchboard P := { b with
    net := (b.net.takeBytes connection).1
    readers := b.readers.set r
      { x with frames := (x.frames.feed (b.net.takeBytes connection).2.1).1 } }
  let read := frames.foldl (readFrame x.channel peer) board
  have hread : read.deliveries = b.deliveries ++ frames.map fun f ↦
      tie (b.lastRequest? x.channel) (P.decode f peer) :=
    board.deliveries_readFrames x.channel peer frames
  have hchannels : read.channels = b.channels :=
    foldl_keeps channels (fun b f ↦ b.channels_readFrame x.channel peer f) frames board
  have hlast : read.lastRequest? x.channel = b.lastRequest? x.channel :=
    lastRequest?_congr x.channel hchannels
  simp only [readStream, endOf]
  split
  · next hend =>
    rw [hend]
    exact hread.trans (List.append_nil _).symm
  · next ending hend =>
    rw [hend, deliveries_endReader, Option.bind_some]
    split
    · next e he =>
      rw [deliveries_blame, he]
      exact congrArg₂ (fun ds o ↦ ds ++ [.error ⟨o, e⟩]) hread hlast
    · next he =>
      rw [deliveries_remark, he]
      exact hread.trans (List.append_nil _).symm

/-- The end of a stream may be one more failure. -/
theorem deliveries_readStream (x : Reader) (connection : Nat) (peer : SocketAddress) :
    ∃ frames ending, (b.readStream r x connection peer).deliveries = b.deliveries ++
      ((x.frames.feed (b.net.takeBytes connection).2.1).2.map fun f ↦
        tie (b.lastRequest? x.channel) (P.decode f peer)) ++
      ((endFailure? frames ending).map fun e ↦ .error ⟨b.lastRequest? x.channel, e⟩).toList := by
  rw [deliveries_readStream_eq]
  cases endOf (x.frames.feed (b.net.takeBytes connection).2.1).1 (b.net.takeBytes connection).2.2 with
  | none => exact ⟨{}, .orderly, rfl⟩
  | some ending => exact ⟨_, ending, rfl⟩

theorem deliveries_runReader : ∃ frames ending, (b.runReader r).deliveries = b.deliveries ++
    ((b.messages r).map fun x ↦ tie (b.culprit? r) (P.decode x.2 x.1)) ++
    ((endFailure? frames ending).map fun e ↦ .error ⟨b.culprit? r, e⟩).toList := by
  have hnone : ∃ frames ending, b.deliveries = b.deliveries ++
      (([] : List (SocketAddress × Bytes)).map fun x ↦ tie (b.culprit? r) (P.decode x.2 x.1)) ++
      ((endFailure? frames ending).map fun e ↦ .error ⟨b.culprit? r, e⟩).toList :=
    ⟨{}, .orderly, by simp [endFailure?]⟩
  unfold runReader messages
  cases hx : b.readers[r]? with
  | none => exact hnone
  | some x =>
    obtain ⟨channel, source, frames, running⟩ := x
    simp only
    split
    · exact hnone
    · cases source with
      | none => exact hnone
      | some line =>
        cases line with
        | socket s =>
          have hc : b.culprit? r = none := by simp [culprit?, hx]
          refine ⟨{}, .orderly, ?_⟩
          rw [hc]
          exact (deliveries_readDatagrams { b with net := (b.net.takeDatagrams s).1 } channel _).trans
            (List.append_nil _).symm
        | connection connection =>
          have hc : b.culprit? r = b.lastRequest? channel := by simp [culprit?, hx]
          simp only [hc]
          cases hp : b.peer? channel with
          | none => exact ⟨{}, .orderly, by simp [deliveries_endReader, endFailure?]⟩
          | some peer =>
            obtain ⟨left, ending, he⟩ := b.deliveries_readStream r
              ⟨channel, some (.connection connection), frames, running⟩ connection peer
            refine ⟨left, ending, ?_⟩
            rw [he, List.map_map]
            rfl

end Switchboard

end GameServers
