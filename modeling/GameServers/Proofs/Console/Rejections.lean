import GameServers.Proofs.Client.Blame
import GameServers.Proofs.Console.Replies

namespace GameServers.Console

open World (Act)

theorem turn_resume_rejected {p : Pending} {o : Outcome protocol} {s : ClientState} :
    (Call.resume p o s).turn = .answer (.authenticated (.ok false)) ↔
      ∃ server, p = .authenticate server ∧ o = .error .wrongPassword := by
  constructor
  · intro h
    unfold Call.resume at h
    split at h
    · cases h
    · next server => exact ⟨server, rfl, rfl⟩
    · cases h
    · cases h
    · cases h
  · rintro ⟨server, rfl, rfl⟩
    rfl

theorem endFailure?_ne_wrongPassword (frames : Frames) (ending : Ending) :
    Switchboard.endFailure? frames ending ≠ some .wrongPassword := by
  unfold Switchboard.endFailure?
  split
  · simp
  · simp
  · split <;> simp

/-- In every run: when a reader runs and a request comes to have failed for a wrong password, the
reader has found a rejection, and of all requests written on its connection, which is one to the
server of the request, this was the last. -/
theorem rejections_hit_the_last_request (config : Config) (net : Network) (as : List (Act client))
    (r n : Nat) :
    let w := (launch config net).perform as
    ¬ w.courier.Failed n .wrongPassword →
      (w.act (.task (.reader r))).courier.Failed n .wrongPassword →
        (∃ x ∈ w.transport.board.messages r, decode x.2 x.1 = .error .wrongPassword) ∧
        ∃ x ∈ w.transport.board.channels, ∃ o : Origin protocol, x.lastRequest = some o ∧
          o.ticket = some n ∧ x.peer = some (o.request : Request).server := by
  intro w hold hnew
  rcases World.culprit_of_failed (launch_asking config net as) (launch_allHeard config net as) hnew with
    hf | ⟨⟨o, ho, hn⟩, hread⟩
  · exact absurd hf hold
  · refine ⟨?_, ?_⟩
    · rcases hread with hx | ⟨frames, ending, he⟩
      · exact hx
      · exact absurd he (endFailure?_ne_wrongPassword frames ending)
    · unfold Switchboard.culprit? at ho
      split at ho
      · next c _ _ _ _ =>
        obtain ⟨x, hx, hlast⟩ := Option.bind_eq_some_iff.1 ho
        have hmem : x ∈ w.transport.board.channels := List.mem_of_getElem? hx
        have hwritten : o ∈ x.written := List.mem_of_mem_head? hlast
        obtain ⟨-, hchannels⟩ := commands_follow_passwords config net as
        exact ⟨x, hmem, o, hlast, hn, (hchannels x hmem o hwritten).2⟩
      · cases ho

def answersLate : Network where
  up := true
  servers := [{
    kind := .stream
    port := 7
    script := [[],
      [.send (Packet.pack ⟨-1, .authResponse, ""⟩) none,
        .send (Packet.pack ⟨101, .authResponse, ""⟩) none]] }]

/-- The first password is sent and gets no answer in time; then the second one is sent. -/
def twoPasswords : List (Act client) :=
  [.start (.authenticate home "old"), .task .worker, .task (.write 0), .turn, .task (.write 0),
    .task (.attend (.connection 0)), .task (.timer 1), .clock (.ofMillis 6000), .task (.timer 1),
    .task (.call 0), .start (.authenticate home "new"), .task .worker, .task (.write 1), .turn,
    .task (.write 1), .task (.attend (.connection 0))]

/-- Here the server rejects the first password too late and accepts the second one, and the client
takes the second one for rejected. -/
theorem late_rejection_hits_second_password :
    let w := (launch { mode := .synchronous } answersLate).perform twoPasswords
    result? w 0 = some (.authenticated
        (.error (.readTimeout ⟨"AUTH:127.0.0.1:7:100"⟩ ⟨.ofMillis 6000⟩))) ∧
      (w.transport.board.messages 0).map (fun x ↦ (Packet.unpack x.2).toOption.map Packet.id) =
        [some (-1), some 101] ∧
      result? (w.perform [.task (.reader 0), .task (.call 1)]) 1 = some (.authenticated (.ok false)) := by
  decide +kernel

end GameServers.Console
