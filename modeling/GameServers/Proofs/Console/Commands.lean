import GameServers.Console.Calls
import GameServers.Proofs.Client.Requests

namespace GameServers.Console

open World (Act)

/-- A call waits for the answer to a request of its own kind, to its own server. -/
def Expects : Pending → Request → Prop
  | .authenticate server, q => q.kind = .auth ∧ q.server = server
  | .execute, q => q.kind = .command

variable {s : ClientState} {server : SocketAddress}

theorem request?_resume (p : Pending) (o : Outcome protocol) (s : ClientState) :
    (Call.resume p o s).turn.request? = none := by
  unfold Call.resume
  split <;> rfl

theorem client_asksFor : client.AsksFor Expects where
  begin {net call s q p} h := by
    cases call with
    | authenticate server password =>
      injection h with hq hp
      rw [← hq, ← hp]
      exact ⟨rfl, rfl⟩
    | execute server line =>
      simp only [Call.begin] at h
      split at h
      · injection h with hq hp
        rw [← hq, ← hp]
        rfl
      · cases h
    | isAuthenticated server => cases h
  resume {p o s q p'} h := by
    have hnone := request?_resume p o s
    rw [show (Call.resume p o s).turn = .ask q p' from h] at hnone
    cases hnone

theorem isAuthenticated_of_begin {call : Call} {q : Request}
    (h : (call.begin s).turn.request? = some q) (hq : q.kind = .command) :
    s.isAuthenticated q.server = true := by
  cases call with
  | authenticate server password =>
    obtain rfl := Option.some.inj h
    cases hq
  | execute server line =>
    simp only [Call.begin] at h
    split at h
    · next hs =>
      obtain rfl := Option.some.inj h
      exact hs
    · cases h
  | isAuthenticated server => cases h

theorem authenticated_begin (call : Call) (s : ClientState) :
    (call.begin s).state.authenticated = s.authenticated := by
  cases call with
  | authenticate | isAuthenticated => rfl
  | execute server line =>
    simp only [Call.begin]
    split <;> rfl

theorem mem_authenticated_resume {p : Pending} {o : Outcome protocol}
    (h : server ∈ (Call.resume p o s).state.authenticated) :
    server ∈ s.authenticated ∨ p = .authenticate server ∧ ∃ r, o = .ok r := by
  unfold Call.resume at h
  split at h
  · rcases List.mem_cons.1 h with rfl | h
    · exact .inr ⟨rfl, _, rfl⟩
    · exact .inl h
  · exact .inl (List.mem_filter.1 h).1
  · exact .inl h
  · exact .inl h
  · exact .inl h

/-- A server has taken a password of the client. -/
def TookPassword (w : World client) (server : SocketAddress) : Prop :=
  ∃ (q : Request) (r : Response), (q, some r) ∈ w.courier.ledger ∧ q.kind = .auth ∧ q.server = server

/-- The client remembers and commands only servers that have taken a password. -/
structure Gated (w : World client) : Prop extends World.Asking Expects w where
  allHeard : w.AllHeard
  remembered : ∀ server ∈ w.state.authenticated, TookPassword w server
  commanded : ∀ q ∈ w.requests, (q : Request).kind = .command → TookPassword w (q : Request).server
  addressed : w.transport.Addressed (· ∈ w.requests)

namespace Gated

variable {w : World client} {a : Act client}

theorem tookPassword_act (h : Gated w) (ht : TookPassword w server) :
    TookPassword (w.act a) server := by
  obtain ⟨q, r, hq, hk, hs⟩ := ht
  exact ⟨q, r, (World.lets_act h.toAsking h.allHeard a).runs.mem_ledger h.sound hq, hk, hs⟩

theorem tookPassword_of_resumption (h : Gated w) {i : Nat} {x : Resumption client} {r : Response}
    (hx : w.resumption? i a = some x) (hp : x.pending = .authenticate server)
    (ho : x.outcome = .ok r) : TookPassword w server := by
  obtain ⟨-, -, ticket, hi, hout⟩ := World.resumption?_eq_some hx
  cases ticket with
  | error e =>
    rw [ho] at hout
    cases hout
  | ok n =>
    rw [ho] at hout
    obtain ⟨t, ht, hmem⟩ := Courier.AnsweredBy.of_outcome? (m := w.courier)
      (G := fun q r ↦ (q, some r) ∈ w.courier.ledger) (fun _ _ hq ↦ hq) hout
    obtain ⟨t', ht', he⟩ := h.asked hi
    obtain rfl : t = t' := Option.some.inj (ht.symm.trans ht')
    rw [hp] at he
    exact ⟨t.request, r, hmem, he⟩

theorem act (h : Gated w) (a : Act client) : Gated (w.act a) where
  toAsking := h.toAsking.act client_asksFor a
  allHeard := h.allHeard.act a
  remembered server hs := by
    apply h.tookPassword_act
    rcases w.state_act a with he | ⟨-, he⟩ | ⟨call, -, he⟩ | ⟨i, x, hx, he⟩
    · exact h.remembered server (he ▸ hs)
    · rw [he] at hs
      cases hs
    · rw [he] at hs
      exact h.remembered server (authenticated_begin call w.state ▸ hs)
    · rw [he] at hs
      rcases mem_authenticated_resume hs with hs | ⟨hp, r, ho⟩
      · rw [(World.resumption?_eq_some hx).2.1] at hs
        exact h.remembered server hs
      · exact h.tookPassword_of_resumption hx hp ho
  commanded q hq hk := by
    apply h.tookPassword_act
    rcases World.mem_requests_act h.toAsking h.allHeard hq with hq | hq
    · exact h.commanded q hq hk
    · -- Only a call that begins asks for anything.
      cases a with
      | start call =>
        exact h.remembered _ (by simpa [ClientState.isAuthenticated] using isAuthenticated_of_begin hq hk)
      | task t =>
        cases t with
        | call i =>
          obtain ⟨x, -, hx⟩ := Option.bind_eq_some_iff.1 hq
          cases (request?_resume x.pending x.outcome x.state).symm.trans hx
        | _ => cases hq
      | _ => cases hq
  addressed := by
    have hr := (World.lets_act h.toAsking h.allHeard a).runs
    exact (World.addressed_act h.addressed (fun _ hq ↦ hq) a).mono fun _ hq ↦
      hr.mem_requests h.sound hq

theorem perform (h : Gated w) (as : List (Act client)) : Gated (w.perform as) := by
  induction as generalizing w with
  | nil => exact h
  | cons a as ih => exact ih (h.act a)

end Gated

theorem launch_gated (config : Config) (net : Network) : Gated (launch config net) where
  toAsking := .of_make rfl rfl
  allHeard := by rfl
  remembered _ h := by cases h
  commanded _ h := by cases h
  addressed := {
    links := fun _ h ↦ by cases h
    errands := fun _ h ↦ by cases h
    kept := ⟨{}, rfl, fun _ h ↦ by cases h⟩ }

/-- In every run, whatever servers do to their connections: a command is only made for a server that
has taken a password, and is only written on connections to that server. -/
theorem commands_follow_passwords (config : Config) (net : Network) (as : List (Act client)) :
    let w := (launch config net).perform as
    (∀ q ∈ w.requests, (q : Request).kind = .command → TookPassword w (q : Request).server) ∧
      ∀ x ∈ w.transport.board.channels, ∀ o ∈ x.written, o.request ∈ w.requests ∧
        x.peer = some (o.request : Request).server := by
  intro w
  have hw := (launch_gated config net).perform as
  refine ⟨hw.commanded, fun x hx o ho ↦ ?_⟩
  have hl : x.link ∈ w.transport.board.links := List.mem_map_of_mem hx
  obtain ⟨hmem, server, hq, hp⟩ := hw.addressed.links x.link hl o ho
  obtain rfl : (o.request : Request).server = server := Option.some.inj hq
  exact ⟨hmem, hp⟩

/-- The kinds of the requests that were written on each connection. -/
def writtenKinds (w : World client) : List (List Kind) :=
  w.transport.board.channels.map fun x ↦ x.written.map fun o ↦ (o.request : Request).kind

def hangsUp : Network where
  up := true
  servers := [{
    kind := .stream
    port := 7
    script := [[.send (Packet.pack ⟨100, .authResponse, ""⟩) none, .close]] }]

def home : SocketAddress := .v4 ⟨127, 0, 0, 1⟩ 7

def commandAfterHangUp : List (Act client) :=
  [.start (.authenticate home "password"), .task .worker, .task (.write 0), .turn, .task (.write 0),
    .task (.attend (.connection 0)), .task (.reader 0), .task (.call 0),
    .start (.execute home "status"), .task .worker, .task (.write 1), .turn, .task (.write 1)]

/-- Here the connection over which the password was taken is gone, and the command is written on
another one, on which no password was sent. -/
theorem command_on_fresh_connection :
    let w := (launch {} hangsUp).perform commandAfterHangUp
    w.state.isAuthenticated home = true ∧ writtenKinds w = [[.auth], [.command]] := by
  decide +kernel

end GameServers.Console
