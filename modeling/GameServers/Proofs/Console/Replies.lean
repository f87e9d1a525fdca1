import GameServers.Proofs.Console.Ids

namespace GameServers.Console

open World (Act gather)

variable {w : World client} {config : Config} {net : Network}

def packets (w : World client) : Act client → List (SocketAddress × Packet)
  | .signal (.delivery (.ok r)) => [((r : Response).server, (r : Response).packet)]
  | .task (.reader r) => (w.transport.board.messages r).filterMap fun x ↦
    (Packet.unpack x.2).toOption.map (x.1, ·)
  | _ => []

theorem unpack_of_decode {frame : Bytes} {server : SocketAddress} {r : Response}
    (h : decode frame server = .ok r) : r.server = server ∧ Packet.unpack frame = .ok r.packet := by
  unfold decode at h
  cases hu : Packet.unpack frame with
  | error e =>
    rw [hu] at h
    cases h
  | ok p =>
    rw [hu] at h
    simp only [bind, Except.bind, pure, Except.pure] at h
    split at h
    · cases h
    · cases h
      exact ⟨rfl, rfl⟩

theorem mem_packets_of_arrivals (hs : w.AllHeard) {a : Act client} {r : Response}
    (h : r ∈ w.arrivals a) : (r.server, r.packet) ∈ packets w a := by
  cases a with
  | task t =>
    cases t with
    | reader n =>
      obtain ⟨x, hx, hr⟩ := Switchboard.mem_responses_runReader hs h
      obtain ⟨hserver, hunpack⟩ := unpack_of_decode hr
      refine List.mem_filterMap.2 ⟨x, hx, ?_⟩
      rw [hunpack, hserver]
      rfl
    | _ => cases h
  | signal s =>
    cases s with
    | delivery x =>
      cases x with
      | ok r' =>
        rw [List.mem_singleton.1 h]
        exact .head _
      | error e => cases h
    | report e => cases h
  | _ => cases h

theorem mem_gather_packets {as : List (Act client)} (hs : w.AllHeard) {r : Response}
    (h : r ∈ gather World.arrivals w as) : (r.server, r.packet) ∈ gather packets w as := by
  obtain ⟨before, a, after, rfl, hr⟩ := World.mem_gather.1 h
  exact World.mem_gather.2 ⟨before, a, after, rfl, mem_packets_of_arrivals (hs.perform before) hr⟩

/-- A packet has come from the address and port of a server. -/
def CameFrom (server : SocketAddress) (p : Packet) (came : List (SocketAddress × Packet)) : Prop :=
  ∃ sender, (sender, p) ∈ came ∧ sender.ip = server.ip ∧ sender.port = server.port

theorem type_of_answers {q : Request} {r : Response} (h : Answers protocol q r) :
    r.packet.type = .authResponse ↔ q.kind = .auth := by
  have hk : protocol.answerKind? q.kind = some r.kind := h.kind
  have hr : r.kind = .auth ↔ r.packet.type = .authResponse := by
    unfold Response.kind
    cases r.packet.type <;> simp
  rw [← hr]
  cases hq : q.kind with
  | auth =>
    rw [hq] at hk
    exact ⟨fun _ ↦ rfl, fun _ ↦ (Option.some.inj hk).symm⟩
  | command =>
    rw [hq] at hk
    rw [← Option.some.inj hk]

theorem cameFrom_of_answers {q : Request} {r : Response} {came : List (SocketAddress × Packet)}
    (h : Answers protocol q r) (hr : (r.server, r.packet) ∈ came) : CameFrom q.server r.packet came := by
  obtain ⟨a, b, ha, hb, hip, hport⟩ := h.address
  obtain rfl := Option.some.inj ha
  obtain rfl := Option.some.inj hb
  exact ⟨r.server, hr, hip.symm, hport.symm⟩

theorem outcome_of_output {p : Pending} {o : Outcome protocol} {s : ClientState} {body : String}
    (h : (Call.resume p o s).turn = .answer (.output (.ok body))) :
    ∃ r : Response, o = .ok r ∧ r.packet.body = body := by
  unfold Call.resume at h
  split at h
  · cases h
  · cases h
  · cases h
  · next r =>
    cases h
    exact ⟨r, rfl, rfl⟩
  · cases h

theorem outcome_of_authenticated {p : Pending} {o : Outcome protocol} {s : ClientState}
    (h : (Call.resume p o s).turn = .answer (.authenticated (.ok true))) : ∃ r, o = .ok r := by
  unfold Call.resume at h
  split at h
  · exact ⟨_, rfl⟩
  · cases h
  · cases h
  · cases h
  · cases h

theorem turn_begin_execute (server : SocketAddress) (line : String) (s : ClientState) :
    (Call.begin (.execute server line) s).turn = .ask (.command server s.nextId line) .execute ∨
      (Call.begin (.execute server line) s).turn =
        .answer (.output (.error (.notAuthenticated server))) := by
  simp only [Call.begin]
  split
  · exact .inl rfl
  · exact .inr rfl

theorem ask_of_execute {server : SocketAddress} {line : String} {s : ClientState} {q : Request}
    {p : Pending} (h : (Call.begin (.execute server line) s).turn = .ask q p) :
    q = .command server s.nextId line := by
  rcases turn_begin_execute server line s with hb | hb
  · exact (Turn.ask.inj (h.symm.trans hb)).1
  · cases h.symm.trans hb

theorem course_cases {G : Request → Response → Prop} {first turn : Turn protocol Pending Result}
    {xs : List (Resumption client)} (h : client.Course G first xs turn) :
    (xs = [] ∧ turn = first) ∨ ∃ q x, first = .ask q x.pending ∧ xs = [x] ∧ turn = x.move.turn ∧
      ∀ r, x.outcome = .ok r → G q r := by
  induction h with
  | begun => exact .inl ⟨rfl, rfl⟩
  | goOn x h hx ih =>
    rcases ih with ⟨rfl, hfirst⟩ | ⟨q', x', -, -, hturn, -⟩
    · exact .inr ⟨_, x, hfirst.symm, rfl, rfl, hx⟩
    · have hnone : x'.move.turn.request? = none := request?_resume x'.pending x'.outcome x'.state
      rw [← hturn] at hnone
      cases hnone

/-- What answers a request: a packet with the id that was given out for it, of the right type, from
its server. -/
structure Replies (q : Request) (r : Response) (came : List (SocketAddress × Packet)) : Prop where
  id : r.packet.id = q.packet.id
  type : r.packet.type = .authResponse ↔ q.kind = .auth
  came : CameFrom q.server r.packet came

theorem replies_of_answers {q : Request} {r : Response} {came : List (SocketAddress × Packet)}
    (h : Answers protocol q r) (hr : (r.server, r.packet) ∈ came) : Replies q r came where
  id := (Option.some.inj h.number).symm
  type := type_of_answers h
  came := cameFrom_of_answers h hr

/-- What a call has come to: it is as it began, or has gone on once, and if it did so with a
response, then with one that replies to its own request and has come since. -/
theorem call_cases {before after : List (Act client)} {call : Call}
    (h : (ids (launch config net) (before ++ .start call :: after)).length ≤ 2 ^ 32) :
    let w := (launch config net).perform before
    let later := w.act (.start call)
    let first := (client.begin w.net call w.state).turn
    let xs := World.resumptions w.calls.length later after
    ∃ turn, (later.perform after).Shows w.calls.length turn ∧ ((xs = [] ∧ turn = first) ∨
      ∃ q x, first = .ask q x.pending ∧ xs = [x] ∧ turn = x.move.turn ∧
        ∀ r, x.outcome = .ok r → (r.server, r.packet) ∈ gather packets later after ∧
          Replies q r (gather packets later after)) := by
  intro w later first xs
  let G (q : Request) (r : Response) : Prop := q.packet.id ∈ (allotments w (.start call)).map Prod.snd →
    Answers protocol q r ∧ r ∈ gather World.arrivals w (.start call :: after)
  have hw : World.Answering Expects G w := by
    refine ⟨launch_asking config net before, launch_allHeard config net before, fun q r hq hid ↦ ?_⟩
    -- Nothing that was asked before has the id of this call.
    have hold : q.packet.id ∈ ids (launch config net) before := id_mem_ids (List.mem_map_of_mem hq)
    have hnew : q.packet.id ∈ ids w (.start call :: after) := by
      rw [ids, gather, List.map_append]
      exact List.mem_append_left _ hid
    have hids := nodup_ids h
    rw [ids_append] at hids
    exact absurd rfl ((List.nodup_append.1 hids).2.2 _ hold _ hnew)
  have hin : World.InTime G w (.start call :: after) :=
    (World.eachArrival_gather w _).mono fun _ r hr q _ ha _ ↦ ⟨ha, hr⟩
  obtain ⟨turn, hcourse, hshows⟩ := World.call_course client_asksFor tellsApart hw call hin
  refine ⟨turn, hshows, (course_cases hcourse).imp id ?_⟩
  rintro ⟨q, x, hfirst, hxs, hturn, hG⟩
  refine ⟨q, x, hfirst, hxs, hturn, fun r hr ↦ ?_⟩
  obtain ⟨ha, hmem⟩ := hG r hr (mem_allotments_of_asked (congrArg Turn.request? hfirst))
  have hcame : (r.server, r.packet) ∈ gather packets later after :=
    mem_gather_packets ((launch_allHeard config net before).act (.start call)) hmem
  exact ⟨hcame, replies_of_answers ha hcame⟩

/-- In every run with no more requests than there are ids: no id is given out twice. A command
returns only the body of a packet, and a password is accepted only by the answer to a password, that
has come since then from the address and port of the server with the id of the call. And what takes
a call further carries the id of no other call. -/
theorem replies_reach_their_callers (config : Config) (net : Network) (as : List (Act client))
    (h : (ids (launch config net) as).length ≤ 2 ^ 32) :
    (ids (launch config net) as).Nodup ∧
      ∀ before call after, as = before ++ .start call :: after →
        let w := (launch config net).perform before
        let i := w.calls.length
        let later := w.act (.start call)
        (∀ server line body, call = .execute server line →
          (later.perform after).calls[i]? = some (.over (.output (.ok body))) →
            ∃ p : Packet, (i, p.id) ∈ allotments w (.start call) ∧ p.body = body ∧
              p.type ≠ .authResponse ∧ CameFrom server p (gather packets later after)) ∧
        (∀ server password, call = .authenticate server password →
          (later.perform after).calls[i]? = some (.over (.authenticated (.ok true))) →
            ∃ p : Packet, (i, p.id) ∈ allotments w (.start call) ∧
              p.type = .authResponse ∧ CameFrom server p (gather packets later after)) ∧
        ∀ x ∈ World.resumptions i later after, ∀ r : Response, x.outcome = .ok r →
          (r.server, r.packet) ∈ gather packets later after ∧
            ∀ j, (j, r.packet.id) ∈ gather allotments (launch config net) as → j = i := by
  refine ⟨nodup_ids h, fun before call after has ↦ ?_⟩
  subst has
  intro w i later
  obtain ⟨turn, hshows, hcases⟩ := call_cases h
  refine ⟨?_, ?_, ?_⟩
  · rintro server line body rfl hr
    have hturn := hshows.eq_answer hr
    rcases hcases with ⟨-, hfirst⟩ | ⟨q, x, hask, -, hx, hreply⟩
    · rcases turn_begin_execute server line w.state with hb | hb
      · cases (hturn.symm.trans hfirst).trans hb
      · cases (hturn.symm.trans hfirst).trans hb
    · obtain ⟨r, ho, hbody⟩ := outcome_of_output (hx.symm.trans hturn)
      obtain ⟨-, hq⟩ := hreply r ho
      obtain rfl := ask_of_execute hask
      have hkind : r.packet.type ≠ .authResponse := by
        intro ht
        cases hq.type.1 ht
      exact ⟨r.packet, hq.id ▸ mem_allotments_of_ask hask, hbody, hkind, hq.came⟩
  · rintro server password rfl hr
    have hturn := hshows.eq_answer hr
    rcases hcases with ⟨-, hfirst⟩ | ⟨q, x, hask, -, hx, hreply⟩
    · cases hturn.symm.trans hfirst
    · obtain ⟨r, ho⟩ := outcome_of_authenticated (hx.symm.trans hturn)
      obtain ⟨-, hq⟩ := hreply r ho
      obtain ⟨rfl, -⟩ := Turn.ask.inj hask
      exact ⟨r.packet, hq.id ▸ mem_allotments_of_ask hask, hq.type.2 rfl, hq.came⟩
  · intro x hx r ho
    rcases hcases with ⟨hxs, -⟩ | ⟨q, x', hask, hxs, -, hreply⟩
    · rw [hxs] at hx
      cases hx
    · rw [hxs] at hx
      obtain rfl := List.mem_singleton.1 hx
      obtain ⟨hcame, hq⟩ := hreply r ho
      have hi : (i, r.packet.id) ∈ allotments w (.start call) := hq.id ▸ mem_allotments_of_ask hask
      exact ⟨hcame, fun j ↦ eq_of_mem_allotments h
        (World.mem_gather.2 ⟨before, .start call, after, rfl, hi⟩)⟩

/-- A server that says something before it takes the password. -/
def greetsFirst : Network where
  up := true
  servers := [{
    kind := .stream
    port := 7
    script := [
      [.send (Packet.pack ⟨100, .response, ""⟩) none,
        .send (Packet.pack ⟨100, .authResponse, ""⟩) none]] }]

def passwordSent : List (Act client) :=
  [.task .worker, .task (.write 0), .turn, .task (.write 0), .task (.attend (.connection 0)),
    .task (.reader 0), .task (.call 0)]

def away : SocketAddress := .v6 ⟨0, 0, 0, 0, 0, 0, 0, 1⟩ 1 0 0

def hearing (p : Packet) : Act client := .signal (.delivery (.ok (⟨away, p⟩ : Response)))

def passwordTaken : List (Act client) :=
  [.start (.authenticate away "password"), .task .worker, hearing ⟨100, .authResponse, ""⟩,
    .task (.call 0)]

def commandSent : List (Act client) :=
  [.task .worker, hearing ⟨100, .authResponse, ""⟩, hearing ⟨100, .response, "stale"⟩,
    hearing ⟨101, .response, "up"⟩, .task (.call 1)]

deriving instance DecidableEq for Result

def result? (w : World client) (i : Nat) : Option Result :=
  match w.calls[i]? with
  | some (.over result) => some result
  | _ => none

theorem over_of_result? {i : Nat} {result : Result} (h : result? w i = some result) :
    w.calls[i]? = some (.over result) := by
  unfold result? at h
  split at h
  · next hi => rw [hi, Option.some.inj h]
  · cases h

theorem own_replies_among_others :
    let start : Act client := .start (.authenticate home "password")
    let sent := (launch {} greetsFirst).act start
    let w := (launch {} greetsFirst).perform passwordTaken
    let command : Act client := .start (.execute away "status")
    ((ids (launch {} greetsFirst) (start :: passwordSent)).length ≤ 2 ^ 32 ∧
      (sent.perform passwordSent).calls[0]? = some (.over (.authenticated (.ok true))) ∧
        ∃ p : Packet, (0, p.id) ∈ allotments (launch {} greetsFirst) start ∧
          p.type = .authResponse ∧ CameFrom home p (gather packets sent passwordSent)) ∧
    (ids (launch {} greetsFirst) (passwordTaken ++ command :: commandSent)).length ≤ 2 ^ 32 ∧
      ((w.act command).perform commandSent).calls[1]? = some (.over (.output (.ok "up"))) ∧
        ∃ p : Packet, (1, p.id) ∈ allotments w command ∧ p.body = "up" ∧ p.type ≠ .authResponse ∧
          CameFrom away p (gather packets (w.act command) commandSent) := by
  intro start sent w command
  have hstart : (ids (launch {} greetsFirst) (start :: passwordSent)).length ≤ 2 ^ 32 := by
    decide +kernel
  have hcommand : (ids (launch {} greetsFirst) (passwordTaken ++ command :: commandSent)).length ≤
      2 ^ 32 := by decide +kernel
  have htrue : result? (sent.perform passwordSent) 0 = some (.authenticated (.ok true)) := by
    decide +kernel
  have hup : result? ((w.act command).perform commandSent) 1 = some (.output (.ok "up")) := by
    decide +kernel
  obtain ⟨-, hpassword, -⟩ := (replies_reach_their_callers {} greetsFirst _ hstart).2 [] _ _ rfl
  obtain ⟨hexecute, -, -⟩ :=
    (replies_reach_their_callers {} greetsFirst _ hcommand).2 passwordTaken _ _ rfl
  have hone : ((launch {} greetsFirst).perform passwordTaken).calls.length = 1 := by decide +kernel
  rw [hone] at hexecute
  exact ⟨⟨hstart, over_of_result? htrue, hpassword home "password" rfl (over_of_result? htrue)⟩,
    hcommand, over_of_result? hup, hexecute away "status" "up" rfl (over_of_result? hup)⟩

end GameServers.Console
