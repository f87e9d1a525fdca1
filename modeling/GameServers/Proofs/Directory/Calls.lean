import GameServers.Directory.Calls
import GameServers.Proofs.Client.Course
import GameServers.Proofs.Directory.Pages

namespace GameServers.Directory

open World (Act)

def Expects (p : Pending) (q : Request) : Prop := q = p.request

/-- Where a call stands with its listing. -/
def Pending.turn (p : Pending) : Listing.Next → Turn protocol Pending Result
  | .ask l => .ask { p with listing := l }.request { p with listing := l }
  | .done found => .answer ⟨.ok found, found⟩

variable {p : Pending} {s : ClientState}

theorem turn_next (events : List (Event protocol)) (n : Listing.Next) :
    (p.next s events n).turn = p.turn n := by
  cases n <;> rfl

theorem turn_onTimeout (e : Failure) :
    (p.onTimeout s e).turn = p.turn (p.listing.onTimeout s.retries) := by
  unfold Pending.onTimeout
  split
  · next l h => rw [h, turn_next]
  · next found h => rw [h, turn_next]

theorem turn_resume_ok (r : Response) :
    (p.resume (.ok r) s).turn = p.turn (p.listing.onPage r.servers) := turn_next _ _

theorem turn_resume_timeout (id : SessionId) (elapsed : Duration) :
    (p.resume (.error (.readTimeout id elapsed)) s).turn =
      p.turn (p.listing.onTimeout s.retries) := turn_onTimeout _

theorem resume_error {e : Failure} (he : ∀ id elapsed, e ≠ .readTimeout id elapsed) :
    p.resume (.error e) s = { state := s, turn := .answer ⟨.error e, p.listing.found⟩ } := by
  unfold Pending.resume
  split
  · next h => cases h
  · next id elapsed h => exact absurd (Except.error.inj h) (he id elapsed)
  · next e' _ h => rw [Except.error.inj h]

theorem resume_cases (o : Outcome protocol) : (∃ r, o = .ok r) ∨
    (∃ id elapsed, o = .error (.readTimeout id elapsed)) ∨
    ∃ e, o = .error e ∧
      p.resume o s = { state := s, turn := .answer ⟨.error e, p.listing.found⟩ } := by
  cases o with
  | ok r => exact .inl ⟨r, rfl⟩
  | error e =>
    by_cases he : ∃ id elapsed, e = .readTimeout id elapsed
    · obtain ⟨id, elapsed, rfl⟩ := he
      exact .inr (.inl ⟨id, elapsed, rfl⟩)
    · exact .inr (.inr ⟨e, rfl, resume_error fun id elapsed h ↦ he ⟨id, elapsed, h⟩⟩)

theorem turn_move_cases (x : Resumption client) :
    (∃ r, x.outcome = .ok r ∧
      x.move.turn = x.pending.turn (x.pending.listing.onPage r.servers)) ∨
    (∃ id elapsed, x.outcome = .error (.readTimeout id elapsed) ∧
      x.move.turn = x.pending.turn (x.pending.listing.onTimeout x.state.retries)) ∨
    ∃ e, x.outcome = .error e ∧ x.move.turn = .answer ⟨.error e, x.pending.listing.found⟩ := by
  obtain ⟨p, o, s⟩ := x
  rcases resume_cases (p := p) (s := s) o with ⟨r, rfl⟩ | ⟨id, elapsed, rfl⟩ | ⟨e, rfl, he⟩
  · exact .inl ⟨r, rfl, turn_resume_ok r⟩
  · exact .inr (.inl ⟨id, elapsed, rfl, turn_resume_timeout id elapsed⟩)
  · exact .inr (.inr ⟨e, rfl, congrArg Move.turn he⟩)

theorem turn_begin {net : Network} {call : Call} {master : SocketAddress}
    (h : locate net call.source = .ok master) :
    ∃ p : Pending, p.master = master ∧ p.listing = {} ∧
      (begin net call s).turn = .ask p.request p := by
  unfold begin
  rw [h]
  exact ⟨⟨master, call.region, call.filter, {}⟩, rfl, rfl, rfl⟩

theorem client_asksFor : client.AsksFor Expects where
  begin {net call s q p} h := by
    cases hl : locate net call.source with
    | error e =>
      simp only [begin, hl] at h
      cases h
    | ok master =>
      obtain ⟨p', -, -, hp⟩ := turn_begin (s := s) hl
      rw [hp] at h
      injection h with hq hp
      rw [← hq, ← hp]
      rfl
  resume {p o s q p'} h := by
    have hturn (n : Listing.Next) (h : p.turn n = .ask q p') : Expects p' q := by
      cases n with
      | ask l =>
        injection h with hq hp
        rw [← hq, ← hp]
        rfl
      | done => cases h
    rcases resume_cases (p := p) (s := s) o with ⟨r, rfl⟩ | ⟨id, elapsed, rfl⟩ | ⟨e, -, he⟩
    · exact hturn _ ((turn_resume_ok r).symm.trans h)
    · exact hturn _ ((turn_resume_timeout id elapsed).symm.trans h)
    · cases (congrArg Move.turn he).symm.trans h

theorem client_maintains (retries : Nat) : client.Maintains (·.retries = retries) where
  begin {net call s} h := by
    change (begin net call s).state.retries = retries
    unfold begin
    split <;> exact h
  resume {p o s} h := by
    have hnext (events : List (Event protocol)) (n : Listing.Next) :
        (p.next s events n).state.retries = retries := by
      cases n <;> exact h
    change (p.resume o s).state.retries = retries
    unfold Pending.resume
    split
    · exact hnext _ _
    · unfold Pending.onTimeout
      split <;> exact hnext _ _
    · exact h
  forget h := h

/-- The servers that are reported, in order. -/
def heard (events : List (Event protocol)) : List Endpoint :=
  events.filterMap fun e ↦ match e with
    | .heard server => some server
    | _ => none

def heardIn (i : Nat) (w : World client) (as : List (Act client)) : List Endpoint :=
  (World.resumptions i w as).flatMap fun x ↦ heard x.move.events

def foundAt : Turn protocol Pending Result → List Endpoint
  | .ask _ p => p.listing.found
  | .answer result => result.found

theorem heard_append (as bs : List (Event protocol)) : heard (as ++ bs) = heard as ++ heard bs :=
  List.filterMap_append

theorem heard_next (events : List (Event protocol)) (n : Listing.Next) :
    heard (p.next s events n).events = heard events := by
  have hremark (text : String) : heard [.remark .debug text] = [] := rfl
  cases n with
  | ask l => exact (heard_append _ _).trans (by rw [Pending.asking, hremark, List.append_nil])
  | done f => exact (heard_append _ _).trans (by rw [Pending.summary, hremark, List.append_nil])

theorem heard_map (servers : List Endpoint) : heard (servers.map .heard) = servers := by
  induction servers with
  | nil => rfl
  | cons e es ih => exact congrArg (e :: ·) ih

theorem foundAt_turn (n : Listing.Next) : foundAt (p.turn n) = n.found := by
  cases n <;> rfl

theorem foundAt_resume (o : Outcome protocol) :
    foundAt (p.resume o s).turn = p.listing.found ++ heard (p.resume o s).events := by
  rcases resume_cases (p := p) (s := s) o with ⟨r, rfl⟩ | ⟨id, elapsed, rfl⟩ | ⟨e, rfl, he⟩
  · have hh : heard (p.resume (.ok r) s).events = p.listing.fresh r.servers :=
      (heard_next _ _).trans (heard_map _)
    rw [turn_resume_ok, foundAt_turn, Listing.found_onPage, hh]
  · have hh : heard (p.onTimeout s (.readTimeout id elapsed)).events = [] := by
      unfold Pending.onTimeout
      split <;> exact (heard_next _ _).trans rfl
    rw [turn_resume_timeout, foundAt_turn, Listing.found_onTimeout]
    exact (List.append_nil _).symm.trans (congrArg (p.listing.found ++ ·) hh.symm)
  · rw [he]
    exact (List.append_nil _).symm

variable {G : Request → Response → Prop} {first turn : Turn protocol Pending Result}
  {xs : List (Resumption client)}

/-- In its course a call finds what its caller hears of. -/
theorem foundAt_course (h : client.Course G first xs turn) :
    foundAt turn = foundAt first ++ xs.flatMap fun x ↦ heard x.move.events := by
  induction h with
  | begun => exact (List.append_nil _).symm
  | goOn x h hx ih =>
    have ih : x.pending.listing.found = _ := ih
    rw [List.flatMap_append, ← List.append_assoc, ← ih, List.flatMap_singleton]
    exact foundAt_resume x.outcome

/-- A call asks one directory for the page that it needs next, and returns what it has found. -/
def BelongsTo (master : SocketAddress) : Turn protocol Pending Result → Prop
  | .ask q p => q = p.request ∧ p.master = master
  | .answer result => ∀ servers, result.servers = .ok servers → servers = result.found

theorem belongsTo_turn {master : SocketAddress} (hp : p.master = master) (n : Listing.Next) :
    BelongsTo master (p.turn n) := by
  cases n with
  | ask l => exact ⟨rfl, hp⟩
  | done found =>
    intro servers h
    exact (Except.ok.inj h).symm

theorem belongsTo_course {master : SocketAddress} (h : client.Course G first xs turn)
    (hf : BelongsTo master first) : BelongsTo master turn := by
  induction h with
  | begun => exact hf
  | goOn x h hx ih =>
    have hm : x.pending.master = master := ih.2
    rcases turn_move_cases x with ⟨r, -, ht⟩ | ⟨id, elapsed, -, ht⟩ | ⟨e, -, ht⟩
    · rw [ht]
      exact belongsTo_turn hm _
    · rw [ht]
      exact belongsTo_turn hm _
    · rw [ht]
      intro servers hs
      cases hs

theorem launch_answering (config : Config) (retries : Nat) (net : Network) :
    World.Answering Expects G (launch config retries net) :=
  .of_make rfl rfl (by rfl)

theorem listing_course {config : Config} {retries : Nat} {net : Network} {before after : List (Act client)}
    {call : Call} {master : SocketAddress}
    (hm : locate ((launch config retries net).perform before).net call.source = .ok master)
    (hin : World.InTime G (launch config retries net) (before ++ .start call :: after)) :
    let w := (launch config retries net).perform before
    ∃ p turn, p.master = master ∧ p.listing = {} ∧
      (client.begin w.net call w.state).turn = .ask p.request p ∧
      client.Course G (.ask p.request p)
        (World.resumptions w.calls.length (w.act (.start call)) after) turn ∧
      ((launch config retries net).perform (before ++ .start call :: after)).Shows w.calls.length
        turn ∧
      foundAt turn = heardIn w.calls.length (w.act (.start call)) after := by
  intro w
  obtain ⟨hbefore, hafter⟩ := (World.eachArrival_append before _).1 hin
  have hw : World.Answering Expects G w :=
    (launch_answering config retries net).perform client_asksFor tellsApart hbefore
  obtain ⟨turn, hcourse, hshows⟩ := World.call_course client_asksFor tellsApart hw call hafter
  obtain ⟨p, hp, hl, hturn⟩ := turn_begin (s := w.state) hm
  have hbegin : (client.begin w.net call w.state).turn = .ask p.request p := hturn
  rw [hbegin] at hcourse
  have hnone : foundAt (.ask p.request p) = [] := congrArg Listing.found hl
  refine ⟨p, turn, hp, hl, hbegin, hcourse, ?_, ?_⟩
  · rw [World.perform, List.foldl_append]
    exact hshows
  · rw [foundAt_course hcourse, hnone]
    rfl

end GameServers.Directory
