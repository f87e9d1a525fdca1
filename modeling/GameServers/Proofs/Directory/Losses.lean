import GameServers.Proofs.Client.Rounds
import GameServers.Proofs.Directory.Calls
import Mathlib.Data.List.Induction
import Mathlib.Data.List.Infix

namespace GameServers.Directory

open World (Act)

/-- More answers in a row were lost than a call puts up with. -/
def GivesUp (retries : Nat) (answered : List Bool) : Prop :=
  List.replicate (retries + 1) false <:+: answered

def lostLately (answered : List Bool) : Nat := (answered.reverse.takeWhile (!·)).length

variable {retries k : Nat} {bs : List Bool}

instance : Decidable (GivesUp retries bs) := inferInstanceAs (Decidable (_ <:+: _))

theorem lostLately_answer (bs : List Bool) : lostLately (bs ++ [true]) = 0 := by
  simp [lostLately]

theorem lostLately_loss (bs : List Bool) : lostLately (bs ++ [false]) = lostLately bs + 1 := by
  simp [lostLately]

theorem replicate_suffix_iff : List.replicate k false <:+ bs ↔ k ≤ lostLately bs := by
  induction bs using List.reverseRecOn generalizing k with
  | nil => simp [lostLately]
  | append_singleton bs b ih =>
    rw [List.suffix_concat_iff]
    cases k with
    | zero => simp
    | succ k =>
      rw [List.replicate_succ']
      cases b with
      | false => simp [ih, lostLately_loss]
      | true => simp [lostLately_answer]

theorem not_givesUp_nil : ¬ GivesUp retries [] := by
  simp [GivesUp]

theorem not_givesUp_replicate : ¬ GivesUp retries (List.replicate k true) := by
  intro h
  have hmem : false ∈ List.replicate (retries + 1) false := by simp
  simpa using h.subset hmem

theorem givesUp_answer : GivesUp retries (bs ++ [true]) ↔ GivesUp retries bs := by
  rw [GivesUp, List.infix_concat_iff, replicate_suffix_iff, lostLately_answer]
  exact or_iff_right (by omega)

theorem givesUp_loss :
    GivesUp retries (bs ++ [false]) ↔ retries ≤ lostLately bs ∨ GivesUp retries bs := by
  rw [GivesUp, List.infix_concat_iff, replicate_suffix_iff, lostLately_loss, Nat.add_le_add_iff_right]
  rfl

theorem lostLately_le (h : ¬ GivesUp retries bs) : lostLately bs ≤ retries := by
  by_contra hgt
  have hsuffix : List.replicate (retries + 1) false <:+ bs := replicate_suffix_iff.2 (by omega)
  exact h hsuffix.isInfix

theorem length_le (h : ¬ GivesUp retries bs) :
    bs.length ≤ (retries + 1) * bs.count true + lostLately bs := by
  induction bs using List.reverseRecOn with
  | nil => simp
  | append_singleton bs b ih =>
    cases b with
    | false =>
      rw [givesUp_loss, not_or] at h
      have hle := ih h.2
      have hcount : (bs ++ [false]).count true = bs.count true := by simp
      rw [hcount, lostLately_loss, List.length_append, List.length_singleton]
      omega
    | true =>
      rw [givesUp_answer] at h
      have hle := ih h
      have hlost := lostLately_le h
      have hcount : (bs ++ [true]).count true = bs.count true + 1 := by simp
      rw [hcount, lostLately_answer, List.length_append, List.length_singleton, Nat.mul_add]
      omega

def isFair : Outcome protocol → Bool
  | .ok _ | .error (.readTimeout _ _) => true
  | .error _ => false

theorem isFair_of_isOk {o : Outcome protocol} (h : o.isOk = true) : isFair o = true := by
  cases o with
  | ok => rfl
  | error => cases h

theorem isFair_eq_true {o : Outcome protocol} (h : isFair o = true) :
    (∃ r, o = .ok r) ∨ ∃ id elapsed, o = .error (.readTimeout id elapsed) := by
  unfold isFair at h
  split at h
  · next r => exact .inl ⟨r, rfl⟩
  · next id elapsed => exact .inr ⟨id, elapsed, rfl⟩
  · cases h

def answered (xs : List (Resumption client)) : List Bool := xs.map fun x ↦ x.outcome.isOk

theorem answered_concat (xs : List (Resumption client)) (x : Resumption client) :
    answered (xs ++ [x]) = answered xs ++ [x.outcome.isOk] := List.map_append

/-- What is known of a listing after some pages, and of its end. -/
structure Stages (G : Request → Response → Prop) (stage : Nat → Listing → Prop)
    (done : Nat → List Endpoint → Prop) : Prop where
  start : stage 0 {}
  again : ∀ {k : Nat} {l : Listing} (attempts : Nat), stage k l → stage k { l with attempts }
  page : ∀ {k : Nat} {p : Pending} {r : Response}, stage k p.listing → G p.request r →
    match p.listing.onPage r.servers with
    | .ask l => stage (k + 1) l
    | .done found => done (k + 1) found

/-- Where a call stands, by the requests that were answered and those that were not. -/
inductive Stands (retries : Nat) (stage : Nat → Listing → Prop) (done : Nat → List Endpoint → Prop)
    (bs : List Bool) : Turn protocol Pending Result → Prop
  | asks (q : Request) (p : Pending) (hl : stage (bs.count true) p.listing)
    (ha : p.listing.attempts = lostLately bs) (hg : ¬ GivesUp retries bs) :
    Stands retries stage done bs (.ask q p)
  | ends (found : List Endpoint) (hd : done (bs.count true) found) (ha : lostLately bs = 0)
    (hg : ¬ GivesUp retries bs) :
    Stands retries stage done bs (.answer ⟨.ok found, found⟩)
  | gaveUp (l : Listing) (cs : List Bool) (hl : stage (bs.count true) l) (hbs : bs = cs ++ [false])
    (hcs : ¬ GivesUp retries cs) (hg : GivesUp retries bs) :
    Stands retries stage done bs (.answer ⟨.ok l.found, l.found⟩)

variable {G : Request → Response → Prop} {stage : Nat → Listing → Prop}
  {done : Nat → List Endpoint → Prop} {first turn : Turn protocol Pending Result}
  {xs : List (Resumption client)}

theorem attempts_onPage {l l' : Listing} {page : List Endpoint} (h : l.onPage page = .ask l') :
    l'.attempts = 0 := by
  simp only [Listing.onPage] at h
  split at h
  · cases h
  · split at h
    · injection h with h
      rw [← h]
    · cases h

theorem Stands.answer (hs : Stages G stage done) {p : Pending} {r : Response}
    (h : Stands retries stage done bs (.ask p.request p)) (hr : G p.request r) :
    Stands retries stage done (bs ++ [true]) (p.turn (p.listing.onPage r.servers)) := by
  cases h with
  | asks _ _ hl ha hg =>
    have hpage := hs.page hl hr
    have hcount : (bs ++ [true]).count true = bs.count true + 1 := by simp
    have hg' : ¬ GivesUp retries (bs ++ [true]) := by rwa [givesUp_answer]
    cases hn : p.listing.onPage r.servers with
    | ask l =>
      rw [hn, ← hcount] at hpage
      exact .asks _ { p with listing := l } hpage
        ((attempts_onPage hn).trans (lostLately_answer bs).symm) hg'
    | done found =>
      rw [hn, ← hcount] at hpage
      exact .ends found hpage (lostLately_answer bs) hg'

theorem Stands.loss (hs : Stages G stage done) {p : Pending}
    (h : Stands retries stage done bs (.ask p.request p)) :
    Stands retries stage done (bs ++ [false]) (p.turn (p.listing.onTimeout retries)) := by
  cases h with
  | asks _ _ hl ha hg =>
    have hcount : (bs ++ [false]).count true = bs.count true := by simp
    unfold Listing.onTimeout
    split
    · next hlt =>
      refine .asks _ { p with listing := { p.listing with attempts := p.listing.attempts + 1 } }
        ?_ ?_ ?_
      · rw [hcount]
        exact hs.again _ hl
      · rw [lostLately_loss, ← ha]
      · rw [givesUp_loss, not_or]
        exact ⟨by omega, hg⟩
    · next hge =>
      refine .gaveUp p.listing bs ?_ rfl hg (givesUp_loss.2 (.inl (by omega)))
      rw [hcount]
      exact hl

/-- The course of a call is that of its pages, with the losses in between. -/
theorem stands_course (hs : Stages G stage done) (h : client.Course G first xs turn)
    (hf : ∃ p : Pending, p.listing = {} ∧ first = .ask p.request p)
    (hxs : ∀ x ∈ xs, isFair x.outcome = true ∧ x.state.retries = retries) :
    Stands retries stage done (answered xs) turn := by
  induction h with
  | begun =>
    obtain ⟨p, hl, rfl⟩ := hf
    exact .asks _ p (hl ▸ hs.start) (by rw [hl]; rfl) not_givesUp_nil
  | goOn x h hx ih =>
    obtain ⟨p, -, hp⟩ := hf
    have hstands := ih fun y hy ↦ hxs y (List.mem_append_left _ hy)
    obtain ⟨rfl, -⟩ : _ = x.pending.request ∧ _ :=
      belongsTo_course h (hp ▸ ⟨rfl, rfl⟩ : BelongsTo p.master _)
    obtain ⟨hfair, hretries⟩ := hxs x (by simp)
    rw [answered_concat]
    obtain ⟨q, o, s⟩ := x
    rcases isFair_eq_true hfair with ⟨r, rfl⟩ | ⟨id, elapsed, rfl⟩
    · have ht : (q.resume (.ok r) s).turn = q.turn (q.listing.onPage r.servers) := turn_resume_ok r
      exact ht ▸ hstands.answer hs (hx r rfl)
    · have ht : (q.resume (.error (.readTimeout id elapsed)) s).turn =
        q.turn (q.listing.onTimeout s.retries) := turn_resume_timeout id elapsed
      have hretries : s.retries = retries := hretries
      rw [hretries] at ht
      exact ht ▸ hstands.loss hs

theorem requests_course (h : client.Course G first xs turn)
    (hf : ∃ p : Pending, first = .ask p.request p) :
    first.request?.toList ++ xs.filterMap (·.move.turn.request?) =
      xs.map (·.pending.request) ++ turn.request?.toList := by
  induction h with
  | begun => exact List.append_nil _
  | goOn x h hx ih =>
    obtain ⟨p, hp⟩ := hf
    obtain ⟨rfl, -⟩ : _ = x.pending.request ∧ _ :=
      belongsTo_course h (hp ▸ ⟨rfl, rfl⟩ : BelongsTo p.master _)
    have hlast : [x].filterMap (·.move.turn.request?) = x.move.turn.request?.toList := by
      cases hq : x.move.turn.request? <;> simp [hq]
    rw [List.filterMap_append, hlast, ← List.append_assoc, ih, List.map_append]
    rfl

/-- A call that lists servers on its own: it begins when no other is at work, no other begins before
it is over, and its requests are answered or their answers are lost. -/
structure Solo (w : World client) (call : Call) (master : SocketAddress) (as : List (Act client)) :
    Prop where
  located : locate w.net call.source = .ok master
  idle : w.Idle
  continues : ∀ a ∈ as, a.Continues
  fair : ∀ x ∈ World.resumptions w.calls.length (w.act (.start call)) as, isFair x.outcome = true

theorem namesAll : Courier.NamesAll protocol := fun _ ↦ ⟨_, rfl⟩

theorem launch_open (config : Config) (retries : Nat) (net : Network) :
    World.Open Expects (launch config retries net) :=
  .of_make rfl rfl (by rfl)

theorem Solo.alone {w : World client} {call : Call} {master : SocketAddress} {as : List (Act client)}
    (h : Solo w call master as) (hw : World.Open Expects w) :
    World.Alone Expects ((w.act (.start call)).perform as) w.calls.length ∧
      ((w.act (.start call)).perform as).requests =
        w.requests ++ (client.begin w.net call w.state).turn.request?.toList ++
          (World.resumptions w.calls.length (w.act (.start call)) as).filterMap
            (·.move.turn.request?) := by
  obtain ⟨hstart, hfirst⟩ := hw.start client_asksFor h.idle call
  obtain ⟨halone, hreq⟩ := hstart.perform client_asksFor h.continues
  exact ⟨halone, hreq.trans (by rw [hfirst])⟩

theorem course_at {master : SocketAddress} (h : client.Course G first xs turn)
    (hf : BelongsTo master first) :
    client.Course (fun q r ↦ q.master = master ∧ G q r) first xs turn := by
  induction h with
  | begun => exact .begun
  | goOn x h hx ih =>
    obtain ⟨rfl, hm⟩ := belongsTo_course h hf
    exact .goOn x ih fun r hr ↦ ⟨hm, hx r hr⟩

/-- Where a call stands in a run, what its caller has heard of and which requests it has made. While
it waits it can go on. -/
theorem listing_stands {config : Config} {net : Network} {before after : List (Act client)}
    {call : Call} {master : SocketAddress}
    (hs : Stages (fun q r ↦ q.master = master ∧ G q r) stage done)
    (hopen : ∀ a ∈ before, a ≠ .close)
    (h : Solo ((launch config retries net).perform before) call master after)
    (hin : World.InTime G (launch config retries net) (before ++ .start call :: after)) :
    let w := (launch config retries net).perform before
    let w' := (launch config retries net).perform (before ++ .start call :: after)
    let xs := World.resumptions w.calls.length (w.act (.start call)) after
    ∃ turn, Stands retries stage done (answered xs) turn ∧ BelongsTo master turn ∧
      w'.Shows w.calls.length turn ∧
      foundAt turn = heardIn w.calls.length (w.act (.start call)) after ∧
      w'.requests.length = w.requests.length + (xs.length + turn.request?.toList.length) ∧
      ∀ q p, turn = .ask q p → w'.GoesOn w.calls.length q p := by
  intro w w' xs
  have hw' : w' = (w.act (.start call)).perform after := by
    change World.perform _ _ = _
    rw [World.perform, List.foldl_append]
    rfl
  obtain ⟨p, turn, hp, hl, hbegin, hcourse, hshows, hfound⟩ := listing_course h.located hin
  have hstate (a : List (Act client)) :
      ((launch config retries net).perform a).state.retries = retries :=
    World.Maintains.perform (client_maintains retries) rfl a
  have hretries : (w.act (.start call)).state.retries = retries :=
    World.Maintains.act (client_maintains retries) (hstate before) _
  have hstands := stands_course hs (course_at hcourse ⟨rfl, hp⟩) ⟨p, hl, rfl⟩ fun x hx ↦
    ⟨h.fair x hx, World.Maintains.resumptions (client_maintains retries) hretries hx⟩
  have hw : World.Open Expects w := (launch_open config retries net).perform client_asksFor hopen
  obtain ⟨halone, hreq⟩ := h.alone hw
  have hsum := requests_course hcourse ⟨p, rfl⟩
  refine ⟨turn, hstands, belongsTo_course hcourse ⟨rfl, hp⟩, hshows, hfound, ?_, fun q p' ht ↦ ?_⟩
  · rw [hw', hreq, hbegin, List.append_assoc, hsum, List.length_append, List.length_append,
      List.length_map]
  · rw [hw']
    refine halone.goesOn client_asksFor namesAll ?_
    rw [← hw', ← ht]
    exact hshows

theorem sessionId_page (p : Pending) (page : List Endpoint) :
    (Envelope.response (⟨p.master, page⟩ : Response) : Envelope protocol).sessionId =
      (Envelope.request p.request : Envelope protocol).sessionId := rfl

namespace Solo

variable {w : World client} {call : Call} {master : SocketAddress} {as bs : List (Act client)}
  {p : Pending}

theorem append {x : Resumption client} (h : Solo w call master as) (hbs : ∀ a ∈ bs, a.Continues)
    (hx : World.resumptions w.calls.length ((w.act (.start call)).perform as) bs = [x])
    (hfair : isFair x.outcome = true) :
    World.resumptions w.calls.length (w.act (.start call)) (as ++ bs) =
        World.resumptions w.calls.length (w.act (.start call)) as ++ [x] ∧
      Solo w call master (as ++ bs) := by
  have hres := World.resumptions_append (w := w.act (.start call)) (i := w.calls.length) as bs
  rw [hx] at hres
  refine ⟨hres, h.located, h.idle, fun a ha ↦ ?_, fun y hy ↦ ?_⟩
  · exact (List.mem_append.1 ha).elim (h.continues a) (hbs a)
  · rw [hres] at hy
    rcases List.mem_append.1 hy with hy | hy
    · exact h.fair y hy
    · exact List.mem_singleton.1 hy ▸ hfair

variable (h : Solo w call master as) (hw : World.Open Expects w)
  (hs : ((w.act (.start call)).perform as).Shows w.calls.length (.ask p.request p))
  (hk : ((w.act (.start call)).perform as).Rests w.calls.length)

include h hw hs hk

theorem page {r : Response} (page : List Endpoint) (hr : r = ⟨p.master, page⟩) :
    let k := (w.act (.start call)).perform as
    let bs := as ++ World.round (c := client) w.calls.length r
    World.resumptions w.calls.length (w.act (.start call)) bs =
        World.resumptions w.calls.length (w.act (.start call)) as ++ [⟨p, .ok r, k.state⟩] ∧
      Solo w call master bs ∧ ((w.act (.start call)).perform bs).Rests w.calls.length := by
  intro k bs
  have halone : World.Alone Expects k w.calls.length := (h.alone hw).1
  have hid := sessionId_page p page
  rw [← hr] at hid
  have hround := halone.resumptions_round hs namesAll hk hid client_asksFor
  obtain ⟨hres, hsolo⟩ := h.append (fun _ ↦ World.continues_round) hround rfl
  refine ⟨hres, hsolo, ?_⟩
  rw [World.perform, List.foldl_append]
  exact halone.rests_round hs namesAll hk hid client_asksFor

theorem silence : ∃ index time x, x.outcome.isOk = false ∧
    let bs := as ++ World.silence (c := client) w.calls.length index time
    World.resumptions w.calls.length (w.act (.start call)) bs =
        World.resumptions w.calls.length (w.act (.start call)) as ++ [x] ∧
      Solo w call master bs ∧ ((w.act (.start call)).perform bs).Rests w.calls.length := by
  have halone := (h.alone hw).1
  obtain ⟨index, time, id, elapsed, hx, hrests⟩ :=
    halone.resumptions_silence hs namesAll hk client_asksFor
  obtain ⟨hres, hsolo⟩ := h.append (fun _ ↦ World.continues_silence) hx rfl
  refine ⟨index, time, _, rfl, hres, hsolo, ?_⟩
  rw [World.perform, List.foldl_append]
  exact hrests

end Solo

/-- Answers come and are lost in any pattern, as long as the call asks. -/
theorem pattern_occurs {config : Config} {net : Network} {before : List (Act client)} {call : Call}
    {master : SocketAddress} (hs : Stages (fun q r ↦ q.master = master ∧ G q r) stage done)
    (hG : ∀ p : Pending, p.master = master → ∃ page, G p.request ⟨master, page⟩)
    (hopen : ∀ a ∈ before, a ≠ .close)
    (hm : locate ((launch config retries net).perform before).net call.source = .ok master)
    (hidle : ((launch config retries net).perform before).Idle)
    (hbefore : World.InTime G (launch config retries net) before) (bs : List Bool)
    (hasks : ∀ n < bs.length, ¬ GivesUp retries (bs.take n) ∧
      ∀ found, ¬ done ((bs.take n).count true) found) :
    let w := (launch config retries net).perform before
    ∃ as, Solo w call master as ∧
      World.InTime G (launch config retries net) (before ++ .start call :: as) ∧
      answered (World.resumptions w.calls.length (w.act (.start call)) as) = bs ∧
      ((w.act (.start call)).perform as).Rests w.calls.length := by
  intro w
  have hw : World.Open Expects w := (launch_open config retries net).perform client_asksFor hopen
  -- From the back: the call waits for one more answer, which comes or is lost.
  induction bs using List.reverseRecOn with
  | nil =>
    refine ⟨[], ⟨hm, hidle, by simp, by simp [World.resumptions]⟩, ?_, rfl,
      hw.rests_start client_asksFor hidle call⟩
    exact (World.eachArrival_append _ _).2 ⟨hbefore, by simp [World.arrivals], trivial⟩
  | append_singleton bs b ih =>
    obtain ⟨as, hsolo, hin, hanswered, hrests⟩ := ih fun n hn ↦ by
      have htake := hasks n (by rw [List.length_append]; omega)
      rwa [List.take_append_of_le_length hn.le] at htake
    have hlast := hasks bs.length (by simp)
    rw [List.take_left] at hlast
    let k := (w.act (.start call)).perform as
    have hk : (launch config retries net).perform (before ++ .start call :: as) = k := by
      rw [World.perform, List.foldl_append]
      rfl
    obtain ⟨turn, hstands, hmaster, hshows, -, -, -⟩ := listing_stands hs hopen hsolo hin
    rw [hanswered] at hstands
    rw [hk] at hshows
    cases hstands with
    | ends found hd => exact absurd hd (hlast.2 found)
    | gaveUp l cs hl hbs hcs hg => exact absurd hg hlast.1
    | asks q p =>
      obtain ⟨rfl, hp⟩ := hmaster
      have hadd (cs : List (Act client)) (hcs : World.InTime G k cs) :
          World.InTime G (launch config retries net) (before ++ .start call :: (as ++ cs)) := by
        rw [← List.cons_append, ← List.append_assoc]
        exact (World.eachArrival_append _ _).2 ⟨hin, hk ▸ hcs⟩
      cases b with
      | true =>
        obtain ⟨page, hpage⟩ := hG p hp
        subst hp
        obtain ⟨hres, hsolo', hrests'⟩ := hsolo.page hw hshows hrests page rfl
        refine ⟨_, hsolo', hadd _ ?_, ?_, hrests'⟩
        · exact (hsolo.alone hw).1.inTime_round hshows client_asksFor hpage
        · rw [hres, answered_concat, hanswered]
          rfl
      | false =>
        obtain ⟨index, time, x, hx, hres, hsolo', hrests'⟩ := hsolo.silence hw hshows hrests
        refine ⟨_, hsolo', hadd _ (World.inTime_silence k _ _ _), ?_, hrests'⟩
        rw [hres, answered_concat, hanswered, hx]

end GameServers.Directory
