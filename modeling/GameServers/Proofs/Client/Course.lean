import GameServers.Proofs.Client.Arrivals

namespace GameServers

/-- What a call comes to when it goes on with some outcomes, all of them such as they should be. -/
inductive Client.Course (c : Client) (G : c.P.Request → c.P.Response → Prop)
    (first : Turn c.P c.Pending c.Result) :
    List (Resumption c) → Turn c.P c.Pending c.Result → Prop
  | begun : Course c G first [] first
  | goOn {xs : List (Resumption c)} {q : c.P.Request} (x : Resumption c)
      (h : Course c G first xs (.ask q x.pending)) (hx : ∀ r, x.outcome = .ok r → G q r) :
    Course c G first (xs ++ [x]) x.move.turn

namespace World

variable {c : Client} {w w' : World c} {i : Nat} {expects : c.Pending → c.P.Request → Prop}
  {G : c.P.Request → c.P.Response → Prop} {turn : Turn c.P c.Pending c.Result}

/-- Of all responses that arrive in the course of a run, at the time when they arrive. -/
def EachArrival (H : World c → c.P.Response → Prop) : World c → List (Act c) → Prop
  | _, [] => True
  | w, a :: as => (∀ r ∈ w.arrivals a, H w r) ∧ EachArrival H (w.act a) as

/-- No response arrives while a request waits for it that it should not settle. -/
def InTime (G : c.P.Request → c.P.Response → Prop) (w : World c) (as : List (Act c)) : Prop :=
  EachArrival (fun k r ↦ ∀ q, k.courier.Waits q → Answers c.P q r → G q r) w as

theorem eachArrival_append {H : World c → c.P.Response → Prop} (as bs : List (Act c)) :
    EachArrival H w (as ++ bs) ↔ EachArrival H w as ∧ EachArrival H (w.perform as) bs := by
  induction as generalizing w with
  | nil => simp [EachArrival, perform]
  | cons a as ih => simp [EachArrival, ih, perform, and_assoc]

theorem EachArrival.mono {H H' : World c → c.P.Response → Prop} {as : List (Act c)}
    (h : EachArrival H w as) (hH : ∀ k r, H k r → H' k r) : EachArrival H' w as := by
  induction as generalizing w with
  | nil => trivial
  | cons a as ih => exact ⟨fun r hr ↦ hH w r (h.1 r hr), ih h.2⟩

theorem resumptions_append (as bs : List (Act c)) :
    resumptions i w (as ++ bs) = resumptions i w as ++ resumptions i (w.perform as) bs := by
  induction as generalizing w with
  | nil => rfl
  | cons a as ih => simp [resumptions, ih, perform]

theorem asked_or_arrivals (w : World c) (a : Act c) : w.asked a = none ∨ w.arrivals a = [] := by
  cases a with
  | task t => cases t <;> simp [asked, arrivals]
  | start => exact .inr rfl
  | _ => exact .inl rfl

/-- What holds of a client whose requests were settled as they should be. -/
structure Answering (expects : c.Pending → c.P.Request → Prop)
    (G : c.P.Request → c.P.Response → Prop) (w : World c) : Prop where
  asking : Asking expects w
  allHeard : w.AllHeard
  answered : w.courier.AnsweredBy G

theorem Answering.act (h : Answering expects G w) (hc : c.AsksFor expects) (hP : c.P.TellsApart)
    {a : Act c} (hG : ∀ r ∈ w.arrivals a, ∀ q, w.courier.Waits q → Answers c.P q r → G q r) :
    Answering expects G (w.act a) where
  asking := h.asking.act hc a
  allHeard := h.allHeard.act a
  answered := by
    have hr := lets_act h.asking h.allHeard a
    rcases w.asked_or_arrivals a with hn | hn
    · rw [hn] at hr
      exact h.answered.receives hP h.asking.sound h.asking.paired hr hG
    · rw [hn] at hr
      exact h.answered.sends hr

theorem Answering.perform (h : Answering expects G w) (hc : c.AsksFor expects)
    (hP : c.P.TellsApart) {as : List (Act c)} (hin : InTime G w as) :
    Answering expects G (w.perform as) := by
  induction as generalizing w with
  | nil => exact h
  | cons a as ih => exact ih (h.act hc hP hin.1) hin.2

/-- A call has come so far. -/
def Shows (w : World c) (i : Nat) : Turn c.P c.Pending c.Result → Prop
  | .ask q p => ∃ ticket, w.calls[i]? = some (.waiting ticket p) ∧
    ∀ n, ticket = .ok n → ∃ t, w.courier.desk.tickets[n]? = some t ∧ t.request = q
  | .answer result => w.calls[i]? = some (.over result)

theorem Shows.follows (h : w.Shows i turn) (hs : w.courier.Sound) (hr : w.courier.Runs w'.courier)
    (hc : w'.calls[i]? = w.calls[i]?) : w'.Shows i turn := by
  cases turn with
  | answer result => exact hc.trans h
  | ask q p =>
    obtain ⟨ticket, hi, ht⟩ := h
    refine ⟨ticket, hc.trans hi, fun n hn ↦ ?_⟩
    obtain ⟨t, ht, hq⟩ := ht n hn
    obtain ⟨t', ht', hl⟩ := hr.leads hs ht
    exact ⟨t', ht', hl.1.trans hq⟩

theorem Shows.lt_length (h : w.Shows i turn) : i < w.calls.length := by
  cases turn with
  | answer => exact (List.getElem?_eq_some_iff.1 h).1
  | ask =>
    obtain ⟨ticket, hi, -⟩ := h
    exact (List.getElem?_eq_some_iff.1 hi).1

theorem Shows.ne_closing (h : w.Shows i turn) : w.calls[i]? ≠ some .closing := by
  intro hcl
  cases turn with
  | answer => cases h.symm.trans hcl
  | ask =>
    obtain ⟨ticket, hi, -⟩ := h
    cases hi.symm.trans hcl

theorem shows_make (hi : i < w.calls.length) (move : Move c.P c.State c.Pending c.Result) :
    (w.make i move).Shows i move.turn := by
  unfold World.make
  split
  · next ht =>
    rw [ht]
    exact List.getElem?_set_self hi
  · next q p ht =>
    rw [ht]
    exact ⟨_, List.getElem?_set_self hi, fun n hn ↦ Courier.ticket_of_send hn⟩

theorem getElem?_calls_make {j : Nat} (hj : i ≠ j) (move : Move c.P c.State c.Pending c.Result) :
    (w.make i move).calls[j]? = w.calls[j]? := by
  unfold World.make
  split <;> exact List.getElem?_set_ne hj

theorem calls_refresh (w : World c) : w.refresh.calls = w.calls := rfl

theorem length_calls_make (move : Move c.P c.State c.Pending c.Result) :
    (w.make i move).calls.length = w.calls.length := by
  unfold World.make
  split <;> exact List.length_set

theorem calls_endClose (w : World c) (i : Nat) : (w.endClose i).calls = w.calls.set i .closed :=
  congrArg (fun calls : List (CallState c) ↦ calls.set i .closed)
    (Follows.mapTransport (w.mapCourier Courier.closeRegistry) Transport.close).2

theorem calls_startClose (w : World c) : w.startClose.calls = w.calls ++ [.closing] ∨
    w.startClose.calls = w.calls ++ [.closed] := by
  simp only [startClose]
  split
  · exact .inr rfl
  · rw [calls_refresh]
    have hset : (w.calls ++ [CallState.closing]).set w.calls.length .closed = w.calls ++ [.closed] := by
      simp
    split
    · exact .inr ((calls_endClose _ _).trans hset)
    · split
      · exact .inr ((calls_endClose _ _).trans hset)
      · exact .inl rfl

theorem length_calls_act (w : World c) (a : Act c) : (w.act a).calls.length =
    match a with
    | .start _ | .close => w.calls.length + 1
    | _ => w.calls.length := by
  cases a with
  | start call =>
    exact (length_calls_make (w := w.addCall .closed) _).trans List.length_append
  | close =>
    rcases w.calls_startClose with h | h
    · exact (congrArg List.length h).trans List.length_append
    · exact (congrArg List.length h).trans List.length_append
  | task t =>
    cases t with
    | worker | timer | attend => rfl
    | write n => exact congrArg List.length (Follows.runWrite w n).2
    | reader r => exact congrArg List.length (Follows.mapTransport w _).2
    | call j =>
      change (w.resumeCall j).calls.length = _
      unfold resumeCall
      split
      · split
        · exact length_calls_make _
        · rfl
      · split
        · rw [calls_endClose, List.length_set]
        · rfl
      · rfl
  | signal s => exact congrArg List.length (Follows.hear w s).2
  | turn => exact congrArg List.length (Follows.takeTurn w).2
  | network | clock | schedule => rfl

/-- Only its own task takes a call further, and one that closes the client comes to its end. -/
theorem calls_act_cases (hi : i < w.calls.length) {a : Act c} (ha : w.resumption? i a = none) :
    (w.act a).calls[i]? = w.calls[i]? ∨
      w.calls[i]? = some .closing ∧ (w.act a).calls[i]? = some .closed := by
  have hadd (s : CallState c) : (w.calls ++ [s])[i]? = w.calls[i]? := List.getElem?_append_left hi
  cases a with
  | start call =>
    have hne : w.calls.length ≠ i := by omega
    exact .inl ((getElem?_calls_make (w := w.addCall .closed) hne _).trans (hadd .closed))
  | close =>
    left
    rcases w.calls_startClose with h | h
    · exact (congrArg (·[i]?) h).trans (hadd .closing)
    · exact (congrArg (·[i]?) h).trans (hadd .closed)
  | task t =>
    cases t with
    | worker | timer | attend => exact .inl rfl
    | write n => exact .inl (congrArg (·[i]?) (Follows.runWrite w n).2)
    | reader r => exact .inl (congrArg (·[i]?) (Follows.mapTransport w _).2)
    | call j =>
      change (w.resumeCall j).calls[i]? = _ ∨ _ ∧ (w.resumeCall j).calls[i]? = _
      by_cases hj : j = i
      · subst hj
        by_cases hc : w.calls[j]? = some .closing
        · simp only [resumeCall, hc]
          split
          · right
            rw [calls_endClose]
            exact ⟨trivial, List.getElem?_set_self hi⟩
          · exact .inl hc
        · exact .inl (congrArg (·.calls[j]?) (resumeCall_of_none ha hc))
      · left
        unfold resumeCall
        split
        · split
          · exact getElem?_calls_make hj _
          · rfl
        · split
          · rw [calls_endClose]
            exact List.getElem?_set_ne hj
          · rfl
        · rfl
  | signal s => exact .inl (congrArg (·[i]?) (Follows.hear w s).2)
  | turn => exact .inl (congrArg (·[i]?) (Follows.takeTurn w).2)
  | network | clock | schedule => exact .inl rfl

theorem getElem?_calls_act (hi : i < w.calls.length) (hc : w.calls[i]? ≠ some .closing) {a : Act c}
    (ha : w.resumption? i a = none) : (w.act a).calls[i]? = w.calls[i]? :=
  (calls_act_cases hi ha).resolve_right fun h ↦ hc h.1

theorem resumption?_eq_some {a : Act c} {x : Resumption c} (h : w.resumption? i a = some x) :
    a = .task (.call i) ∧ x.state = w.state ∧ ∃ ticket,
      w.calls[i]? = some (.waiting ticket x.pending) ∧
        w.courier.outcomeOf? ticket = some x.outcome := by
  unfold resumption? at h
  split at h
  · next j =>
    split at h
    · next hj =>
      subst hj
      split at h
      · next ticket p hi =>
        obtain ⟨o, ho, rfl⟩ := Option.map_eq_some_iff.1 h
        exact ⟨rfl, rfl, ticket, hi, ho⟩
      · cases h
    · cases h
  · cases h

theorem shows_act (h : Answering expects G w) (hi : w.Shows i turn) (a : Act c) :
    (w.resumption? i a = none → (w.act a).Shows i turn) ∧
      ∀ x, w.resumption? i a = some x → (w.act a).Shows i x.move.turn ∧
        ∃ q, turn = .ask q x.pending ∧ ∀ r, x.outcome = .ok r → G q r := by
  refine ⟨fun hn ↦ ?_, fun x hx ↦ ?_⟩
  · exact hi.follows h.asking.sound (lets_act h.asking h.allHeard a).runs
      (getElem?_calls_act hi.lt_length hi.ne_closing hn)
  · obtain ⟨rfl, -, ticket, hcall, ho⟩ := resumption?_eq_some hx
    have hmake : (w.act (.task (.call i))) = (w.make i x.move).refresh := by
      rw [← resumeCall_of_some hx]
      rfl
    have hsound : (w.make i x.move).courier.Sound :=
      (Goes.make w i x.move).runs.sound h.asking.sound
    refine ⟨?_, ?_⟩
    · rw [hmake]
      exact (shows_make hi.lt_length x.move).follows hsound (Follows.refresh _).1 rfl
    · cases turn with
      | answer result => cases hcall.symm.trans hi
      | ask q p =>
        obtain ⟨ticket', hcall', hq⟩ := hi
        obtain ⟨rfl, rfl⟩ : ticket = ticket' ∧ x.pending = p := by
          have he := Option.some.inj (hcall.symm.trans hcall')
          injection he with h₁ h₂
          exact ⟨h₁, h₂⟩
        refine ⟨q, rfl, fun r hr ↦ ?_⟩
        cases ticket with
        | error e =>
          rw [hr] at ho
          cases ho
        | ok n =>
          rw [hr] at ho
          obtain ⟨t, ht, hG⟩ := h.answered.of_outcome? ho
          obtain ⟨t', ht', rfl⟩ := hq n rfl
          rwa [Option.some.inj (ht'.symm.trans ht)]

theorem shows_course (hc : c.AsksFor expects) (hP : c.P.TellsApart)
    {first : Turn c.P c.Pending c.Result} {xs : List (Resumption c)}
    (hxs : c.Course G first xs turn) (h : Answering expects G w) (hi : w.Shows i turn)
    {as : List (Act c)} (hin : InTime G w as) :
    ∃ turn', c.Course G first (xs ++ resumptions i w as) turn' ∧ (w.perform as).Shows i turn' := by
  induction as generalizing w xs turn with
  | nil => exact ⟨turn, by simpa [resumptions] using hxs, hi⟩
  | cons a as ih =>
    obtain ⟨hstay, hgo⟩ := shows_act h hi a
    have h' := h.act hc hP hin.1
    cases hx : w.resumption? i a with
    | none =>
      obtain ⟨turn', hcourse, hshows⟩ := ih hxs h' (hstay hx) hin.2
      exact ⟨turn', by simpa [resumptions, hx] using hcourse, hshows⟩
    | some x =>
      obtain ⟨hshow, q, rfl, hG⟩ := hgo x hx
      obtain ⟨turn', hcourse, hshows⟩ := ih (.goOn x hxs hG) h' hshow hin.2
      exact ⟨turn', by simpa [resumptions, hx] using hcourse, hshows⟩

theorem Answering.of_make {config : Config} (hw : w.courier = Courier.make config)
    (hn : w.calls = []) (hs : w.AllHeard) : Answering expects G w where
  asking := .of_make hw hn
  allHeard := hs
  answered := hw ▸ .make config

theorem shows_start (h : Answering expects G w) (call : c.Call) :
    (w.act (.start call)).Shows w.calls.length (c.begin w.net call w.state).turn := by
  have hlen : w.calls.length < (w.addCall .closed).calls.length := by simp [addCall]
  have hsound : ((w.addCall .closed).make w.calls.length (c.begin w.net call w.state)).courier.Sound :=
    (Goes.make (w.addCall .closed) w.calls.length _).runs.sound h.asking.sound
  exact (shows_make hlen _).follows hsound (Follows.refresh _).1 rfl

theorem call_course (hc : c.AsksFor expects) (hP : c.P.TellsApart) (h : Answering expects G w)
    (call : c.Call) {as : List (Act c)} (hin : InTime G w (.start call :: as)) :
    ∃ turn, c.Course G (c.begin w.net call w.state).turn
        (resumptions w.calls.length (w.act (.start call)) as) turn ∧
      (w.perform (.start call :: as)).Shows w.calls.length turn :=
  shows_course hc hP .begun (h.act hc hP hin.1) (shows_start h call) hin.2

end World

/-- Whatever calls do, the state of the client has a property. -/
structure Client.Maintains (c : Client) (S : c.State → Prop) : Prop where
  begin : ∀ {net : Network} {call : c.Call} {s : c.State}, S s → S (c.begin net call s).state
  resume : ∀ {p : c.Pending} {o : Outcome c.P} {s : c.State}, S s → S (c.resume p o s).state
  forget : ∀ {s : c.State}, S s → S (c.forget s)

namespace World

variable {c : Client} {w : World c} {S : c.State → Prop}

theorem state_refresh (w : World c) : w.refresh.state = w.state := rfl

theorem state_mapTransport (w : World c) (f : Transport c.P → Transport c.P) :
    (w.mapTransport f).state = w.state :=
  foldl_keeps state (fun k s ↦ by cases s <;> rfl) _ _

theorem state_conclude (w : World c) (n : Nat) : (w.conclude n).state = w.state := by
  unfold World.conclude
  split <;> rfl

theorem state_make (w : World c) (i : Nat) (move : Move c.P c.State c.Pending c.Result) :
    (w.make i move).state = move.state := by
  unfold World.make
  split <;> rfl

theorem state_endClose (w : World c) (i : Nat) : (w.endClose i).state = w.state :=
  state_mapTransport (w.mapCourier Courier.closeRegistry) Transport.close

theorem state_startClose (w : World c) : w.startClose.state = c.forget w.state := by
  simp only [startClose]
  split
  · rfl
  · rw [state_refresh]
    split
    · exact state_endClose _ _
    · split
      · exact state_endClose _ _
      · rfl

theorem state_act (w : World c) (a : Act c) : (w.act a).state = w.state ∨
    a = .close ∧ (w.act a).state = c.forget w.state ∨
    (∃ call, a = .start call ∧ (w.act a).state = (c.begin w.net call w.state).state) ∨
    ∃ i x, w.resumption? i a = some x ∧ (w.act a).state = x.move.state := by
  cases a with
  | start call => exact .inr (.inr (.inl ⟨call, rfl, state_make (w.addCall .closed) _ _⟩))
  | close => exact .inr (.inl ⟨rfl, state_startClose w⟩)
  | task t =>
    cases t with
    | worker | timer | attend => exact .inl rfl
    | write n =>
      left
      change (w.runWrite n).state = w.state
      unfold World.runWrite
      split
      · split
        · rfl
        · rw [state_conclude, state_mapTransport]
          rfl
      · rw [state_conclude, state_mapTransport]
      · rfl
    | reader r => exact .inl (state_mapTransport w _)
    | call i =>
      cases hx : w.resumption? i (.task (.call i)) with
      | some x =>
        refine .inr (.inr (.inr ⟨i, x, hx, ?_⟩))
        exact (congrArg state (resumeCall_of_some hx)).trans (state_make w i x.move)
      | none =>
        left
        by_cases hc : w.calls[i]? = some .closing
        · change (w.resumeCall i).state = w.state
          simp only [resumeCall, hc]
          split
          · exact state_endClose w i
          · rfl
        · exact congrArg (·.refresh.state) (resumeCall_of_none hx hc)
  | signal s => cases s <;> exact .inl rfl
  | turn | network | clock | schedule => exact .inl rfl

theorem Maintains.act (hS : c.Maintains S) (h : S w.state) (a : Act c) : S (w.act a).state := by
  rcases w.state_act a with hs | ⟨-, hs⟩ | ⟨call, -, hs⟩ | ⟨i, x, hx, hs⟩
  · exact hs ▸ h
  · exact hs ▸ hS.forget h
  · exact hs ▸ hS.begin h
  · rw [hs, Resumption.move, (resumption?_eq_some hx).2.1]
    exact hS.resume h

theorem Maintains.resumptions (hS : c.Maintains S) (h : S w.state) {i : Nat} {as : List (Act c)}
    {x : Resumption c} (hx : x ∈ resumptions i w as) : S x.state := by
  induction as generalizing w with
  | nil => cases hx
  | cons a as ih =>
    rcases List.mem_append.1 hx with hx | hx
    · rw [(resumption?_eq_some (Option.mem_toList.1 hx)).2.1]
      exact h
    · exact ih (Maintains.act hS h a) hx

theorem Maintains.perform (hS : c.Maintains S) (h : S w.state) (as : List (Act c)) :
    S (w.perform as).state := by
  induction as generalizing w with
  | nil => exact h
  | cons a as ih => exact ih (Maintains.act hS h a)

end World

end GameServers
