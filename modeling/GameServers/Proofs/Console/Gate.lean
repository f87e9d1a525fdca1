import GameServers.Proofs.Console.Replies
import Mathlib.Data.List.DropRight

namespace GameServers.Console

open World (Act gather)

variable {w w' : World client} {a : Act client} {seen new : List Sight} {server : SocketAddress}
  {i n : Nat} {r : Result}

/-- What is seen of calls from outside. -/
inductive Sight
  | begins (number : Nat) (call : Call)
  | ends (number : Nat) (result : Result)
  | closes

namespace Sight

def number? : Sight → Option Nat
  | begins i _ | ends i _ => some i
  | closes => none

def isClose : Sight → Bool
  | closes => true
  | _ => false

def isLogin (server : SocketAddress) (i : Nat) : Sight → Bool
  | begins j (.authenticate server' _) => j = i && server' = server
  | _ => false

end Sight

def beginnings (w : World client) : Act client → List Sight
  | .start call => [.begins w.calls.length call]
  | .close => [.closes]
  | _ => []

/-- The calls that have come to a result from one world to the next. -/
def endings (w w' : World client) : List Sight :=
  (List.range w'.calls.length).filterMap fun i ↦
    if (result? w i).isSome then none else (result? w' i).map (.ends i)

def sights (w : World client) (a : Act client) : List Sight := beginnings w a ++ endings w (w.act a)

/-- Whether a login on a server was taken or rejected, if it ends here in one of the two ways. -/
def verdict? (server : SocketAddress) (seen : List Sight) : Sight → Option Bool
  | .ends i (.authenticated (.ok taken)) =>
    if seen.any (Sight.isLogin server i) then some taken else none
  | _ => none

/-- How logins on a server have ended since the client was last closed. -/
def verdicts (server : SocketAddress) (seen : List Sight) : List Bool :=
  (seen.rtakeWhile fun s ↦ !s.isClose).filterMap (verdict? server seen)

theorem lt_of_result? (h : result? w i = some r) : i < w.calls.length :=
  (List.getElem?_eq_some_iff.1 (over_of_result? h)).1

theorem result?_of_over (h : w.calls[i]? = some (.over r)) : result? w i = some r := by
  rw [result?, h]

theorem result?_of_waiting {ticket : Except Failure Nat} {p : Pending}
    (h : w.calls[i]? = some (.waiting ticket p)) : result? w i = none := by
  rw [result?, h]

theorem result?_act (hi : i < w.calls.length) (hx : w.resumption? i a = none) :
    result? (w.act a) i = result? w i := by
  rcases World.calls_act_cases hi hx with h | ⟨h, h'⟩
  · rw [result?, result?, h]
  · rw [result?, result?, h, h']

theorem resumption?_of_over (h : w.calls[i]? = some (.over r)) (a : Act client) :
    w.resumption? i a = none := by
  cases hx : w.resumption? i a with
  | none => rfl
  | some x =>
    obtain ⟨-, -, ticket, hi, -⟩ := World.resumption?_eq_some hx
    cases h.symm.trans hi

theorem result?_perform (h : result? w i = some r) (as : List (Act client)) :
    result? (w.perform as) i = some r ∧ World.resumptions i w as = [] := by
  induction as generalizing w with
  | nil => exact ⟨h, rfl⟩
  | cons a as ih =>
    have hx := resumption?_of_over (over_of_result? h) a
    obtain ⟨hr, hxs⟩ := ih ((result?_act (lt_of_result? h) hx).trans h)
    exact ⟨hr, by rw [World.resumptions, hx, hxs]; rfl⟩

theorem calls_resume {x : Resumption client} (hx : w.resumption? i a = some x) :
    ∃ r, x.move.turn = .answer r ∧ (w.act a).calls = w.calls.set i (.over r) ∧
      (w.act a).state = x.move.state := by
  obtain ⟨rfl, -⟩ := World.resumption?_eq_some hx
  have hact : w.act (.task (.call i)) = (w.make i x.move).refresh :=
    congrArg World.refresh (World.resumeCall_of_some hx)
  cases ht : x.move.turn with
  | ask q p =>
    have hnone : x.move.turn.request? = none := request?_resume x.pending x.outcome x.state
    rw [ht] at hnone
    cases hnone
  | answer r =>
    refine ⟨r, rfl, ?_, ?_⟩
    · rw [hact, World.calls_refresh, World.make, ht]
      rfl
    · rw [hact, World.state_refresh, World.state_make]

theorem call_start (w : World client) (call : Call) :
    (∃ r, (call.begin w.state).turn = .answer r ∧
      (w.act (.start call)).calls[w.calls.length]? = some (.over r)) ∨
    ∃ q p ticket, (call.begin w.state).turn = .ask q p ∧
      (w.act (.start call)).calls[w.calls.length]? = some (.waiting ticket p) := by
  have hlen : w.calls.length < (w.addCall .closed).calls.length := by simp [World.addCall]
  have hshows := World.shows_make hlen (call.begin w.state)
  cases ht : (call.begin w.state).turn with
  | answer r =>
    rw [ht] at hshows
    exact .inl ⟨r, rfl, hshows⟩
  | ask q p =>
    rw [ht] at hshows
    obtain ⟨ticket, hcall, -⟩ := hshows
    exact .inr ⟨q, p, ticket, rfl, hcall⟩

theorem call_close (w : World client) : (w.act .close).calls[w.calls.length]? = some .closing ∨
    (w.act .close).calls[w.calls.length]? = some .closed := by
  rcases w.calls_startClose with h | h
  · exact .inl ((congrArg (·[w.calls.length]?) h).trans List.getElem?_concat_length)
  · exact .inr ((congrArg (·[w.calls.length]?) h).trans List.getElem?_concat_length)

theorem lt_or_begins (hi : i < (w.act a).calls.length) : i < w.calls.length ∨
    i = w.calls.length ∧ ((∃ call, a = .start call) ∨ a = .close) := by
  rw [World.length_calls_act] at hi
  cases a with
  | start call => exact (Nat.lt_succ_iff_lt_or_eq.1 hi).imp_right (⟨·, .inl ⟨call, rfl⟩⟩)
  | close => exact (Nat.lt_succ_iff_lt_or_eq.1 hi).imp_right (⟨·, .inr rfl⟩)
  | task | signal | turn | network | clock | schedule => exact .inl hi

theorem waiting_act {ticket : Except Failure Nat} {p : Pending}
    (h : (w.act a).calls[i]? = some (.waiting ticket p)) :
    w.calls[i]? = some (.waiting ticket p) ∨ i = w.calls.length ∧
      ∃ call q, a = .start call ∧ (call.begin w.state).turn = .ask q p := by
  rcases lt_or_begins (List.getElem?_eq_some_iff.1 h).1 with hlt | ⟨rfl, ⟨call, rfl⟩ | rfl⟩
  · left
    have hx : w.resumption? i a = none := by
      cases hx : w.resumption? i a with
      | none => rfl
      | some x =>
        obtain ⟨r, -, hc, -⟩ := calls_resume hx
        rw [hc, List.getElem?_set_self hlt] at h
        cases h
    rcases World.calls_act_cases hlt hx with hc | ⟨-, hc⟩
    · exact hc ▸ h
    · cases hc.symm.trans h
  · right
    rcases call_start w call with ⟨r, -, hc⟩ | ⟨q, p', ticket', ht, hc⟩
    · cases hc.symm.trans h
    · obtain ⟨-, rfl⟩ := CallState.waiting.inj (Option.some.inj (hc.symm.trans h))
      exact ⟨rfl, call, q, rfl, ht⟩
  · rcases call_close w with hc | hc
    · cases hc.symm.trans h
    · cases hc.symm.trans h

theorem mem_endings {s : Sight} (h : s ∈ endings w w') :
    ∃ i r, s = .ends i r ∧ result? w i = none ∧ result? w' i = some r := by
  obtain ⟨i, -, hi⟩ := List.mem_filterMap.1 h
  split at hi
  · cases hi
  · next hw =>
    obtain ⟨r, hr, rfl⟩ := Option.map_eq_some_iff.1 hi
    exact ⟨i, r, rfl, Option.not_isSome_iff_eq_none.1 hw, hr⟩

theorem begins_notMem_endings {call : Call} : .begins i call ∉ endings w w' := by
  intro h
  obtain ⟨_, _, hs, -⟩ := mem_endings h
  cases hs

theorem filterMap_range_eq_singleton {β : Type} {f : Nat → Option β} {b : β} (hi : i < n)
    (hb : f i = some b) (hne : ∀ j, j ≠ i → f j = none) : (List.range n).filterMap f = [b] := by
  obtain ⟨before, after, he⟩ := List.append_of_mem (List.mem_range.2 hi)
  have hnodup : (before ++ i :: after).Nodup := he ▸ List.nodup_range
  obtain ⟨hi, -⟩ := List.nodup_cons.1 (List.perm_middle.nodup_iff.1 hnodup)
  have hnil (xs : List Nat) (hxs : i ∉ xs) : xs.filterMap f = [] :=
    List.filterMap_eq_nil_iff.2 fun j hj ↦ hne j fun hji ↦ hxs (hji ▸ hj)
  rw [he, List.filterMap_append, List.filterMap_cons_some hb,
    hnil before fun h ↦ hi (List.mem_append_left _ h),
    hnil after fun h ↦ hi (List.mem_append_right _ h)]
  rfl

theorem endings_of_set (hi : i < w.calls.length) (hw : result? w i = none)
    (hc : w'.calls = w.calls.set i (.over r)) : endings w w' = [.ends i r] := by
  have hlen : w'.calls.length = w.calls.length := hc ▸ List.length_set
  refine filterMap_range_eq_singleton (hlen ▸ hi) ?_ fun j hj ↦ ?_
  · have hr : result? w' i = some r := result?_of_over (hc ▸ List.getElem?_set_self hi)
    rw [hw, hr]
    rfl
  · have hj : result? w' j = result? w j := by
      rw [result?, result?, hc, List.getElem?_set_ne hj.symm]
    rw [hj]
    cases result? w j <;> rfl

theorem mem_endings_act {s : Sight} (h : s ∈ endings w (w.act a)) :
    ∃ i r, s = .ends i r ∧ ((∃ x, w.resumption? i a = some x) ∨
      ∃ call, a = .start call ∧ i = w.calls.length ∧ (call.begin w.state).turn = .answer r) := by
  obtain ⟨i, r, rfl, hw, hr⟩ := mem_endings h
  refine ⟨i, r, rfl, ?_⟩
  rcases lt_or_begins (lt_of_result? hr) with hi | ⟨rfl, ⟨call, rfl⟩ | rfl⟩
  · cases hx : w.resumption? i a with
    | some x => exact .inl ⟨x, rfl⟩
    | none => cases hw.symm.trans ((result?_act hi hx).symm.trans hr)
  · right
    refine ⟨call, rfl, rfl, ?_⟩
    rcases call_start w call with ⟨r', ht, hc⟩ | ⟨q, p, ticket, -, hc⟩
    · rw [ht, Option.some.inj ((result?_of_over hc).symm.trans hr)]
    · cases (result?_of_waiting hc).symm.trans hr
  · have hover := over_of_result? hr
    rcases call_close w with hc | hc
    · cases hc.symm.trans hover
    · cases hc.symm.trans hover

theorem isLogin_iff {s : Sight} :
    s.isLogin server i = true ↔ ∃ password, s = .begins i (.authenticate server password) := by
  cases s with
  | begins j call => cases call <;> simp [Sight.isLogin]
  | ends | closes => simp [Sight.isLogin]

theorem any_isLogin (h : ∀ password, .begins i (.authenticate server password) ∉ seen) :
    seen.any (Sight.isLogin server i) = false := by
  rw [List.any_eq_false]
  intro s hs hlogin
  obtain ⟨password, rfl⟩ := isLogin_iff.1 hlogin
  exact h password hs

theorem verdict?_append {s : Sight} (hs : ∀ i, s.number? = some i → i < n)
    (hnew : ∀ i call, .begins i call ∈ new → n ≤ i) :
    verdict? server (seen ++ new) s = verdict? server seen s := by
  unfold verdict?
  split
  · next i taken =>
    have hnone : new.any (Sight.isLogin server i) = false :=
      any_isLogin fun password hmem ↦ absurd (hs i rfl) (Nat.not_lt.2 (hnew i _ hmem))
    rw [List.any_append, hnone, Bool.or_false]
  · rfl

theorem rtakeWhile_append {α : Type} {f : α → Bool} (xs : List α) {ys : List α}
    (h : ∀ y ∈ ys, f y = true) : (xs ++ ys).rtakeWhile f = xs.rtakeWhile f ++ ys := by
  have hrev : ∀ y ∈ ys.reverse, f y = true := fun y hy ↦ h y (List.mem_reverse.1 hy)
  rw [List.rtakeWhile, List.reverse_append, List.takeWhile_append_of_pos hrev, List.reverse_append,
    List.reverse_reverse]
  rfl

theorem verdicts_append (hseen : ∀ s ∈ seen, ∀ i, s.number? = some i → i < n)
    (hnew : ∀ i call, .begins i call ∈ new → n ≤ i) (hopen : ∀ s ∈ new, s.isClose = false) :
    verdicts server (seen ++ new) =
      verdicts server seen ++ new.filterMap (verdict? server (seen ++ new)) := by
  rw [verdicts, rtakeWhile_append seen fun s hs ↦ by rw [hopen s hs]; rfl, List.filterMap_append]
  congr 1
  refine List.filterMap_congr fun s hs ↦ ?_
  exact verdict?_append (hseen s ((List.rtakeWhile_suffix _ _).subset hs)) hnew

theorem verdicts_close : verdicts server (seen ++ [.closes]) = [] := by
  rw [verdicts, List.rtakeWhile_concat_neg]
  · rfl
  · simp [Sight.isClose]

theorem decide_getLast? {α : Type} (vs : List Bool) (f : α → Option Bool) (x : α) :
    decide ((vs ++ [x].filterMap f).getLast? = some true) =
      (f x).getD (decide (vs.getLast? = some true)) := by
  cases h : f x with
  | none => simp [h]
  | some taken => simp [h]

theorem isAuthenticated_remember (s : ClientState) (server server' : SocketAddress) :
    (s.remember server').isAuthenticated server =
      (decide (server' = server) || s.isAuthenticated server) := by
  simp [ClientState.isAuthenticated, ClientState.remember, eq_comm]

theorem isAuthenticated_forget (s : ClientState) (server server' : SocketAddress) :
    (s.forget server').isAuthenticated server =
      (s.isAuthenticated server && !decide (server' = server)) := by
  rw [Bool.eq_iff_iff]
  simp [ClientState.isAuthenticated, ClientState.forget, eq_comm (a := server)]

def Pending.isLogin (server : SocketAddress) : Pending → Bool
  | .authenticate server' => server' = server
  | .execute => false

theorem isLogin_of_begin {call : Call} {s : ClientState} {q : Request} {p : Pending}
    (h : (call.begin s).turn = .ask q p) :
    (Sight.begins n call).isLogin server n = p.isLogin server := by
  cases call with
  | authenticate server' password =>
    obtain ⟨-, rfl⟩ := Turn.ask.inj h
    simp [Sight.isLogin, Pending.isLogin]
  | execute server' line =>
    rcases turn_begin_execute server' line s with hb | hb
    · obtain ⟨-, rfl⟩ := Turn.ask.inj (h.symm.trans hb)
      rfl
    · cases h.symm.trans hb
  | isAuthenticated => cases h

theorem verdict?_of_begin {call : Call} {s : ClientState} (h : (call.begin s).turn = .answer r) :
    verdict? server seen (.ends i r) = none := by
  cases call with
  | authenticate => cases h
  | execute server' line =>
    rcases turn_begin_execute server' line s with hb | hb
    · cases h.symm.trans hb
    · cases h.symm.trans hb
      rfl
  | isAuthenticated =>
    cases h
    rfl

theorem isAuthenticated_resume {p : Pending} {o : Outcome protocol} {s : ClientState}
    (h : (Call.resume p o s).turn = .answer r)
    (hp : seen.any (Sight.isLogin server i) = p.isLogin server) :
    (Call.resume p o s).state.isAuthenticated server =
      (verdict? server seen (.ends i r)).getD (s.isAuthenticated server) := by
  unfold Call.resume at h ⊢
  split at h
  · cases h
    rw [verdict?, hp, isAuthenticated_remember, Pending.isLogin]
    split
    · next hs => simp [hs]
    · next hs => simp [hs]
  · cases h
    rw [verdict?, hp, isAuthenticated_forget, Pending.isLogin]
    split
    · next hs => simp [hs]
    · next hs => simp [hs]
  · cases h
    rfl
  · cases h
    rfl
  · cases h
    rfl

/-- What an act shows, and what the client remembers after it. -/
inductive Shown (w : World client) (a : Act client) : Prop
  | closed (h : sights w a = [.closes]) (hs : (w.act a).state = w.state.forgetAll)
  | resumed (i : Nat) (x : Resumption client) (r : Result) (hx : w.resumption? i a = some x)
    (hr : x.move.turn = .answer r) (h : sights w a = [.ends i r])
    (hs : (w.act a).state = x.move.state)
  | silent (h : ∀ s ∈ sights w a, s.isClose = false ∧ ∀ server seen, verdict? server seen s = none)
    (hs : (w.act a).state.authenticated = w.state.authenticated)

theorem shown (w : World client) (a : Act client) : Shown w a := by
  -- When no call goes on, only the beginning of a call can bring one to its result.
  by_cases hx : ∃ i x, w.resumption? i a = some x
  · obtain ⟨i, x, hx⟩ := hx
    obtain ⟨r, hr, hc, hs⟩ := calls_resume hx
    obtain ⟨rfl, -, ticket, hi, -⟩ := World.resumption?_eq_some hx
    have hlt : i < w.calls.length := (List.getElem?_eq_some_iff.1 hi).1
    exact .resumed i x r hx hr (endings_of_set hlt (result?_of_waiting hi) hc) hs
  · have hends {s : Sight} (h : s ∈ endings w (w.act a)) : ∃ i r, s = .ends i r ∧
        ∃ call, a = .start call ∧ (call.begin w.state).turn = .answer r := by
      obtain ⟨i, r, hs, hgo | ⟨call, hcall, -, ht⟩⟩ := mem_endings_act h
      · exact absurd ⟨i, hgo⟩ hx
      · exact ⟨i, r, hs, call, hcall, ht⟩
    cases a with
    | close =>
      refine .closed ?_ w.state_startClose
      have hnil : endings w (w.act .close) = [] := by
        refine List.eq_nil_iff_forall_not_mem.2 fun s h ↦ ?_
        obtain ⟨-, -, -, call, hcall, -⟩ := hends h
        cases hcall
      rw [sights, hnil]
      rfl
    | start call =>
      have hs : (w.act (.start call)).state = (call.begin w.state).state :=
        World.state_make (w.addCall .closed) _ _
      refine .silent (fun s h ↦ ?_) (hs ▸ authenticated_begin call w.state)
      rcases List.mem_append.1 h with h | h
      · obtain rfl := List.mem_singleton.1 h
        exact ⟨rfl, fun _ _ ↦ rfl⟩
      · obtain ⟨i, r, rfl, call', hcall, ht⟩ := hends h
        obtain rfl := World.Act.start.inj hcall
        exact ⟨rfl, fun _ _ ↦ verdict?_of_begin ht⟩
    | task | signal | turn | network | clock | schedule =>
      refine .silent (fun s h ↦ ?_) ?_
      · obtain ⟨-, -, -, call, hcall, -⟩ := hends h
        cases hcall
      · rcases w.state_act _ with hs | ⟨ha, -⟩ | ⟨call, ha, -⟩ | ⟨i, x, hgo, -⟩
        · rw [hs]
        · cases ha
        · cases ha
        · exact absurd ⟨i, x, hgo⟩ hx

theorem number_of_mem_sights {s : Sight} (h : s ∈ sights w a) {i : Nat} (hi : s.number? = some i) :
    i < (w.act a).calls.length := by
  rcases List.mem_append.1 h with h | h
  · rw [World.length_calls_act]
    cases a with
    | start call =>
      obtain rfl := List.mem_singleton.1 h
      obtain rfl := Option.some.inj hi
      exact Nat.lt_succ_self _
    | close =>
      obtain rfl := List.mem_singleton.1 h
      cases hi
    | task | signal | turn | network | clock | schedule => cases h
  · obtain ⟨j, r, rfl, -, hr⟩ := mem_endings h
    obtain rfl := Option.some.inj hi
    exact lt_of_result? hr

theorem begins_mem_sights {call : Call} (h : .begins i call ∈ sights w a) :
    a = .start call ∧ i = w.calls.length := by
  rcases List.mem_append.1 h with h | h
  · cases a with
    | start call' =>
      obtain ⟨rfl, rfl⟩ := Sight.begins.inj (List.mem_singleton.1 h)
      exact ⟨rfl, rfl⟩
    | close => cases List.mem_singleton.1 h
    | task | signal | turn | network | clock | schedule => cases h
  · exact absurd h begins_notMem_endings

/-- What the client knows agrees with what was seen of it: `gate` is what is wanted, and `logins`
tells whose verdict it is when a call goes on. -/
structure Told (w : World client) (seen : List Sight) : Prop where
  numbers : ∀ s ∈ seen, ∀ i, s.number? = some i → i < w.calls.length
  logins : ∀ i ticket p server, w.calls[i]? = some (.waiting ticket p) →
    seen.any (Sight.isLogin server i) = p.isLogin server
  gate : ∀ server,
    w.state.isAuthenticated server = decide ((verdicts server seen).getLast? = some true)

namespace Told

variable (h : Told w seen)
include h

theorem numbers_act (a : Act client) : ∀ s ∈ seen ++ sights w a, ∀ i, s.number? = some i →
    i < (w.act a).calls.length := by
  intro s hs i hi
  rcases List.mem_append.1 hs with hs | hs
  · have hlt := h.numbers s hs i hi
    rw [World.length_calls_act]
    split
    · exact Nat.lt_succ_of_lt hlt
    · exact Nat.lt_succ_of_lt hlt
    · exact hlt
  · exact number_of_mem_sights hs hi

theorem logins_act (a : Act client) {ticket : Except Failure Nat} {p : Pending}
    (hi : (w.act a).calls[i]? = some (.waiting ticket p)) :
    (seen ++ sights w a).any (Sight.isLogin server i) = p.isLogin server := by
  rw [List.any_append]
  rcases waiting_act hi with hold | ⟨rfl, call, q, rfl, ht⟩
  · have hlt : i < w.calls.length := (List.getElem?_eq_some_iff.1 hold).1
    have hnone : (sights w a).any (Sight.isLogin server i) = false :=
      any_isLogin fun _ hs ↦ Nat.ne_of_lt hlt (begins_mem_sights hs).2
    rw [hnone, Bool.or_false, h.logins i ticket p server hold]
  · -- Nothing was seen of a call before it begins.
    have hseen : seen.any (Sight.isLogin server w.calls.length) = false :=
      any_isLogin fun _ hs ↦ absurd (h.numbers _ hs _ rfl) (Nat.lt_irrefl _)
    have hends : (endings w (w.act (.start call))).any (Sight.isLogin server w.calls.length) = false :=
      any_isLogin fun _ hs ↦ begins_notMem_endings hs
    have hbegin : (Sight.begins w.calls.length call).isLogin server w.calls.length =
        p.isLogin server := isLogin_of_begin ht
    rw [hseen, Bool.false_or, sights, List.any_append, hends, Bool.or_false, ← hbegin]
    exact Bool.or_false _

theorem verdicts_act (a : Act client) (hopen : ∀ s ∈ sights w a, s.isClose = false) :
    verdicts server (seen ++ sights w a) =
      verdicts server seen ++ (sights w a).filterMap (verdict? server (seen ++ sights w a)) :=
  verdicts_append h.numbers (fun _ _ hs ↦ Nat.le_of_eq (begins_mem_sights hs).2.symm) hopen

theorem gate_act (a : Act client) (server : SocketAddress) : (w.act a).state.isAuthenticated server =
    decide ((verdicts server (seen ++ sights w a)).getLast? = some true) := by
  cases shown w a with
  | closed hsights hs =>
    rw [hsights, verdicts_close, hs]
    rfl
  | resumed i x r hx hr hsights hs =>
    obtain ⟨-, hstate, ticket, hi, -⟩ := World.resumption?_eq_some hx
    have hopen : ∀ s ∈ sights w a, s.isClose = false := by
      rw [hsights]
      intro s hmem
      rw [List.mem_singleton.1 hmem]
      rfl
    have hlogin : (seen ++ sights w a).any (Sight.isLogin server i) = x.pending.isLogin server := by
      rw [hsights, List.any_append, h.logins i ticket x.pending server hi]
      exact Bool.or_false _
    -- The new verdict, if there is one, is the last one from now on.
    have hresume := isAuthenticated_resume hr hlogin
    rw [hs, Resumption.move, hresume, hstate, h.gate server, h.verdicts_act a hopen, hsights,
      decide_getLast?]
  | silent hsilent hs =>
    have hnil : (sights w a).filterMap (verdict? server (seen ++ sights w a)) = [] :=
      List.filterMap_eq_nil_iff.2 fun s hmem ↦ (hsilent s hmem).2 server _
    rw [h.verdicts_act a fun s hmem ↦ (hsilent s hmem).1, hnil, List.append_nil, ← h.gate server,
      ClientState.isAuthenticated, hs]
    rfl

theorem act (a : Act client) : Told (w.act a) (seen ++ sights w a) where
  numbers := h.numbers_act a
  logins _ _ _ _ hi := h.logins_act a hi
  gate := h.gate_act a

theorem perform (as : List (Act client)) : Told (w.perform as) (seen ++ gather sights w as) := by
  induction as generalizing w seen with
  | nil => exact (List.append_nil seen).symm ▸ h
  | cons a as ih =>
    rw [gather, ← List.append_assoc]
    exact ih (h.act a)

end Told

theorem launch_told (config : Config) (net : Network) : Told (launch config net) [] where
  numbers _ h := by cases h
  logins _ _ _ _ h := by cases h
  gate _ := rfl

/-- A call was refused: it is over, and nothing else has changed but what is ready to run. -/
structure Refused (w w' : World client) (server : SocketAddress) : Prop where
  calls : w'.calls = w.calls ++ [.over (.output (.error (.notAuthenticated server)))]
  state : w'.state = w.state
  courier : ∃ agenda, w'.courier = w.courier.mapDesk ({ · with agenda })
  transport : w'.transport = w.transport

theorem courier_refresh (w : World client) :
    ∃ agenda, w.refresh.courier = w.courier.mapDesk ({ · with agenda }) := by
  let idle (m : Courier protocol) : Courier protocol := m.mapDesk ({ · with agenda := {} })
  have hworker (m : Courier protocol) : idle m.wakeWorker = idle m := by
    unfold Courier.wakeWorker
    split <;> rfl
  have hidle : idle w.refresh.courier = idle w.courier :=
    (hworker _).trans (foldl_keeps idle (fun m i ↦ (rfl : idle (m.wake (.call i)) = idle m)) _ _)
  exact ⟨w.refresh.courier.desk.agenda,
    congrArg (·.mapDesk ({ · with agenda := w.refresh.courier.desk.agenda })) hidle⟩

theorem begin_execute_of_unknown {s : ClientState} (h : s.isAuthenticated server = false)
    (line : String) : Call.begin (.execute server line) s =
      { state := s, turn := .answer (.output (.error (.notAuthenticated server))) } := by
  simp [Call.begin, h]

theorem refused_of_unknown (h : w.state.isAuthenticated server = false) (line : String) :
    Refused w (w.act (.start (.execute server line))) server := by
  have hact : w.act (.start (.execute server line)) =
      ((w.addCall .closed).setCall w.calls.length
        (.over (.output (.error (.notAuthenticated server))))).refresh := by
    change ((w.addCall .closed).make w.calls.length (Call.begin (.execute server line) w.state)).refresh = _
    rw [begin_execute_of_unknown h]
    rfl
  rw [hact]
  refine ⟨?_, rfl, courier_refresh _, rfl⟩
  rw [World.calls_refresh]
  simp [World.setCall, World.addCall]

theorem ids_of_unknown (h : w.state.isAuthenticated server = false) (line : String) :
    ids w [.start (.execute server line)] = [] := by
  have hbegin : client.begin w.net (.execute server line) w.state = _ := begin_execute_of_unknown h line
  rw [ids, gather, allotments, hbegin]
  rfl

theorem Refused.result? (h : Refused w w' server) :
    Console.result? w' w.calls.length = some (.output (.error (.notAuthenticated server))) := by
  refine result?_of_over ?_
  rw [h.calls]
  exact List.getElem?_concat_length

/-- In every run, with calls in any order and at any time: the client says that it is authenticated
with a server exactly when the last login on it that was taken or rejected since the client was last
closed was taken. Otherwise it refuses commands for the server: no id is given out, nothing is
queued, sent or connected, and the refusal is final. -/
theorem gate_follows_verdicts (config : Config) (net : Network) (server : SocketAddress)
    (as : List (Act client)) :
    let w := (launch config net).perform as
    let known : Bool :=
      (verdicts server (gather sights (launch config net) as)).getLast? = some true
    w.state.isAuthenticated server = known ∧
      result? (w.act (.start (.isAuthenticated server))) w.calls.length = some (.status known) ∧
      (known = false → ∀ line,
        let refused := w.act (.start (.execute server line))
        Refused w refused server ∧
          ids (launch config net) (as ++ [.start (.execute server line)]) =
            ids (launch config net) as ∧
          ∀ after, World.resumptions w.calls.length refused after = [] ∧
            result? (refused.perform after) w.calls.length =
              some (.output (.error (.notAuthenticated server)))) := by
  intro w known
  have hgate : w.state.isAuthenticated server = known :=
    ((launch_told config net).perform as).gate server
  refine ⟨hgate, ?_, fun hknown line ↦ ?_⟩
  · rcases call_start w (.isAuthenticated server) with ⟨r, hr, hc⟩ | ⟨q, p, ticket, ht, -⟩
    · obtain rfl := Turn.answer.inj hr
      rw [result?_of_over hc, hgate]
    · cases ht
  · have hunknown : w.state.isAuthenticated server = false := hgate.trans hknown
    have hrefused := refused_of_unknown hunknown line
    refine ⟨hrefused, ?_, fun after ↦ (result?_perform hrefused.result? after).symm⟩
    rw [ids_append, ids_of_unknown hunknown line, List.append_nil]

/-- Word comes that the password of the second request was wrong. -/
def rejecting (password : String) : Act client :=
  .signal (.delivery (.error ⟨some ⟨some 1, Request.auth away 101 password⟩, .wrongPassword⟩))

/-- A password is taken, and then another one is rejected. -/
def takenThenRejected : List (Act client) :=
  passwordTaken ++
    [.start (.authenticate away "wrong"), .task .worker, rejecting "wrong", .task (.call 1)]

theorem command_refused_after_rejection :
    let w := (launch {} greetsFirst).perform takenThenRejected
    let refused := w.act (.start (.execute away "status"))
    verdicts away (gather sights (launch {} greetsFirst) takenThenRejected) = [true, false] ∧
      Refused w refused away ∧
      ids (launch {} greetsFirst) (takenThenRejected ++ [.start (.execute away "status")]) =
        [100, 101] ∧
      result? refused 2 = some (.output (.error (.notAuthenticated away))) := by
  intro w refused
  have hverdicts : verdicts away (gather sights (launch {} greetsFirst) takenThenRejected) =
      [true, false] := by decide +kernel
  have hids : ids (launch {} greetsFirst) takenThenRejected = [100, 101] := by decide +kernel
  have htwo : w.calls.length = 2 := by decide +kernel
  have hlast : decide ((verdicts away (gather sights (launch {} greetsFirst)
      takenThenRejected)).getLast? = some true) = false := by
    rw [hverdicts]
    rfl
  obtain ⟨-, -, hrefuse⟩ := gate_follows_verdicts {} greetsFirst away takenThenRejected
  obtain ⟨hrefused, hsame, hafter⟩ := hrefuse hlast "status"
  have hresult := (hafter []).2
  rw [htwo] at hresult
  exact ⟨hverdicts, hrefused, hsame.trans hids, hresult⟩

end GameServers.Console
