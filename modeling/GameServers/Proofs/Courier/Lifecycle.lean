import GameServers.Proofs.Courier.Moves

namespace GameServers

variable {P : Protocol}

namespace Status

theorem Leg.ne {st st' : Status} {ms : List Status} (h : Leg st ms st') : st ≠ st' := by
  cases h with
  | takenUp h | refused h | settled h =>
    rcases h with rfl | rfl <;> decide
  | written | putBack | turnedAway => decide

theorem Leg.not_done {st st' : Status} {ms : List Status} (h : Leg st ms st') : st ≠ .done := by
  cases h with
  | takenUp h | refused h | settled h =>
    rcases h with rfl | rfl <;> decide
  | written | putBack | turnedAway => decide

def ending (st : Status) : List Status := if st = done then [done] else []

theorem Leg.getLast? {st st' : Status} {ms : List Status} (h : Leg st ms st') (way : List Status) :
    (way ++ (ms ++ st'.ending)).getLast? = some st' := by
  cases h <;> simp [ending]

end Status

namespace Desk

variable {d d' : Desk P} {n : Nat} {t : Ticket P}

def status? (d : Desk P) (n : Nat) : Option Status := d.tickets[n]?.map Ticket.status

/-- The statuses that a ticket takes between two states of the desk, if it is the only one to move.
Reports tell of all but the last. -/
def taken (n : Nat) (d d' : Desk P) : List Status :=
  match d.status? n, d'.status? n with
  | none, some st => [st]
  | some st, some st' =>
    if st = st' then []
    else (d'.moves.drop d.moves.length).map Prod.snd ++ st'.ending
  | _, none => []

theorem taken_of_status_eq (h : d'.status? n = d.status? n) : taken n d d' = [] := by
  unfold taken
  rw [h]
  cases d.status? n <;> simp

theorem Passes.taken (h : d.Passes d') (n : Nat) :
    d'.status? n = d.status? n ∨
      (d.status? n = none ∧ d'.status? n = some .new) ∨
      ∃ st ms st', d.status? n = some st ∧ d'.status? n = some st' ∧ Status.Leg st ms st' ∧
        taken n d d' = ms ++ st'.ending := by
  cases h with
  | still ht => exact .inl (congrArg (·[n]?.map Ticket.status) ht)
  | issued t hn ht =>
    rw [status?, status?, ht]
    rcases Nat.lt_trichotomy n d.tickets.length with hlt | rfl | hgt
    · exact .inl (congrArg _ (List.getElem?_append_left hlt))
    · exact .inr (.inl ⟨by simp, by simp [hn]⟩)
    · rw [List.getElem?_eq_none (l := d.tickets) hgt.le, List.getElem?_eq_none (by simp; omega)]
      exact .inl rfl
  | went k t f ms ht hf hl hm =>
    by_cases hk : n = k
    · subst hk
      have hst : d.status? n = some t.status := congrArg _ ht
      have hst' : d'.status? n = some (f t).status :=
        congrArg (Option.map Ticket.status)
          ((congrArg (·[n]?) hf).trans (getElem?_modify_of_some ht))
      refine .inr (.inr ⟨_, ms, _, hst, hst', hl, ?_⟩)
      rw [Desk.taken, hst, hst', hm, List.drop_left]
      simp only [if_neg hl.ne, List.map_map, Function.comp_def, List.map_id']
    · refine .inl (congrArg (Option.map Ticket.status) ?_)
      exact (congrArg (·[n]?) hf).trans (getElem?_modify_of_ne hk)

theorem Passes.frozen (h : d.Passes d') (ht : d.tickets[n]? = some t) (hd : t.status = .done) :
    d'.tickets[n]? = some t := by
  cases h with
  | still htickets => rw [htickets, ht]
  | issued u _ htickets =>
    rw [htickets, List.getElem?_append_left (List.getElem?_eq_some_iff.1 ht).1, ht]
  | went k u f ms hu hf hl =>
    have hk : n ≠ k := by
      rintro rfl
      rw [Option.some.inj (hu.symm.trans ht)] at hl
      exact hl.not_done hd
    exact ((congrArg (·[n]?) hf).trans (getElem?_modify_of_ne hk)).trans ht

end Desk

namespace Status

/-- What the last attempt at a request has come to, as long as the request is not done. -/
def sofar : Status → List Status
  | new | retry | done => []
  | accepted => [accepted]
  | registered => [accepted, registered]
  | await => [accepted, registered, await]
  | sent => [accepted, registered, await, sent]

/-- A way to a status: failed attempts, then a last one that may stop anywhere, then the end. -/
def Way (st : Status) (way : List Status) : Prop :=
  ∃ k last, way = .new :: (List.replicate k [accepted, registered, await, retry]).flatten ++ last ++
      st.ending ∧
    last <+: [accepted, registered, await, sent] ∧ (st ≠ .done → last = st.sofar)

theorem Way.new : Way .new [.new] := ⟨0, [], rfl, List.nil_prefix, fun _ ↦ rfl⟩

theorem Way.leg {st st' : Status} {ms way : List Status} (h : Way st way) (hl : Leg st ms st') :
    Way st' (way ++ (ms ++ st'.ending)) := by
  obtain ⟨k, last, rfl, hp, hlast⟩ := h
  have hnd := hl.not_done
  obtain rfl := hlast hnd
  rw [ending, if_neg hnd, List.append_nil]
  have hretry : (List.replicate (k + 1) [accepted, registered, await, retry]).flatten =
      (List.replicate k [accepted, registered, await, retry]).flatten ++
        [accepted, registered, await, retry] := by
    rw [List.replicate_succ', List.flatten_append, List.flatten_singleton]
  cases hl with
  | takenUp hst =>
    refine ⟨k, [accepted, registered, await], ?_, by decide, fun _ ↦ rfl⟩
    rcases hst with rfl | rfl <;> simp [sofar, ending]
  | refused hst =>
    refine ⟨k, [accepted], ?_, by decide, fun h ↦ absurd rfl h⟩
    rcases hst with rfl | rfl <;> simp [sofar, ending]
  | written =>
    refine ⟨k, [accepted, registered, await, sent], ?_, by decide, fun _ ↦ rfl⟩
    simp [sofar, ending]
  | putBack => exact ⟨k + 1, [], by simp [sofar, ending, hretry], List.nil_prefix, fun _ ↦ rfl⟩
  | turnedAway =>
    refine ⟨k + 1, [], ?_, List.nil_prefix, fun h ↦ absurd rfl h⟩
    simp [sofar, ending, hretry]
  | settled hst => exact ⟨k, _, by simp, hp, fun h ↦ absurd rfl h⟩

end Status

namespace Courier

variable {m : Courier P} {n w : Nat} {t : Ticket P} {s : Session} {x : Write}

/-- All statuses that a ticket takes in the course of a run. -/
def history (n : Nat) (m : Courier P) : List (Act P) → List Status
  | [] => []
  | a :: as => Desk.taken n m.desk (m.act a).desk ++ (m.act a).history n as

theorem history_concat (m : Courier P) (as : List (Act P)) (a : Act P) :
    m.history n (as ++ [a]) =
      m.history n as ++ Desk.taken n (m.run as).desk ((m.run as).act a).desk := by
  induction as generalizing m with
  | nil => exact List.append_nil _
  | cons b as ih =>
    rw [List.cons_append, history, ih, history, List.append_assoc]
    rfl

theorem Sound.taken (h : Sound m) (a : Act P) (n : Nat) :
    (m.act a).desk.status? n = m.desk.status? n ∨
      (m.desk.status? n = none ∧ (m.act a).desk.status? n = some .new) ∨
      ∃ st ms st', m.desk.status? n = some st ∧ (m.act a).desk.status? n = some st' ∧
        Status.Leg st ms st' ∧
        Desk.taken n m.desk (m.act a).desk = ms ++ st'.ending := by
  by_cases ha : ∃ e, a = .note e
  · obtain ⟨e, rfl⟩ := ha
    exact .inl rfl
  · exact (h.passes_act (not_exists.1 ha)).taken n

/-- The history of a ticket is a way to the status that it has. -/
theorem way_of_history (config : Config) (as : List (Act P)) (n : Nat) :
    (((make config : Courier P).run as).desk.status? n = none →
        (make config : Courier P).history n as = []) ∧
      ∀ st, ((make config : Courier P).run as).desk.status? n = some st →
        st.Way ((make config : Courier P).history n as) ∧
          ((make config : Courier P).history n as).getLast? = some st := by
  induction as using List.reverseRecOn with
  | nil => exact ⟨fun _ ↦ rfl, fun st hst ↦ by simp [run, make, Desk.status?] at hst⟩
  | append_singleton as a ih =>
    have hm : Sound ((make config : Courier P).run as) := (Sound.make config).run as
    rw [history_concat, run_concat]
    rcases hm.taken a n with hsame | ⟨hnone, hnew⟩ | ⟨st, ms, st', hst, hst', hl, htaken⟩
    · rw [Desk.taken_of_status_eq hsame, hsame, List.append_nil]
      exact ih
    · rw [Desk.taken, hnone, hnew, ih.1 hnone]
      refine ⟨by simp, fun st hst ↦ ?_⟩
      obtain rfl := Option.some.inj hst
      exact ⟨.new, rfl⟩
    · rw [htaken, hst']
      refine ⟨by simp, fun st'' hst'' ↦ ?_⟩
      obtain rfl := Option.some.inj hst''
      exact ⟨(ih.2 st hst).1.leg hl, hl.getLast? _⟩

theorem Sound.frozen (h : Sound m) (ht : m.desk.tickets[n]? = some t) (hd : t.status = .done)
    (as : List (Act P)) : (m.run as).desk.tickets[n]? = some t := by
  induction as generalizing m with
  | nil => exact ht
  | cons a as ih =>
    refine ih (h.act a) ?_
    by_cases ha : ∃ e, a = .note e
    · obtain ⟨e, rfl⟩ := ha
      exact ht
    · exact (h.passes_act (not_exists.1 ha)).frozen ht hd

theorem Sound.strike_of_released (h : Sound m) (hx : m.writes[w]? = some x)
    (hr : m.Released x.ticket) : m.desk.bare.strike x.session = m.desk.bare := by
  have hreg : m.desk.registry.remove x.session = m.desk.registry := by
    refine h.filed.remove_of_not_mem fun s hs hi ↦ hr.unregistered s hs ?_
    rw [h.entry_eq_of_index hx hs hi.2]
    rfl
  have htimers : m.desk.timers.filter (·.index ≠ x.session.index) = m.desk.timers := by
    refine List.filter_eq_self.2 fun τ hτ ↦ ?_
    simpa using hr.disarmed x (List.mem_of_getElem? hx) rfl τ hτ
  simp only [Desk.strike, Desk.bare, hreg, htimers]

theorem Sound.finishWrite_of_done (h : Sound m) (hw : m.writes[w]? = some ⟨s, .started⟩)
    (ht : m.desk.tickets[s.ticket]? = some t) (hd : t.status = .done)
    (result : Except Failure Unit) :
    ∃ written, (m.finishWrite w result).bare = (m.setWrite w (.finished written)).bare := by
  have ho : t.outcome ≠ none := Option.isSome_iff_ne_none.1 ((h.coherent ht).1 hd)
  have hsame {f : Ticket P → Ticket P} (hf : f t = t) :
      m.desk.bare.modify s.ticket f = m.desk.bare :=
    Desk.modify_eq_self fun u hu ↦ by
      rw [Option.some.inj (hu.symm.trans ht), hf]
  cases result with
  | ok =>
    refine ⟨true, ?_⟩
    have hsent : t.advance .sent = t := t.advance_of_not _ (by rw [hd]; rfl)
    rw [bare_finishWrite_ok hw, hsame (f := (·.advance .sent)) hsent]
    rfl
  | error e =>
    have hr : m.canRetry s.ticket = false := by
      rw [Bool.eq_false_iff]
      intro hr
      exact ho (h.outcome_of_canRetry ht hr)
    refine ⟨false, ?_⟩
    have hfailed : t.complete (.error e) = t := t.complete_of_some _ ho
    rw [bare_finishWrite_fail h.filed hw e hr, hsame (f := (·.complete (.error e))) hfailed,
      h.strike_of_released hw (h.released_of_settled ht ho)]
    rfl

/-- In every run each request is new, then goes through failed attempts, each of them whole, then
through a last one as far as it comes, and then is done. One act moves one ticket at most, so that
the moves that it reports belong to this ticket. What is done stays as it is, and a write that ends
later changes nothing but itself. -/
theorem lifecycle_in_order (config : Config) (as : List (Act P)) (n : Nat) (t : Ticket P)
    (ht : ((make config : Courier P).run as).desk.tickets[n]? = some t) :
    let m := (make config : Courier P).run as
    (∃ k last, (make config : Courier P).history n as =
        .new :: (List.replicate k [.accepted, .registered, .await, .retry]).flatten ++ last ++
          (if t.status = .done then [.done] else []) ∧
        last <+: [.accepted, .registered, .await, .sent]) ∧
      ((make config : Courier P).history n as).getLast? = some t.status ∧
      (∀ a, (∀ e, a ≠ .note e) → m.desk.Passes (m.act a).desk) ∧
      (t.status = .done →
        (∀ after, (m.run after).desk.tickets[n]? = some t) ∧
        ∀ w s result, m.writes[w]? = some ⟨s, .started⟩ → s.ticket = n →
          ∃ written, (m.finishWrite w result).bare = (m.setWrite w (.finished written)).bare) := by
  intro m
  have hm : Sound m := (Sound.make config).run as
  obtain ⟨⟨k, last, hway, hlast, -⟩, hnow⟩ := (way_of_history config as n).2 t.status
    (congrArg (Option.map Ticket.status) ht)
  refine ⟨⟨k, last, hway, hlast⟩, hnow, fun a ha ↦ hm.passes_act ha, fun hd ↦ ⟨hm.frozen ht hd, ?_⟩⟩
  rintro w s result hw rfl
  exact hm.finishWrite_of_done hw ht hd result

/-- The answer comes before the write is acknowledged. -/
theorem ping_in_order :
    let as : List (Act Plain.protocol) :=
      [.send ping true, .work, .startWrite 0, .accept (.ok ping)]
    let m := (make {} : Courier Plain.protocol).run as
    (make {}).history 0 as = [.new, .accepted, .registered, .await, .done] ∧
      m.writes[0]?.map (fun w ↦ (w.ticket, w.state)) = some (0, .started) ∧
      m.desk.status? 0 = some .done ∧ ((make {}).history 0 as).getLast? = some .done ∧
      ((m.act (.finishWrite 0 (.ok ()))).desk.status? 0 = some .done) ∧
      ∃ written, (m.finishWrite 0 (.ok ())).bare = (m.setWrite 0 (.finished written)).bare := by
  intro as m
  have hhist : (make {}).history 0 as = [.new, .accepted, .registered, .await, .done] := by
    decide +kernel
  have hst : m.desk.status? 0 = some .done := by decide +kernel
  obtain ⟨t, ht, hd⟩ := Option.map_eq_some_iff.1 hst
  obtain ⟨-, hlast, -, hdone⟩ := lifecycle_in_order (P := Plain.protocol) {} as 0 t ht
  obtain ⟨hfrozen, hlate⟩ := hdone hd
  have hw : m.writes[0]?.map (fun w ↦ (w.ticket, w.state)) = some (0, .started) := by
    decide +kernel
  obtain ⟨⟨s, ws⟩, hws, hx⟩ := Option.map_eq_some_iff.1 hw
  obtain ⟨hn, rfl⟩ := Prod.mk.inj hx
  have hstays := congrArg (Option.map Ticket.status) (hfrozen [.finishWrite 0 (.ok ())])
  exact ⟨hhist, hw, hst, hlast.trans (congrArg some hd), hstays.trans (congrArg some hd),
    hlate 0 s (.ok ()) hws hn⟩

/-- The first write of the request fails, and the second succeeds. -/
example : (make { maxWriteRetries := 1 } : Courier Plain.protocol).history 0 [.send ping true,
    .work, .startWrite 0, .finishWrite 0 (.error .closed), .work, .startWrite 1, .finishWrite 1 (.ok ())] =
    [.new, .accepted, .registered, .await, .retry, .accepted, .registered, .await, .sent] := by
  decide +kernel

end Courier

end GameServers
