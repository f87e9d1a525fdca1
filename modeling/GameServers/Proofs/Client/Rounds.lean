import GameServers.Proofs.Client.Alone

namespace GameServers

namespace Courier

variable {P : Protocol} {m : Courier P}

theorem getElem?_enqueue (m : Courier P) (q : P.Request) :
    ∃ t, (m.enqueue q).desk.tickets[m.desk.tickets.length]? = some t ∧ t.outcome = none := by
  have hb : (m.enqueue q).desk.tickets = m.desk.tickets ++ [{ request := q, createdAt := _ }] :=
    congrArg (·.desk.tickets) (m.bare_enqueue q)
  rw [hb]
  exact ⟨_, List.getElem?_concat_length, rfl⟩

end Courier

namespace World

variable {c : Client} {w : World c} {i : Nat} {expects : c.Pending → c.P.Request → Prop}
  {G : c.P.Request → c.P.Response → Prop} {q q' : c.P.Request} {p : c.Pending} {r : c.P.Response}

def Rests (w : World c) (i : Nat) : Prop := w.resumption? i (.task (.call i)) = none

theorem Rests.resumptions_eq (h : w.Rests i) : resumptions i w [.task (.call i)] = [] := by
  rw [resumptions, show w.resumption? i (.task (.call i)) = none from h]
  rfl

theorem continues_silence {a : Act c} {index : Nat} {time : Time}
    (ha : a ∈ silence (c := c) i index time) : a.Continues := by
  simp only [silence, List.mem_cons, List.not_mem_nil, or_false] at ha
  rcases ha with rfl | rfl | rfl | rfl | rfl <;> trivial

theorem inTime_silence (w : World c) (i index : Nat) (time : Time) :
    InTime G w (silence i index time) := by
  simp [InTime, silence, EachArrival, arrivals]

theorem continues_round {a : Act c} (ha : a ∈ round i r) : a.Continues := by
  simp only [round, List.mem_cons, List.not_mem_nil, or_false] at ha
  rcases ha with rfl | rfl | rfl <;> trivial

theorem rests_make {move : Move c.P c.State c.Pending c.Result} (hi : i < w.calls.length)
    (hr : w.courier.refusal? true = none) (h : Open expects (w.make i move).refresh) :
    (w.make i move).refresh.Rests i := by
  have hb := bare_report { w with state := move.state } move.events
  let k := ({ w with state := move.state }.report move.events).courier
  cases ht : move.turn with
  | answer result =>
    have hcall : (w.make i move).refresh.calls[i]? = some (.over result) := by
      simp only [calls_refresh, make, ht]
      exact List.getElem?_set_self hi
    simp only [Rests, resumption?, if_true, hcall]
  | ask q p =>
    have hsend : (w.make i move).courier = k.enqueue q := by
      rcases k.send_cases q true with ⟨-, hs⟩ | ⟨e, he, -⟩
      · simp only [make, ht]
        exact congrArg Prod.fst hs
      · cases he.symm.trans ((congrArg (·.refusal? true) hb).trans hr)
    have hlen : k.desk.tickets.length = w.courier.desk.tickets.length :=
      congrArg (·.desk.tickets.length) hb
    have hkept : (w.make i move).refresh.courier.desk.tickets = (k.enqueue q).desk.tickets := by
      rw [← hsend]
      exact congrArg (·.desk.tickets) (bare_refresh (w.make i move))
    obtain ⟨t, hnew, ho⟩ := k.getElem?_enqueue q
    rw [← hkept, hlen] at hnew
    have hcall : (w.make i move).refresh.calls[i]? =
        some (.waiting (.ok w.courier.desk.tickets.length) p) := by
      rw [calls_refresh, calls_make hr ht]
      exact List.getElem?_set_self hi
    have hout := (h.sound.outcome?_eq (Courier.isOpen_eq_true.2 h.opened) hnew).trans ho
    simp only [Rests, resumption?, if_true, hcall]
    exact Option.map_eq_none_iff.2 hout

theorem Open.rests_start (h : Open expects w) (hc : c.AsksFor expects) (hi : w.Idle)
    (call : c.Call) : (w.act (.start call)).Rests w.calls.length :=
  rests_make (w := w.addCall .closed) (by simp [addCall]) (h.refusal?_of_idle hi)
    (h.act hc (a := .start call) (by simp))

namespace Alone

theorem rests_act {x : Resumption c} (h : Alone expects w i) (hc : c.AsksFor expects)
    (hx : w.resumption? i (.task (.call i)) = some x) : (w.act (.task (.call i))).Rests i := by
  have hact : w.act (.task (.call i)) = (w.make i x.move).refresh :=
    congrArg refresh (resumeCall_of_some hx)
  obtain ⟨-, -, ticket, hi, -⟩ := resumption?_eq_some hx
  have hopen := h.toOpen.act hc (a := .task (.call i)) (by simp)
  rw [hact] at hopen ⊢
  exact rests_make (List.getElem?_eq_some_iff.1 hi).1 (h.refusal?_of_resumption hx) hopen

theorem eq_of_waits (h : Alone expects w i) (hs : w.Shows i (.ask q p))
    (hq : w.courier.Waits q') : q' = q := by
  obtain ⟨t, ht, rfl, ho⟩ := hq
  obtain ⟨n, hn⟩ := List.mem_iff_getElem?.1 ht
  obtain ⟨j, p', hj⟩ := h.owned hn ho
  obtain ⟨rfl, -⟩ := h.only hj
  obtain ⟨ticket, hi, htq⟩ := hs
  injection Option.some.inj (hj.symm.trans hi) with hticket
  obtain ⟨t', ht', rfl⟩ := htq n hticket.symm
  rw [Option.some.inj (ht'.symm.trans hn)]

variable (h : Alone expects w i) (hs : w.Shows i (.ask q p))

include h hs

theorem inTime_round (hc : c.AsksFor expects) (hG : G q r) : InTime G w (round i r) := by
  have hworker := (h.act hc (a := .task .worker) trivial).1
  have hshows : (w.act (.task .worker)).Shows i (.ask q p) :=
    hs.follows h.sound (h.goes (a := .task .worker) (by simp)).runs rfl
  refine ⟨by simp [arrivals], fun r' hr q' hq _ ↦ ?_, by simp [arrivals], trivial⟩
  obtain rfl : r' = r := by simpa [arrivals] using hr
  rw [hworker.eq_of_waits hshows hq]
  exact hG

variable (hP : Courier.NamesAll c.P) (hw : w.Rests i)
  (hr : (Envelope.response r : Envelope c.P).sessionId = (Envelope.request q).sessionId)

include hP hw hr

theorem resumptions_round (hc : c.AsksFor expects) :
    resumptions i w (round i r) = [⟨p, .ok r, w.state⟩] := by
  rcases h.goesOn hc hP hs with ⟨o, ho⟩ | ⟨hgo, -⟩
  · cases hw.resumptions_eq.symm.trans ho
  · exact hgo r hr

theorem rests_round (hc : c.AsksFor expects) : (w.perform (round i r)).Rests i := by
  let k := (w.act (.task .worker)).act (.signal (.delivery (.ok r)))
  have hworker := (h.act hc (a := .task .worker) trivial).1
  have hk : Alone expects k i := (hworker.act hc (a := .signal (.delivery (.ok r))) trivial).1
  have hx : (k.resumption? i (.task (.call i))).toList ++ [] = [⟨p, .ok r, w.state⟩] :=
    h.resumptions_round hs hP hw hr hc
  rw [List.append_nil] at hx
  exact hk.rests_act hc (Option.toList_eq_singleton_iff.1 hx)

omit hr in
/-- After a silence the call has gone on, and waits again. -/
theorem resumptions_silence (hc : c.AsksFor expects) : ∃ index time id elapsed,
    resumptions i w (silence i index time) = [⟨p, .error (.readTimeout id elapsed), w.state⟩] ∧
      (w.perform (silence i index time)).Rests i := by
  rcases h.goesOn hc hP hs with ⟨o, ho⟩ | ⟨-, time, index, id, elapsed, hgo⟩
  · cases hw.resumptions_eq.symm.trans ho
  · refine ⟨index, time, id, elapsed, hgo, ?_⟩
    let before : List (Act c) :=
      [.task .worker, .task (.timer index), .clock time, .task (.timer index)]
    have hbefore : Alone expects (w.perform before) i := by
      refine (h.perform hc fun a ha ↦ ?_).1
      have hmem : a ∈ silence (c := c) i index time := List.mem_append_left _ ha
      exact continues_silence hmem
    have hx : ((w.perform before).resumption? i (.task (.call i))).toList ++ [] = [⟨p, _, w.state⟩] :=
      hgo
    rw [List.append_nil] at hx
    exact hbefore.rests_act hc (Option.toList_eq_singleton_iff.1 hx)

end Alone

end World

end GameServers
