import GameServers.Proofs.Client.Run
import GameServers.Proofs.Courier.Answers

namespace GameServers

/-- The requests of a client are such as the calls expect that wait for them. -/
structure Client.AsksFor (c : Client) (expects : c.Pending → c.P.Request → Prop) : Prop where
  begin : ∀ {net : Network} {call : c.Call} {state : c.State} {q : c.P.Request} {p : c.Pending},
    (c.begin net call state).turn = .ask q p → expects p q
  resume : ∀ {pending : c.Pending} {outcome : Outcome c.P} {state : c.State} {q : c.P.Request}
    {p : c.Pending}, (c.resume pending outcome state).turn = .ask q p → expects p q

namespace Courier

variable {P : Protocol} {m m' : Courier P}

theorem Runs.paired (h : m.Runs m') (hm : Sound m) (hp : Paired m) : Paired m' := by
  obtain ⟨as, rfl⟩ := h
  exact hp.run hm as

theorem Runs.leads (h : m.Runs m') (hm : Sound m) {n : Nat} {t : Ticket P}
    (ht : m.desk.tickets[n]? = some t) : ∃ t', m'.desk.tickets[n]? = some t' ∧ t.Leads t' := by
  obtain ⟨as, rfl⟩ := h
  exact hm.leads_run as ht

end Courier

namespace World

variable {c : Client} {expects : c.Pending → c.P.Request → Prop} {w w' : World c} {i n : Nat}

structure Asking (expects : c.Pending → c.P.Request → Prop) (w : World c) : Prop where
  sound : w.courier.Sound
  paired : w.courier.Paired
  /-- A call that waits has a ticket for a request that it expects. -/
  asked : ∀ {i n : Nat} {p : c.Pending}, w.calls[i]? = some (.waiting (.ok n) p) →
    ∃ t, w.courier.desk.tickets[n]? = some t ∧ expects p t.request
  closing : ∀ {i : Nat}, w.calls[i]? = some .closing → w.courier.isClosed = true

theorem of_getElem?_setCall {s s' : CallState c} {j : Nat} (h : (w.setCall i s).calls[j]? = some s') :
    w.calls[j]? = some s' ∨ s' = s := by
  rw [setCall, List.getElem?_set] at h
  split at h
  · split at h
    · exact .inr (Option.some.inj h).symm
    · cases h
  · exact .inl h

namespace Asking

theorem follows (h : Asking expects w) (hf : w.Follows w') : Asking expects w' where
  sound := hf.1.sound h.sound
  paired := hf.1.paired h.sound h.paired
  asked hc := by
    rw [hf.2] at hc
    obtain ⟨t, ht, he⟩ := h.asked hc
    obtain ⟨t', ht', hl⟩ := hf.1.leads h.sound ht
    exact ⟨t', ht', by rw [hl.1]; exact he⟩
  closing hc := by
    rw [hf.2] at hc
    exact hf.1.isClosed h.sound (h.closing hc)

theorem setCall (h : Asking expects w) {s : CallState c} (hw : ∀ ticket p, s ≠ .waiting ticket p)
    (hc : s ≠ .closing) : Asking expects (w.setCall i s) where
  sound := h.sound
  paired := h.paired
  asked hi := by
    rcases of_getElem?_setCall hi with hi | hs
    · exact h.asked hi
    · exact absurd hs.symm (hw _ _)
  closing hi := by
    rcases of_getElem?_setCall hi with hi | hs
    · exact h.closing hi
    · exact absurd hs.symm hc

theorem addCall (h : Asking expects w) {s : CallState c} (hw : ∀ ticket p, s ≠ .waiting ticket p)
    (hc : s = .closing → w.courier.isClosed = true) : Asking expects (w.addCall s) where
  sound := h.sound
  paired := h.paired
  asked hi := by
    rcases Courier.getElem?_concat hi with hi | ⟨-, hs⟩
    · exact h.asked hi
    · exact absurd hs.symm (hw _ _)
  closing hi := by
    rcases Courier.getElem?_concat hi with hi | ⟨-, hs⟩
    · exact h.closing hi
    · exact hc hs.symm

theorem ask (h : Asking expects w) {q : c.P.Request} {p : c.Pending} (he : expects p q) :
    Asking expects ({ w with courier := (w.courier.send q true).1 }.setCall i
      (.waiting (w.courier.send q true).2 p)) := by
  have hs : Asking expects { w with courier := (w.courier.send q true).1 } :=
    h.follows (Follows.act w (.send q true))
  refine ⟨hs.sound, hs.paired, fun hi ↦ ?_, fun hi ↦ ?_⟩
  · rcases of_getElem?_setCall hi with hi | hnew
    · exact hs.asked hi
    · injection hnew with hticket hp
      obtain ⟨t, ht, hq⟩ := Courier.ticket_of_send hticket.symm
      exact ⟨t, ht, by rw [hq, hp]; exact he⟩
  · rcases of_getElem?_setCall hi with hi | hnew
    · exact hs.closing hi
    · cases hnew

theorem make (h : Asking expects w) {move : Move c.P c.State c.Pending c.Result}
    (he : ∀ q p, move.turn = .ask q p → expects p q) : Asking expects (w.make i move) := by
  have hr : Asking expects ({ w with state := move.state }.report move.events) :=
    h.follows (Follows.trans ⟨.refl _, rfl⟩ (Follows.report _ _))
  unfold World.make
  split
  · exact hr.setCall (by simp) (by simp)
  · next q p ht => exact hr.ask (he q p ht)

theorem refresh (h : Asking expects w) : Asking expects w.refresh := h.follows (.refresh w)

theorem start (h : Asking expects w) (hc : c.AsksFor expects) (call : c.Call) :
    Asking expects (w.start call) := by
  have ha : Asking expects (w.addCall .closed) := h.addCall (by simp) (by simp)
  exact (ha.make fun q p ht ↦ hc.begin ht).refresh

theorem endClose (h : Asking expects w) (hc : w.courier.isClosed = true) :
    Asking expects (w.endClose i) := by
  have hreg : Asking expects (w.mapCourier Courier.closeRegistry) :=
    h.follows (.mapCourier w _ (.closeRegistry hc))
  have hf := Follows.mapTransport (w.mapCourier Courier.closeRegistry) Transport.close
  have hcl := hf.1.isClosed hreg.sound rfl
  have hend := (hreg.follows hf).follows (.mapCourier _ Courier.endClose (.endClose hcl))
  exact hend.setCall (by simp) (by simp)

theorem startClose (h : Asking expects w) : Asking expects w.startClose := by
  have hs : Asking expects { w with state := c.forget w.state } := h.follows ⟨.refl _, rfl⟩
  unfold World.startClose
  simp only
  split
  · exact hs.addCall (by simp) (by simp)
  · refine refresh ?_
    have hc := w.courier.isClosed_beginClose
    have hb : Asking expects ({ w with state := c.forget w.state }.mapCourier Courier.beginClose) :=
      hs.follows (Follows.act _ .beginClose)
    have ha := hb.addCall (s := .closing) (by simp) fun _ ↦ hc
    split
    · exact ha.endClose hc
    · next hw =>
      split
      · have hab := ha.follows (.mapCourier _ Courier.abortWorker (.abortWorker hc hw))
        exact hab.endClose hc
      · exact ha

theorem resumeCall (h : Asking expects w) (hc : c.AsksFor expects) (i : Nat) :
    Asking expects (w.resumeCall i) := by
  unfold World.resumeCall
  split
  · split
    · exact h.make fun q p ht ↦ hc.resume ht
    · exact h
  · next hi =>
    split
    · exact h.endClose (h.closing hi)
    · exact h
  · exact h

theorem runTask (h : Asking expects w) (hc : c.AsksFor expects) (t : Task) :
    Asking expects (World.runTask t w) := by
  refine refresh ?_
  cases t with
  | worker => exact h.follows (.mapCourier w _ (.workFor _ _))
  | timer index => exact h.follows (Follows.act w (.runTimer index))
  | write n => exact h.follows (.runWrite w n)
  | reader r => exact h.follows (.mapTransport w _)
  | call i => exact h.resumeCall hc i
  | attend a => exact h.follows (.setNet w _)

theorem act (h : Asking expects w) (hc : c.AsksFor expects) (a : Act c) :
    Asking expects (w.act a) := by
  cases a with
  | start call => exact h.start hc call
  | close => exact h.startClose
  | task t => exact h.runTask hc t
  | signal s => exact h.follows (.hear w s)
  | turn => exact h.follows (.takeTurn w)
  | network net => exact h.follows (.setNet w net)
  | clock time => exact h.follows (Follows.act w (.clock time))
  | schedule agenda => exact h.follows (Follows.act w (.schedule agenda))

theorem perform (h : Asking expects w) (hc : c.AsksFor expects) (as : List (Act c)) :
    Asking expects (w.perform as) := by
  induction as generalizing w with
  | nil => exact h
  | cons a as ih => exact ih (h.act hc a)

theorem of_make {config : Config} (hw : w.courier = Courier.make config) (hn : w.calls = []) :
    Asking expects w where
  sound := hw ▸ .make config
  paired := hw ▸ .make config
  asked hi := by simp [hn] at hi
  closing hi := by simp [hn] at hi

/-- When a call goes on with a response, the response fits a request that the call expects. -/
theorem answers (h : Asking expects w) (hP : c.P.TellsApart) {ticket : Except Failure Nat}
    {p : c.Pending} {r : c.P.Response} (hi : w.calls[i]? = some (.waiting ticket p))
    (ho : w.courier.outcomeOf? ticket = some (.ok r)) : ∃ q, expects p q ∧ Answers c.P q r := by
  cases ticket with
  | error e =>
    injection ho with ho
    cases ho
  | ok n =>
    obtain ⟨t, ht, ha⟩ := h.paired.answers hP ho
    obtain ⟨t', ht', he⟩ := h.asked hi
    obtain rfl : t = t' := Option.some.inj (ht.symm.trans ht')
    exact ⟨t.request, he, ha⟩

end Asking

end World

end GameServers
