import GameServers.Proofs.Client.Asking
import GameServers.Proofs.Courier.Responses
import GameServers.Proofs.Transport.Deliveries

namespace GameServers

def Switchboard.responses {P : Protocol} (b : Switchboard P) : List P.Response :=
  b.deliveries.filterMap Except.toOption

def Turn.request? {P : Protocol} {Pending Result : Type} : Turn P Pending Result → Option P.Request
  | .ask q _ => some q
  | .answer _ => none

/-- Listens to some deliveries only, and does nothing else. -/
def Courier.Act.Hears {P : Protocol} (ds : List (Delivery P)) : Courier.Act P → Prop
  | .accept x => x ∈ ds
  | .schedule _ | .note _ => True
  | _ => False

/-- What a call goes on with. -/
structure Resumption (c : Client) where
  pending : c.Pending
  outcome : Outcome c.P
  state : c.State

def Resumption.move {c : Client} (x : Resumption c) : Move c.P c.State c.Pending c.Result :=
  c.resume x.pending x.outcome x.state

namespace World

variable {c : Client}

/-- How a call goes on in an act, if it does. -/
def resumption? (w : World c) (i : Nat) : Act c → Option (Resumption c)
  | .task (.call j) =>
    if j = i then
      match w.calls[i]? with
      | some (.waiting ticket p) => (w.courier.outcomeOf? ticket).map fun o ↦ ⟨p, o, w.state⟩
      | _ => none
    else none
  | _ => none

/-- How a call goes on in the course of a run. -/
def resumptions (i : Nat) : World c → List (Act c) → List (Resumption c)
  | _, [] => []
  | w, a :: as => (w.resumption? i a).toList ++ resumptions i (w.act a) as

def asked (w : World c) : Act c → Option c.P.Request
  | .start call => (c.begin w.net call w.state).turn.request?
  | .task (.call i) => (w.resumption? i (.task (.call i))).bind (·.move.turn.request?)
  | _ => none

def requests (w : World c) : List c.P.Request := w.courier.ledger.map Prod.fst

def arrivals (w : World c) : Act c → List c.P.Response
  | .signal (.delivery (.ok r)) => [r]
  | .task (.reader r) => (w.transport.board.runReader r).responses
  | _ => []

/-- All that the channels had to tell was heard. -/
def AllHeard (w : World c) : Prop := w.transport.board.signals = []

variable {w : World c} {i : Nat}

theorem resumeCall_of_some {x : Resumption c} (h : w.resumption? i (.task (.call i)) = some x) :
    w.resumeCall i = w.make i x.move := by
  simp only [resumption?, if_true] at h
  split at h
  · next ticket p hi =>
    obtain ⟨o, ho, rfl⟩ := Option.map_eq_some_iff.1 h
    simp only [resumeCall, hi, ho]
    rfl
  · cases h

theorem resumeCall_of_none (h : w.resumption? i (.task (.call i)) = none)
    (hc : w.calls[i]? ≠ some .closing) : w.resumeCall i = w := by
  simp only [resumption?, if_true] at h
  unfold resumeCall
  split
  · next ticket p hi =>
    rw [hi] at h
    rw [Option.map_eq_none_iff.1 h]
  · next hi => exact absurd hi hc
  · rfl

theorem transport_hear (w : World c) (s : Signal c.P) : (w.hear s).transport = w.transport := by
  cases s <;> rfl

theorem transport_refresh (w : World c) : w.refresh.transport = w.transport := rfl

theorem allHeard_mapTransport (w : World c) (f : Transport c.P → Transport c.P) :
    (w.mapTransport f).AllHeard := by
  have ht : (w.mapTransport f).transport = _ := foldl_keeps transport transport_hear _ _
  simp only [AllHeard, ht]
  rfl

theorem AllHeard.conclude (h : AllHeard w) (n : Nat) : AllHeard (w.conclude n) := by
  unfold World.conclude
  split <;> exact h

theorem AllHeard.make (h : AllHeard w) (move : Move c.P c.State c.Pending c.Result) :
    AllHeard (w.make i move) := by
  unfold World.make
  split <;> exact h

theorem AllHeard.act (h : AllHeard w) (a : Act c) : AllHeard (w.act a) := by
  have hend (k : World c) (i : Nat) : (k.endClose i).AllHeard :=
    allHeard_mapTransport (k.mapCourier Courier.closeRegistry) Transport.close
  cases a with
  | start call => exact AllHeard.make (w := w.addCall .closed) h _
  | close =>
    simp only [World.act, startClose]
    split
    · exact h
    · simp only [AllHeard, transport_refresh]
      split
      · exact hend _ w.calls.length
      · split
        · exact hend _ w.calls.length
        · exact h
  | task t =>
    cases t with
    | worker | timer | attend => exact h
    | write n =>
      change AllHeard (w.runWrite n)
      unfold World.runWrite
      split
      · split
        · exact h
        · exact (allHeard_mapTransport _ _).conclude n
      · exact (allHeard_mapTransport _ _).conclude n
      · exact h
    | reader r => exact allHeard_mapTransport _ _
    | call i =>
      change AllHeard (w.resumeCall i)
      unfold World.resumeCall
      split
      · split
        · exact h.make _
        · exact h
      · split
        · exact hend _ i
        · exact h
      · exact h
  | signal s => cases s <;> exact h
  | turn | network | clock | schedule => exact h

theorem hears_refresh (w : World c) (ds : List (Delivery c.P)) :
    w.courier.RunsBy (Courier.Act.Hears ds) w.refresh.courier := by
  have hcalls (is : List Nat) (m : Courier c.P) :
      m.RunsBy (Courier.Act.Hears ds) (is.foldl (fun m i ↦ m.wake (.call i)) m) :=
    .foldl (fun m i ↦ .wake (fun _ ↦ trivial) m (.call i)) is m
  exact (hcalls _ w.courier).trans (.wakeWorker (fun _ ↦ trivial) _)

theorem hears_hear {ds : List (Delivery c.P)} (w : World c) {s : Signal c.P}
    (hs : ∀ x, s.delivery? = some x → x ∈ ds) :
    w.courier.RunsBy (Courier.Act.Hears ds) (w.hear s).courier := by
  cases s with
  | delivery x =>
    have hx : w.courier.RunsBy (Courier.Act.Hears ds) (w.mapCourier (·.accept x)).courier :=
      .act w.courier (a := .accept x) (hs x rfl)
    exact hx.trans (hears_refresh _ ds)
  | report event => exact .act w.courier (a := .note event) trivial

theorem hears_mapTransport (w : World c) (f : Transport c.P → Transport c.P) :
    w.courier.RunsBy (Courier.Act.Hears (f w.transport).board.deliveries) (w.mapTransport f).courier := by
  have hall (ss : List (Signal c.P)) (ds : List (Delivery c.P)) (w : World c)
      (hs : ∀ x ∈ ss.filterMap Signal.delivery?, x ∈ ds) :
      w.courier.RunsBy (Courier.Act.Hears ds) (ss.foldl World.hear w).courier := by
    induction ss generalizing w with
    | nil => exact .refl w.courier
    | cons s ss ih =>
      refine (hears_hear w fun x hx ↦ hs x ?_).trans (ih (w.hear s) fun x hx ↦ hs x ?_)
      · exact List.mem_filterMap.2 ⟨s, .head _, hx⟩
      · obtain ⟨s', hs', hx⟩ := List.mem_filterMap.1 hx
        exact List.mem_filterMap.2 ⟨s', .tail _ hs', hx⟩
  exact hall (f w.transport).board.signals _ { w with
    transport := (f w.transport).withBoard { (f w.transport).board with signals := [] } } fun _ hx ↦ hx

/-- The courier goes on, and nothing is closed. It sends no requests but some, and no responses are
delivered but some. -/
def Goes (qs : List c.P.Request) (rs : List c.P.Response) (w w' : World c) : Prop :=
  w.courier.RunsBy (fun a ↦ a.Lets qs rs ∧ a.Keeps) w'.courier

namespace Goes

variable {w' w'' : World c} {qs qs' : List c.P.Request} {rs rs' : List c.P.Response}

theorem refl (w : World c) : Goes qs rs w w := Courier.RunsBy.refl w.courier

theorem trans (h : Goes qs rs w w') (h' : Goes qs rs w' w'') : Goes qs rs w w'' :=
  Courier.RunsBy.trans h h'

theorem mono (h : Goes qs rs w w') (hq : ∀ q ∈ qs, q ∈ qs') (hr : ∀ r ∈ rs, r ∈ rs') :
    Goes qs' rs' w w' := by
  refine Courier.RunsBy.mono h fun a ⟨ha, hk⟩ ↦ ⟨?_, hk⟩
  cases a with
  | send q => exact hq q ha
  | accept x =>
    cases x with
    | ok r => exact hr r ha
    | error => trivial
  | _ => trivial

theorem of_nothing (h : Goes [] [] w w') : Goes qs rs w w' := h.mono (by simp) (by simp)

theorem act (w : World c) {a : Courier.Act c.P} (ha : a.Lets qs rs) (hk : a.Keeps) :
    Goes qs rs w (w.mapCourier (·.act a)) := Courier.RunsBy.act w.courier ⟨ha, hk⟩

theorem of_hears {ds : List (Delivery c.P)}
    (h : w.courier.RunsBy (Courier.Act.Hears ds) w'.courier) :
    Goes [] (ds.filterMap Except.toOption) w w' := by
  refine Courier.RunsBy.mono h fun a ha ↦ ?_
  cases a with
  | accept x =>
    cases x with
    | ok r => exact ⟨List.mem_filterMap.2 ⟨.ok r, ha, rfl⟩, trivial⟩
    | error => exact ⟨trivial, trivial⟩
  | schedule | note => exact ⟨trivial, trivial⟩
  | _ => cases ha

theorem refresh (w : World c) : Goes qs rs w w.refresh := of_nothing (of_hears (hears_refresh w []))

theorem report (w : World c) (events : List (Event c.P)) : Goes qs rs w (w.report events) :=
  .foldl (fun m e ↦ .act m (a := .note e) ⟨trivial, trivial⟩) events w.courier

theorem hear (w : World c) (s : Signal c.P) :
    Goes [] (s.delivery?.toList.filterMap Except.toOption) w (w.hear s) :=
  of_hears (hears_hear w fun _ hx ↦ Option.mem_toList.2 hx)

theorem mapTransport (w : World c) (f : Transport c.P → Transport c.P) :
    Goes [] (f w.transport).board.responses w (w.mapTransport f) := of_hears (hears_mapTransport w f)

theorem of_silent (hs : w.AllHeard) {f : Transport c.P → Transport c.P}
    (hf : (f w.transport).board.deliveries = w.transport.board.deliveries) :
    Goes qs rs w (w.mapTransport f) := by
  have hn : (f w.transport).board.responses = [] := by
    rw [Switchboard.responses, hf, Switchboard.deliveries, hs]
    rfl
  exact of_nothing (hn ▸ mapTransport w f)

theorem conclude (w : World c) (n : Nat) : Goes qs rs w (w.conclude n) := by
  unfold World.conclude
  split
  · next result _ => exact act w (a := .finishWrite n result) trivial trivial
  · exact refl w

theorem runWrite (hs : w.AllHeard) (n : Nat) : Goes qs rs w (w.runWrite n) := by
  unfold World.runWrite
  split
  · split
    · exact refl w
    · next origin _ =>
      have hstart : Goes qs rs w (w.mapCourier (·.startWrite n)) :=
        act w (a := .startWrite n) trivial trivial
      have hbegin : Goes qs rs (w.mapCourier (·.startWrite n))
          ((w.mapCourier (·.startWrite n)).mapTransport (·.begin n origin)) :=
        of_silent (w := w.mapCourier (·.startWrite n)) hs (w.transport.deliveries_begin n origin)
      exact (hstart.trans hbegin).trans (conclude _ n)
  · exact (of_silent hs (w.transport.deliveries_resume n)).trans (conclude _ n)
  · exact refl w

theorem make (w : World c) (i : Nat) (move : Move c.P c.State c.Pending c.Result) :
    Goes move.turn.request?.toList [] w (w.make i move) := by
  have hr : Goes move.turn.request?.toList [] w ({ w with state := move.state }.report move.events) :=
    report { w with state := move.state } move.events
  unfold World.make
  split
  · exact hr
  · next q p ht =>
    refine hr.trans (act _ (a := .send q true) ?_ trivial)
    rw [ht]
    exact .head _

end Goes

theorem goes_act (hs : w.AllHeard) {a : Act c} (ha : a ≠ .close)
    (hc : ∀ i, a = .task (.call i) → w.calls[i]? ≠ some .closing) :
    Goes (w.asked a).toList (w.arrivals a) w (w.act a) := by
  cases a with
  | start call => exact (Goes.make (w.addCall .closed) w.calls.length _).trans (.refresh _)
  | close => exact absurd rfl ha
  | task t =>
    refine Goes.trans ?_ (.refresh _)
    cases t with
    | worker => exact Courier.RunsBy.workFor ⟨trivial, trivial⟩ _ w.courier
    | timer index => exact .act w (a := .runTimer index) trivial trivial
    | write n => exact .runWrite hs n
    | reader r => exact Goes.mapTransport w fun t ↦ t.withBoard (t.board.runReader r)
    | attend => exact .refl w
    | call i =>
      change Goes (w.asked (.task (.call i))).toList [] w (w.resumeCall i)
      cases hx : w.resumption? i (.task (.call i)) with
      | none =>
        rw [resumeCall_of_none hx (hc i rfl)]
        exact .refl w
      | some x =>
        rw [resumeCall_of_some hx, asked, hx]
        exact .make w i x.move
  | signal s =>
    refine (Goes.hear w s).mono (by simp) ?_
    cases s with
    | delivery x => cases x <;> exact fun _ hr ↦ hr
    | report => exact fun _ hr ↦ hr
  | turn => exact .foldl (fun m t ↦ .act m (a := .schedule (m.desk.agenda.wake t)) ⟨trivial, trivial⟩) _ _
  | network => exact .refl w
  | clock time => exact .act w (a := .clock time) trivial trivial
  | schedule agenda => exact .act w (a := .schedule agenda) trivial trivial

theorem Goes.lets {qs : List c.P.Request} {rs : List c.P.Response} {w' : World c}
    (h : Goes qs rs w w') : w.courier.RunsBy (Courier.Act.Lets qs rs) w'.courier :=
  Courier.RunsBy.mono h fun _ ha ↦ ha.1

variable {expects : c.Pending → c.P.Request → Prop}

theorem lets_endClose (h : Asking expects w) (hs : w.AllHeard) (hc : w.courier.isClosed = true) :
    w.courier.RunsBy (Courier.Act.Lets [] []) (w.endClose i).courier := by
  have hreg : w.courier.RunsBy (Courier.Act.Lets [] []) w.courier.closeRegistry :=
    ⟨[.closeRegistry], by simp [Courier.Act.Lets], if_pos hc⟩
  have hf : Goes [] [] (w.mapCourier Courier.closeRegistry)
      ((w.mapCourier Courier.closeRegistry).mapTransport Transport.close) :=
    .of_silent (w := w.mapCourier Courier.closeRegistry) hs w.transport.deliveries_close
  have hcl := hf.runs.isClosed (hreg.runs.sound h.sound) rfl
  have hend : Courier.RunsBy (Courier.Act.Lets [] [])
      ((w.mapCourier Courier.closeRegistry).mapTransport Transport.close).courier _ :=
    ⟨[.endClose], by simp [Courier.Act.Lets], if_pos hcl⟩
  exact (hreg.trans hf.lets).trans hend

theorem lets_startClose (h : Asking expects w) (hs : w.AllHeard) :
    w.courier.RunsBy (Courier.Act.Lets [] []) w.startClose.courier := by
  have hr (k : World c) : k.courier.RunsBy (Courier.Act.Lets [] []) k.refresh.courier :=
    (Goes.refresh k).lets
  have hs' : Asking expects { w with state := c.forget w.state } := h.follows ⟨.refl _, rfl⟩
  unfold World.startClose
  simp only
  split
  · exact .refl w.courier
  · refine .trans ?_ (hr _)
    have hc := w.courier.isClosed_beginClose
    have hb : w.courier.RunsBy (Courier.Act.Lets [] []) w.courier.beginClose :=
      .act w.courier (a := .beginClose) trivial
    have ha : Asking expects
        (({ w with state := c.forget w.state }.addCall .closing).mapCourier Courier.beginClose) :=
      (hs'.follows (Follows.act _ .beginClose)).addCall (by simp) fun _ ↦ hc
    split
    · exact hb.trans (lets_endClose ha hs hc)
    · next hw =>
      split
      · have hg : w.courier.beginClose.RunsBy (Courier.Act.Lets [] [])
            w.courier.beginClose.abortWorker :=
          ⟨[.abortWorker], by simp [Courier.Act.Lets], if_pos ⟨hc, hw⟩⟩
        have hab := ha.follows (.mapCourier _ Courier.abortWorker (.abortWorker hc hw))
        exact (hb.trans hg).trans (lets_endClose hab hs hc)
      · exact hb

theorem lets_act (h : Asking expects w) (hs : w.AllHeard) (a : Act c) :
    w.courier.RunsBy (Courier.Act.Lets (w.asked a).toList (w.arrivals a)) (w.act a).courier := by
  by_cases ha : a = .close
  · subst ha
    exact lets_startClose h hs
  · by_cases hc : ∃ i, a = .task (.call i) ∧ w.calls[i]? = some .closing
    · obtain ⟨i, rfl, hi⟩ := hc
      have hn : w.asked (.task (.call i)) = none := by simp [asked, resumption?, hi]
      rw [hn]
      refine Courier.RunsBy.trans ?_ (Goes.refresh _).lets
      simp only [resumeCall, hi]
      split
      · exact lets_endClose h hs (h.closing hi)
      · exact .refl w.courier
    · exact (goes_act hs ha fun i hi hcl ↦ hc ⟨i, hi, hcl⟩).lets

end World

end GameServers
