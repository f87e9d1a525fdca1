import GameServers.Proofs.Courier.Answers

namespace GameServers

variable {P : Protocol}

namespace Ticket

def response? (t : Ticket P) : Option P.Response :=
  match t.outcome with
  | some (.ok r) => some r
  | _ => none

theorem response?_eq_some {t : Ticket P} {r : P.Response} :
    t.response? = some r ↔ t.outcome = some (.ok r) := by
  unfold response?
  split
  · next r' ho => simp [ho]
  · next hno => exact ⟨nofun, fun h ↦ (hno r h).elim⟩

def entry (t : Ticket P) : P.Request × Option P.Response := (t.request, t.response?)

@[simp] theorem entry_advance (t : Ticket P) (next : Status) : (t.advance next).entry = t.entry := by
  simp [entry, response?]

@[simp] theorem entry_incrementRetries (t : Ticket P) : t.incrementRetries.entry = t.entry := rfl

@[simp] theorem entry_complete_error (t : Ticket P) (e : Failure) :
    (t.complete (.error e)).entry = t.entry := by
  cases ho : t.outcome with
  | none => simp [entry, response?, complete_of_none t _ ho, ho]
  | some o => rw [complete_of_some t _ (by simp [ho])]

end Ticket

namespace Desk

def ledger (d : Desk P) : List (P.Request × Option P.Response) := d.tickets.map Ticket.entry

variable (d : Desk P) (n : Nat)

theorem map_modify {α : Type} {f : Ticket P → Ticket P} (g : Ticket P → α) (hf : ∀ t, g (f t) = g t) :
    (d.modify n f).tickets.map g = d.tickets.map g := by
  refine List.ext_getElem? fun k ↦ ?_
  simp only [List.getElem?_map, getElem?_modify]
  split
  · rw [Option.map_map]
    exact congrArg (Option.map · d.tickets[k]?) (funext hf)
  · rfl

theorem ledger_modify {f : Ticket P → Ticket P} (hf : ∀ t, (f t).entry = t.entry) :
    (d.modify n f).ledger = d.ledger := d.map_modify n Ticket.entry hf

@[simp] theorem ledger_logFor (e : Ticket P → Event P) : (d.logFor n e).ledger = d.ledger :=
  congrArg (·.ledger) (d.bare_logFor n e)

@[simp] theorem ledger_advance (next : Status) : (d.advance n next).ledger = d.ledger :=
  (congrArg (·.ledger) (d.bare_advance n next)).trans
    (d.bare.ledger_modify n fun t ↦ t.entry_advance next)

@[simp] theorem ledger_complete_error (e : Failure) : (d.complete n (.error e)).ledger = d.ledger :=
  d.ledger_modify n fun t ↦ t.entry_complete_error e

theorem ledger_create (runtime : Bool) : (d.create n runtime).1.ledger = d.ledger := by
  unfold create
  split
  · rfl
  · simp only [register, ledger_advance]
    unfold arm
    split <;> rfl

theorem tickets_delete (s : Session) : (d.delete s).tickets = d.tickets := by
  simp only [delete]
  split <;> rfl

@[simp] theorem ledger_delete (s : Session) : (d.delete s).ledger = d.ledger :=
  congrArg (List.map Ticket.entry) (d.tickets_delete s)

@[simp] theorem ledger_settle_error (s : Session) (e : Failure) :
    (d.settle s (.error e)).ledger = d.ledger := by
  rw [settle, ledger_delete, ledger_complete_error]

theorem ledger_runTimer : (d.runTimer n).ledger = d.ledger := by
  unfold runTimer
  split
  · rfl
  · split
    · unfold expire
      split
      · rfl
      · exact ledger_settle_error (log _ _) _ _
    · rfl

theorem ledger_close : d.close.ledger = d.ledger := congrArg (·.ledger) d.bare_close

end Desk

namespace Courier

variable (m : Courier P) (n : Nat)

def ledger (m : Courier P) : List (P.Request × Option P.Response) := m.desk.ledger

theorem ledger_reportOrphans : m.reportOrphans.ledger = m.ledger :=
  congrArg (·.ledger) m.bare_reportOrphans

theorem ledger_stop : m.stop.ledger = m.ledger := congrArg (·.ledger) m.bare_stop

theorem ledger_takeUp : (m.takeUp n).ledger = m.ledger := by
  have hs (k : Courier P) (s : Session) : (k.spawnWrite s).ledger = k.ledger :=
    (congrArg Desk.ledger (k.desk_spawnWrite s) :)
  simp only [takeUp]
  split
  · have hc := (m.desk.advance n .accepted).ledger_create n true
    rw [Desk.ledger_advance] at hc
    split
    · next d s hd =>
      have hd' : d.ledger = m.desk.ledger := (congrArg (·.1.ledger) hd).symm.trans hc
      rw [hs]
      exact (d.ledger_advance n .await).trans hd'
    · next d e hd =>
      have hd' : d.ledger = m.desk.ledger := (congrArg (·.1.ledger) hd).symm.trans hc
      exact ((Desk.ledger_complete_error _ n e).trans (d.ledger_logFor n _)).trans hd'
  · exact m.desk.ledger_logFor n _

theorem ledger_work : m.work.ledger = m.ledger := by
  have ha (w : Nat) : (m.abortWrite w).ledger = m.ledger := by
    unfold abortWrite
    split
    · split <;> rfl
    · rfl
  unfold work
  split
  · split
    · exact m.ledger_stop
    · split
      · rfl
      · exact ledger_takeUp _ _
  · simp only
    split
    · exact (ledger_stop _).trans (ha _)
    · split
      · exact Desk.ledger_logFor _ _ _
      · split <;> rfl
  · split
    · exact m.ledger_stop
    · split
      · exact Desk.ledger_logFor _ _ _
      · rfl
  · rfl
  · rfl

theorem ledger_startWrite : (m.startWrite n).ledger = m.ledger := by
  unfold startWrite
  split <;> rfl

theorem ledger_finishWrite (result : Except Failure Unit) :
    (m.finishWrite n result).ledger = m.ledger := by
  unfold finishWrite
  split
  · next s hs =>
    split
    · exact (Desk.ledger_logFor _ _ _).trans (m.desk.ledger_advance s.ticket .sent)
    · next e =>
      simp only
      split
      · have hi (d : Desk P) : (d.modify s.ticket Ticket.incrementRetries).ledger = d.ledger :=
          d.ledger_modify s.ticket Ticket.entry_incrementRetries
        have hr : (m.retry s e).ledger = m.ledger := by
          simp only [retry, requeue]
          split
          · simp [ledger, mapDesk, hi]
          · simp [ledger, mapDesk, hi]
        exact hr
      · exact (Desk.ledger_settle_error _ s e).trans (m.desk.ledger_logFor s.ticket _)
  · rfl

theorem ledger_send (r : P.Request) (runtime : Bool) : (m.send r runtime).1.ledger =
    m.ledger ++ if (m.refusal? runtime).isNone then [(r, none)] else [] := by
  unfold send
  split
  · next h =>
    have hb : (m.enqueue r).desk.tickets = m.desk.tickets ++ [{ request := r, createdAt := _ }] :=
      congrArg (fun k : Courier P ↦ k.desk.tickets) (m.bare_enqueue r)
    simp only [ledger, Desk.ledger, hb, List.map_append, h]
    rfl
  · next e h =>
    simp only [h, Option.isNone_some, Bool.false_eq_true, if_false, List.append_nil]
    split <;> rfl

def Waits (m : Courier P) (q : P.Request) : Prop :=
  ∃ t ∈ m.desk.tickets, t.request = q ∧ t.outcome = none

theorem ledger_accept_error (x : Rejection (Origin P)) : (m.accept (.error x)).ledger = m.ledger := by
  obtain ⟨origin, e⟩ := x
  cases origin with
  | none => rfl
  | some origin =>
    simp only [accept, Courier.correlate, ledger, mapDesk]
    split
    · exact Desk.ledger_settle_error (m.desk.log _) _ e
    · rfl

variable {m} {q : P.Request} {r r' : P.Response}

/-- A response that is delivered settles a request that waits, or nothing. -/
theorem mem_ledger_accept (h : (q, some r') ∈ (m.accept (.ok r)).ledger) :
    (q, some r') ∈ m.ledger ∨ r' = r ∧ m.Waits q := by
  simp only [accept, Courier.correlate, ledger, mapDesk] at h
  split at h
  · next s hs =>
    obtain ⟨t', ht', he⟩ := List.mem_map.1 h
    rw [Desk.settle, Desk.tickets_delete] at ht'
    obtain ⟨k, hk⟩ := List.mem_iff_getElem?.1 ht'
    obtain ⟨t, ht, ⟨-, rfl⟩ | ⟨-, rfl⟩⟩ := Desk.of_getElem?_modify hk
    · have hmem : t ∈ m.desk.tickets := List.mem_iff_getElem?.2 ⟨k, ht⟩
      cases ho : t.outcome with
      | some o =>
        rw [Ticket.complete_of_some t _ (by simp [ho])] at he
        exact .inl (List.mem_map.2 ⟨t, hmem, he⟩)
      | none =>
        rw [Ticket.complete_of_none t _ ho] at he
        obtain ⟨hq, hr⟩ := Prod.mk.inj he
        exact .inr ⟨(Option.some.inj hr).symm, t, hmem, hq, ho⟩
    · exact .inl (List.mem_map.2 ⟨t', List.mem_iff_getElem?.2 ⟨k, ht⟩, he⟩)
  · exact .inl h
  · exact .inl h

theorem requests_accept (r : P.Response) :
    (m.accept (.ok r)).ledger.map Prod.fst = m.ledger.map Prod.fst := by
  simp only [accept, Courier.correlate, ledger, mapDesk]
  split
  · next s _ =>
    rw [Desk.settle]
    simp only [Desk.ledger, Desk.tickets_delete, List.map_map]
    exact Desk.map_modify _ s.ticket _ fun t ↦ t.request_complete (.ok r)
  · rfl
  · rfl

/-- Sends no other requests and delivers no other responses. -/
def Act.Lets (qs : List P.Request) (rs : List P.Response) : Act P → Prop
  | .send q _ => q ∈ qs
  | .accept (.ok r) => r ∈ rs
  | _ => True

def Act.Keeps : Act P → Prop
  | .beginClose | .abortWorker | .closeRegistry | .endClose | .drop => False
  | _ => True

def RunsBy (may : Act P → Prop) (m m' : Courier P) : Prop :=
  ∃ as, (∀ a ∈ as, may a) ∧ m.run as = m'

namespace RunsBy

variable {may may' : Act P → Prop} {m m' m'' : Courier P}

theorem refl (m : Courier P) : m.RunsBy may m := ⟨[], by simp, rfl⟩

theorem trans (h : m.RunsBy may m') (h' : m'.RunsBy may m'') : m.RunsBy may m'' := by
  obtain ⟨as, has, rfl⟩ := h
  obtain ⟨bs, hbs, rfl⟩ := h'
  exact ⟨as ++ bs, fun a ha ↦ (List.mem_append.1 ha).elim (has a) (hbs a), run_append m as bs⟩

theorem mono (h : m.RunsBy may m') (hm : ∀ a, may a → may' a) : m.RunsBy may' m' := by
  obtain ⟨as, has, rfl⟩ := h
  exact ⟨as, fun a ha ↦ hm a (has a ha), rfl⟩

theorem act (m : Courier P) {a : Act P} (ha : may a) : m.RunsBy may (m.act a) :=
  ⟨[a], fun _ hb ↦ List.mem_singleton.1 hb ▸ ha, rfl⟩

theorem foldl {α : Type} {f : Courier P → α → Courier P} (h : ∀ m x, RunsBy may m (f m x))
    (xs : List α) (m : Courier P) : m.RunsBy may (xs.foldl f m) := by
  induction xs generalizing m with
  | nil => exact refl m
  | cons x xs ih => exact (h m x).trans (ih (f m x))

theorem wake (hs : ∀ agenda, may (.schedule agenda)) (m : Courier P) (t : Task) :
    m.RunsBy may (m.wake t) := act m (hs (m.desk.agenda.wake t))

theorem wakeWorker (hs : ∀ agenda, may (.schedule agenda)) (m : Courier P) :
    m.RunsBy may m.wakeWorker := by
  unfold Courier.wakeWorker
  split
  · exact wake hs m .worker
  · exact refl m

theorem workFor (hw : may .work) (fuel : Nat) (m : Courier P) : m.RunsBy may (m.workFor fuel) := by
  induction fuel generalizing m with
  | zero => exact refl m
  | succ fuel ih =>
    unfold Courier.workFor
    split
    · exact (act m hw).trans (ih m.work)
    · exact refl m

theorem runs (h : m.RunsBy may m') : m.Runs m' := by
  obtain ⟨as, -, rfl⟩ := h
  exact ⟨as, rfl⟩

theorem kept {I : Courier P → Prop} (h : m.RunsBy may m')
    (ha : ∀ k a, may a → I k → I (k.act a)) (hm : I m) : I m' := by
  obtain ⟨as, has, rfl⟩ := h
  induction as generalizing m with
  | nil => exact hm
  | cons a as ih =>
    exact ih (ha m a (has a (.head _)) hm) fun b hb ↦ has b (.tail _ hb)

end RunsBy

variable {a : Act P} {qs : List P.Request} {rs : List P.Response}

theorem ledger_act (ha : a.Lets [] []) : (m.act a).ledger = m.ledger := by
  cases a with
  | send => cases ha
  | accept x =>
    cases x with
    | error x => exact m.ledger_accept_error x
    | ok r => cases ha
  | work => exact m.ledger_work
  | startWrite w => exact m.ledger_startWrite w
  | finishWrite w result => exact m.ledger_finishWrite w result
  | runTimer i => exact m.desk.ledger_runTimer i
  | clock | schedule | note | drop => rfl
  | beginClose =>
    simp only [act, beginClose]
    split
    · rfl
    · split
      · exact ledger_reportOrphans _
      · rfl
  | abortWorker | endClose =>
    simp only [act]
    split <;> rfl
  | closeRegistry =>
    simp only [act]
    split
    · exact m.desk.ledger_close
    · rfl

theorem Act.Lets.cases (ha : a.Lets qs rs) : a.Lets [] [] ∨
    (∃ q ∈ qs, ∃ runtime, a = .send q runtime) ∨ ∃ r ∈ rs, a = .accept (.ok r) := by
  cases a with
  | send q runtime => exact .inr (.inl ⟨q, ha, runtime, rfl⟩)
  | accept x =>
    cases x with
    | error => exact .inl trivial
    | ok r => exact .inr (.inr ⟨r, ha, rfl⟩)
  | _ => exact .inl ha

theorem requests_act (ha : a.Lets [] rs) :
    (m.act a).ledger.map Prod.fst = m.ledger.map Prod.fst := by
  rcases ha.cases with ha | ⟨q, hq, -⟩ | ⟨r, -, rfl⟩
  · rw [ledger_act ha]
  · cases hq
  · exact requests_accept r

theorem mem_requests_act (ha : a.Lets qs rs) (h : q ∈ (m.act a).ledger.map Prod.fst) :
    q ∈ m.ledger.map Prod.fst ∨ q ∈ qs := by
  rcases ha.cases with ha | ⟨q', hq, runtime, rfl⟩ | ⟨r, -, rfl⟩
  · rw [ledger_act ha] at h
    exact .inl h
  · rw [act, ledger_send, List.map_append] at h
    refine (List.mem_append.1 h).imp id fun h ↦ ?_
    split at h
    · rw [List.mem_singleton.1 h]
      exact hq
    · cases h
  · exact .inl (requests_accept r ▸ h)

theorem mem_ledger_act (ha : a.Lets qs rs) (h : (q, some r) ∈ (m.act a).ledger) :
    (q, some r) ∈ m.ledger ∨ r ∈ rs ∧ m.Waits q := by
  rcases ha.cases with ha | ⟨q', -, runtime, rfl⟩ | ⟨r', hr, rfl⟩
  · rw [ledger_act ha] at h
    exact .inl h
  · rw [act, ledger_send] at h
    rcases List.mem_append.1 h with h | h
    · exact .inl h
    · split at h
      · cases List.mem_singleton.1 h
      · cases h
  · rcases mem_ledger_accept h with h | ⟨rfl, hq⟩
    · exact .inl h
    · exact .inr ⟨hr, hq⟩

theorem Waits.of_act (h : (m.act a).Waits q) (hm : Sound m) (ha : a.Lets [] rs) : m.Waits q := by
  obtain ⟨t', ht', hq, ho⟩ := h
  obtain ⟨n, hn⟩ := List.mem_iff_getElem?.1 ht'
  have hlen : (m.act a).desk.tickets.length = m.desk.tickets.length := by
    simpa [ledger, Desk.ledger] using congrArg List.length (requests_act (m := m) ha)
  have hlt : n < m.desk.tickets.length := hlen ▸ (List.getElem?_eq_some_iff.1 hn).1
  obtain ⟨t, ht, hl⟩ := hm.leads_act a (List.getElem?_eq_getElem hlt)
  obtain rfl : t = t' := Option.some.inj (ht.symm.trans hn)
  refine ⟨_, List.getElem_mem hlt, hl.1.symm.trans hq, ?_⟩
  by_contra hne
  obtain ⟨o, hno⟩ := Option.ne_none_iff_exists'.1 hne
  cases ho.symm.trans (hl.2 o hno)

/-- The responses that settled requests are in a relation to them. -/
def AnsweredBy (G : P.Request → P.Response → Prop) (m : Courier P) : Prop :=
  ∀ q r, (q, some r) ∈ m.ledger → G q r

namespace AnsweredBy

variable {G : P.Request → P.Response → Prop} {m' : Courier P}

theorem make (config : Config) : AnsweredBy G (make config : Courier P) := by
  intro q r h
  cases h

theorem of_outcome? {n : Nat} (h : AnsweredBy G m) (ho : m.outcome? n = some (.ok r)) :
    ∃ t, m.desk.tickets[n]? = some t ∧ G t.request r := by
  obtain ⟨t, ht, ho⟩ := outcome_of_outcome? ho
  refine ⟨t, ht, h t.request r (List.mem_map.2 ⟨t, List.mem_of_getElem? ht, ?_⟩)⟩
  rw [Ticket.entry, Ticket.response?_eq_some.2 ho]

theorem sends (h : AnsweredBy G m) (hr : m.RunsBy (Act.Lets qs []) m') : AnsweredBy G m' := by
  refine hr.kept (fun k a ha hk q r hq ↦ ?_) h
  rcases mem_ledger_act ha hq with hq | ⟨hr, -⟩
  · exact hk q r hq
  · cases hr

/-- It is enough that the responses that come are in the relation to the requests that wait for
them. -/
theorem receives (h : AnsweredBy G m) (hP : P.TellsApart) (hm : Sound m) (hp : Paired m)
    (hr : m.RunsBy (Act.Lets [] rs) m')
    (hG : ∀ r ∈ rs, ∀ q, m.Waits q → Answers P q r → G q r) : AnsweredBy G m' := by
  let I (k : Courier P) : Prop :=
    Sound k ∧ Paired k ∧ (∀ q, k.Waits q → m.Waits q) ∧ AnsweredBy G k
  have hI : I m' := by
    refine hr.kept (fun k a ha ⟨hk, hkp, hw, hA⟩ ↦ ?_) ⟨hm, hp, fun _ hq ↦ hq, h⟩
    have hp' : Paired (k.act a) := hkp.run hk [a]
    refine ⟨hk.act a, hp', fun q hq ↦ hw q (hq.of_act hk ha), fun q r hq ↦ ?_⟩
    rcases mem_ledger_act ha hq with hq' | ⟨hr, hwait⟩
    · exact hA q r hq'
    · obtain ⟨t, ht, he⟩ := List.mem_map.1 hq
      obtain ⟨rfl, ho⟩ := Prod.mk.inj he
      obtain ⟨n, hn⟩ := List.mem_iff_getElem?.1 ht
      obtain ⟨id, hid, hid'⟩ := hp' n t hn r (Ticket.response?_eq_some.1 ho)
      exact hG r hr _ (hw _ hwait) (hP.answers hid hid')
  exact hI.2.2.2

end AnsweredBy

end Courier

end GameServers
