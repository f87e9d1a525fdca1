import GameServers.Plain
import GameServers.Proofs.Courier.Asynchronous
import GameServers.Proofs.Courier.Awake
import GameServers.Proofs.Rehearsal.Run

namespace GameServers

variable {P : Protocol}

namespace Clockwork

variable {σ : Type} (c : Clockwork σ)

def runFirst (t : Task) (rest : List Task) (s : σ) : σ :=
  c.run t (c.setAgenda { c.agenda s with ready := rest } s)

/-- When each task that runs leaves less to do, in the end none is ready. -/
theorem ready_drain {μ : σ → Nat}
    (hμ : ∀ s t rest, (c.agenda s).ready = t :: rest → μ (c.runFirst t rest s) < μ s)
    {fuel : Nat} {s : σ} (h : μ s ≤ fuel) : (c.agenda (c.drain fuel s)).ready = [] := by
  induction fuel generalizing s with
  | zero =>
    cases hr : (c.agenda s).ready with
    | nil => exact hr
    | cons t rest =>
      have hlt := hμ s t rest hr
      omega
  | succ fuel ih =>
    cases hr : (c.agenda s).ready with
    | nil =>
      simp only [drain, hr]
    | cons t rest =>
      rw [c.drain_cons hr]
      exact ih (Nat.le_of_lt_succ ((hμ s t rest hr).trans_le h))

section

variable {c} {I : σ → Prop} {settle : σ → σ}

theorem drain_keeps
    (hrun : ∀ s t rest, I s → (c.agenda s).ready = t :: rest → I (c.runFirst t rest s))
    (fuel : Nat) {s : σ} (h : I s) : I (c.drain fuel s) := by
  induction fuel generalizing s with
  | zero => exact h
  | succ fuel ih =>
    cases hr : (c.agenda s).ready with
    | nil => simpa only [drain, hr] using h
    | cons t rest =>
      rw [c.drain_cons hr]
      exact ih (hrun s t rest h hr)

theorem sleepTo_keeps (hnow : ∀ time s, I s → I (c.setNow time s))
    (hjump : ∀ time s, I s → I (c.jump time s)) (hsettle : ∀ s, I s → I (settle s))
    (fuel time : Nat) {s : σ} (h : I s) : I (c.sleepTo settle fuel time s) := by
  refine hjump time _ ?_
  induction fuel generalizing s with
  | zero => exact hnow _ s h
  | succ fuel ih =>
    simp only [advance]
    split
    · exact hnow _ s h
    · next due _ => exact ih (hsettle _ (hjump due s h))

end

end Clockwork

namespace Rehearsal

open Courier

variable {r : Rehearsal P} {w : Nat} {t : Task} {rest : List Task}

/-- What there is for tasks to do. A plan may be for a write that fails. -/
def effort (r : Rehearsal P) : Nat := r.courier.effort + 15 * r.plans.length

theorem effort_le_fuel (r : Rehearsal P) : r.effort ≤ r.fuel := by
  have hload := r.courier.desk.agenda.load_le
  have hwrites : r.courier.unanswered ≤ r.courier.writes.length := List.countP_le_length
  have hleft : r.courier.workLeft ≤ 3 * r.courier.queue.length + 3 := by
    unfold workLeft
    split <;> omega
  unfold effort Courier.effort fuel
  simp only
  omega

theorem effort_beginWrite_le (hx : ∃ s, r.courier.writes[w]? = some ⟨s, .spawned⟩) :
    (r.beginWrite w).effort ≤ r.effort := by
  obtain ⟨s, hx⟩ := hx
  have hstart := r.courier.effort_startWrite_le w
  have hstarted : (r.courier.startWrite w).writes[w]? = some ⟨s, .started⟩ := by
    simp [startWrite, hx, setWrite, Write.setState]
  cases hp : r.plans with
  -- Without a plan the write goes through at once.
  | nil =>
    have hfinish := effort_finishWrite_ok hstarted
    have hbegin : (r.beginWrite w).effort =
        ((r.courier.startWrite w).finishWrite w (.ok ())).effort := by
      simp [beginWrite, hp, effort, Plan.result, mapCourier]
    rw [hbegin, effort]
    omega
  | cons p ps =>
    have hfinish := (r.courier.startWrite w).effort_finishWrite_le w (Plan.result p)
    have hplans : r.effort = r.courier.effort + 15 * (ps.length + 1) := by
      rw [effort, hp, List.length_cons]
    unfold beginWrite
    simp only [hp, List.headD_cons, List.tail_cons]
    split
    · change (r.courier.startWrite w).effort + 15 * ps.length ≤ _
      omega
    · split
      · change ((r.courier.startWrite w).finishWrite w (Plan.result p)).effort + 15 * ps.length ≤ _
        omega
      · change (r.courier.startWrite w).effort + 15 * ps.length ≤ _
        omega

theorem effort_runWrite_le (r : Rehearsal P) (w : Nat) : (r.runWrite w).effort ≤ r.effort := by
  unfold runWrite
  split
  · next s hx => exact effort_beginWrite_le ⟨s, hx⟩
  · split
    · next p _ =>
      exact Nat.add_le_add_right (r.courier.effort_finishWrite_le w (Plan.result p)) _
    · exact le_rfl
  · exact le_rfl

theorem effort_mapCourier_wakeWorker_le (r : Rehearsal P) :
    (r.mapCourier Courier.wakeWorker).effort ≤ r.effort + 1 := by
  have hwake := r.courier.effort_wakeWorker_le
  have hone := Bool.toNat_le r.courier.canWork
  change r.courier.wakeWorker.effort + 15 * r.plans.length ≤ r.courier.effort + _ + 1
  omega

theorem effort_runFirst (r : Rehearsal P) (t : Task) (rest : List Task)
    (hr : r.courier.desk.agenda.ready = t :: rest) :
    (clockwork.runFirst t rest r).effort < r.effort := by
  let r₁ : Rehearsal P := clockwork.setAgenda { r.courier.desk.agenda with ready := rest } r
  have hfirst : r₁.effort + Agenda.weight t = r.effort := by
    have hload : r.courier.desk.agenda.load =
        Agenda.weight t + r₁.courier.desk.agenda.load := by
      simp [Agenda.load, hr, r₁, clockwork, mapCourier, mapDesk]
    have hsame : r₁.effort = r₁.courier.desk.agenda.load + 5 * r.courier.workLeft +
        15 * r.courier.unanswered + 15 * r.plans.length := rfl
    rw [hsame, effort, Courier.effort]
    omega
  have hother (r₂ : Rehearsal P) (hle : r₂.effort ≤ r₁.effort) (ht : Agenda.weight t = 2) :
      (r₂.mapCourier Courier.wakeWorker).effort < r.effort := by
    have hwake := r₂.effort_mapCourier_wakeWorker_le
    omega
  change (r₁.runTask t).effort < r.effort
  cases t with
  | worker =>
    have hrun : (r₁.runTask .worker).effort ≤ r₁.effort :=
      Nat.add_le_add_right r₁.courier.effort_runWorker_le _
    rw [← hfirst]
    exact Nat.lt_succ_of_le hrun
  | timer i =>
    refine hother _ (le_of_eq ?_) rfl
    have hload : (r₁.courier.desk.runTimer i).agenda.load = r₁.courier.desk.agenda.load :=
      congrArg (fun ts ↦ (ts.map Agenda.weight).sum) (Desk.ready_runTimer _ i)
    change (r₁.courier.desk.runTimer i).agenda.load + _ + _ + _ = _
    rw [hload]
    rfl
  | write w => exact hother _ (r₁.effort_runWrite_le w) rfl
  | reader | call | attend => exact hother r₁ le_rfl rfl

theorem ready_settleDown (r : Rehearsal P) : r.settleDown.courier.desk.agenda.ready = [] :=
  clockwork.ready_drain (μ := effort) effort_runFirst r.effort_le_fuel

theorem awake_apply {f : Courier P → Courier P} (h : Awake r.courier)
    (hf : Calls r.courier (f r.courier)) : Awake (r.apply f).courier := (hf.called h.called).awake

theorem called_beginWrite (h : ∀ k s, r.courier.writes[k]? = some ⟨s, .spawned⟩ →
    k = w ∨ .write k ∈ r.courier.desk.agenda.ready) : Called (r.beginWrite w).courier := by
  have hstart := called_startWrite h
  unfold beginWrite
  simp only
  split
  · exact hstart
  · split
    · exact (calls_finishWrite _ w _).called hstart
    · exact (Calls.of_eq rfl rfl).called hstart

theorem called_runWrite (h : ∀ k s, r.courier.writes[k]? = some ⟨s, .spawned⟩ →
    k = w ∨ .write k ∈ r.courier.desk.agenda.ready) : Called (r.runWrite w).courier := by
  have hstarted (hw : ∀ s, r.courier.writes[w]? ≠ some ⟨s, .spawned⟩) : Called r.courier := by
    intro k s hk
    refine (h k s hk).resolve_left ?_
    rintro rfl
    exact hw s hk
  unfold runWrite
  split
  · exact called_beginWrite h
  · next s hx =>
    have hcalled := hstarted (by simp [hx])
    split
    · exact (calls_finishWrite _ w _).called hcalled
    · exact hcalled
  · next hw _ => exact hstarted hw

theorem awake_runFirst (h : Awake r.courier) (hr : r.courier.desk.agenda.ready = t :: rest) :
    Awake (clockwork.runFirst t rest r).courier := by
  -- The task that runs has left the agenda, so that only the other writes are still called.
  let r₁ : Rehearsal P := clockwork.setAgenda { r.courier.desk.agenda with ready := rest } r
  have hothers (k : Nat) (s : Session) (hk : r₁.courier.writes[k]? = some ⟨s, .spawned⟩) :
      t = .write k ∨ .write k ∈ r₁.courier.desk.agenda.ready := by
    have hmem := h.called k s hk
    rw [hr] at hmem
    exact (List.mem_cons.1 hmem).imp_left Eq.symm
  have hcalled (ht : ∀ k, t ≠ .write k) : Called r₁.courier :=
    fun k s hk ↦ (hothers k s hk).resolve_left (ht k)
  change Awake (r₁.runTask t).courier
  cases t with
  | worker => exact ((calls_workFor _ _).called (hcalled (by simp))).awake
  | timer i =>
    have hcalls : Calls r₁.courier (r₁.courier.mapDesk (·.runTimer i)) :=
      .of_eq (Desk.ready_runTimer _ i) rfl
    exact (hcalls.called (hcalled (by simp))).awake
  | write w =>
    refine Called.awake (called_runWrite fun k s hk ↦ ?_)
    exact (hothers k s hk).imp_left fun he ↦ (Task.write.inj he).symm
  | reader | call | attend => exact (hcalled (by simp)).awake

theorem awake_settleDown (h : Awake r.courier) : Awake r.settleDown.courier :=
  Clockwork.drain_keeps (I := fun r : Rehearsal P ↦ Awake r.courier)
    (fun _ _ _ h hr ↦ awake_runFirst h hr) r.fuel h

theorem awake_sleep (h : Awake r.courier) (ms : Time) : Awake (r.sleep ms).courier := by
  have hnow (time : Time) (k : Rehearsal P) (hk : Awake k.courier) :
      Awake (clockwork.setNow time k).courier :=
    hk.of_calls (canWork_congr rfl rfl rfl rfl rfl) (.of_eq rfl rfl)
  have hjump (time : Time) (k : Rehearsal P) (hk : Awake k.courier) :
      Awake (clockwork.jump time k).courier :=
    hk.of_calls (canWork_congr rfl rfl rfl rfl rfl)
      ⟨fun _ ht ↦ Agenda.mem_ready_ring.2 (.inl ht), fun _ _ hw ↦ .inl hw⟩
  unfold sleep
  split
  · exact h
  · exact Clockwork.sleepTo_keeps (I := fun r : Rehearsal P ↦ Awake r.courier) hnow hjump
      (fun _ hk ↦ awake_settleDown hk) _ _ (awake_settleDown h)

theorem awake_close (h : Awake r.courier) : Awake r.close.courier := by
  have hstop : Awake r.stopWorker.courier := by
    have hbegin := awake_apply h r.courier.calls_beginClose
    unfold stopWorker
    simp only
    split
    · exact hbegin
    · split
      · exact awake_apply hbegin (.of_eq rfl rfl)
      · exact awake_settleDown hbegin
  have hshut : Awake r.shutDown.courier := by
    refine hstop.of_calls (canWork_congr rfl rfl rfl rfl ?_) (.of_eq ?_ rfl)
    · exact Desk.tickets_close _
    · exact congrArg Agenda.ready (Desk.agenda_close _)
  have hend (k : Rehearsal P) (hk : Awake k.courier) : Awake (k.mapCourier endClose).courier :=
    hk.of_calls (canWork_congr rfl rfl rfl rfl rfl) (.of_eq rfl rfl)
  cases hc : r.courier.isClosed with
  | true => rwa [close_of_closed hc]
  | false =>
    rw [close_of_running hc]
    refine hend _ ?_
    split
    · exact (awake_sleep hshut _).of_calls (canWork_congr rfl rfl rfl rfl rfl) (.of_eq rfl rfl)
    · exact hshut

/-- In the course of a rehearsal no task is forgotten. -/
theorem Reached.awake {config : Config} (h : Reached config r) : Awake r.courier := by
  induction h with
  | start =>
    refine ⟨fun hw ↦ ?_, fun w s hw ↦ ?_⟩
    · cases hw
    · simp [make] at hw
  | send _ q runtime ih => exact awake_apply ih (calls_send _ q runtime)
  | accept _ x ih => exact awake_apply ih (calls_accept _ x)
  | settleDown _ ih => exact awake_settleDown ih
  | sleep _ ms ih => exact awake_sleep ih ms
  | close _ ih => exact awake_close ih
  | drop _ ih => exact awake_apply (f := Courier.drop) ih (.of_eq rfl rfl)

/-- When all tasks of an open asynchronous courier wait, the queue is empty, and each request that
was accepted has been given to the transport, or has no id and was rejected for that. And the tasks
come to wait: as long as one could go on, something happens when it does, and only so much can
happen for each request. In a rehearsal the tasks that could go on are ready, and run until none is
left. -/
theorem asynchronous_never_blocks (config : Config) (ha : config.mode = .asynchronous) :
    (∀ as : List (Act P), ((make config : Courier P).run as).isOpen = true →
      let m := (make config : Courier P).run as
      (AtRest m → m.queue = [] ∧
        ∀ before q runtime after n, as = before ++ .send q runtime :: after →
          (((make config : Courier P).run before).send q runtime).2 = .ok n →
          0 < tally (isHandedOver n) (make config) as ∨
            ∃ e, (Envelope.request q : Envelope P).sessionId = .error e ∧
              m.outcome? n = some (.error e)) ∧
      (¬ AtRest m → stirs m (m.act .work) = true ∨ ∃ w, stirs m (m.act (.startWrite w)) = true) ∧
      tally stirs (make config) as ≤ share config * m.desk.tickets.length) ∧
    ∀ r : Rehearsal P, Reached config r →
      (∃ as, (make config : Courier P).run as = r.courier) ∧
        (r.courier.desk.agenda.ready = [] → AtRest r.courier) ∧
        r.settleDown.courier.desk.agenda.ready = [] := by
  refine ⟨fun as hopen ↦ ?_, fun r hr ↦ ⟨hr.timely.1, hr.awake.atRest, r.ready_settleDown⟩⟩
  intro m
  have hm : Sound m := (Sound.make config).run as
  have hu : Unbound m := unbound_run config ha as
  refine ⟨fun hrest ↦ ?_, exists_stirs hm hu hopen, tally_stirs_le config as⟩
  have hqueue : m.queue = [] := hm.queue_of_rest (minds_run config as) hu hopen hrest.worker
  refine ⟨hqueue, ?_⟩
  rintro before q runtime after n rfl hsend
  have hb : Sound ((make config : Courier P).run before) := (Sound.make config).run before
  obtain ⟨t, ht, rfl⟩ := ticket_of_send hsend
  obtain ⟨t', ht', hl⟩ := (hb.act (.send t.request runtime)).leads_run after ht
  have hrun :
      m = (((make config : Courier P).run before).act (.send t.request runtime)).run after :=
    run_append _ before (.send t.request runtime :: after)
  rw [← hrun] at ht'
  rcases handled_run config _ hopen (List.getElem?_eq_some_iff.1 ht').1 with hq | hw | hno
  · change n ∈ m.queue at hq
    rw [hqueue] at hq
    cases hq
  · exact .inl (handedOver_of_rest config _ hopen hrest hw)
  · obtain ⟨u, e, hn, hid, ho⟩ := hno
    obtain rfl : u = t' := Option.some.inj (hn.symm.trans ht')
    exact .inr ⟨e, hl.1 ▸ hid, (hm.outcome?_eq hopen ht').trans ho⟩

/-- The write of the first request stalls. -/
theorem second_ping_not_held_up :
    let as : List (Act Plain.protocol) :=
      [.send ping true, .work, .startWrite 0, .send ping true, .work, .startWrite 1]
    let m := (make {} : Courier Plain.protocol).run as
    m.isOpen = true ∧ AtRest m ∧ m.outcome? 0 = none ∧ m.queue = [] ∧
      0 < tally (isHandedOver 1) (make {}) as := by
  intro as m
  have hopen : m.isOpen = true := by decide +kernel
  have hrest : AtRest m := ⟨by decide +kernel, by decide +kernel⟩
  obtain ⟨hqueue, hgiven⟩ :=
    ((asynchronous_never_blocks (P := Plain.protocol) {} rfl).1 as hopen).1 hrest
  refine ⟨hopen, hrest, by decide +kernel, hqueue, ?_⟩
  refine (hgiven [.send ping true, .work, .startWrite 0] ping true [.work, .startWrite 1] 1 rfl
    (by decide +kernel)).resolve_right ?_
  rintro ⟨e, he, -⟩
  cases he

end Rehearsal

end GameServers
