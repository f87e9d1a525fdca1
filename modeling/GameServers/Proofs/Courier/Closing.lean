import GameServers.Proofs.Courier.Shutdown
import GameServers.Proofs.Courier.Still

namespace GameServers.Courier

variable {P : Protocol} {m m' : Courier P} {n : Nat} {t : Ticket P}

def halt (m : Courier P) : Courier P :=
  let k := m.beginClose
  if k.worker = .stopped then k
  else if k.config.shutdownTimeout = 0 then k.abortWorker
  else k.work

def givesUp (m : Courier P) : Bool := m.config.shutdownTimeout = 0 && m.worker ≠ .unstarted

def Fresh (m : Courier P) : Prop := m.worker = .unstarted → m.queue = [] ∧ m.writes = []

theorem Step.fresh (hs : Step m m') (hm : Fresh m) : Fresh m' := by
  intro hw
  cases hs with
  | enqueue r =>
    change (if m.worker = .unstarted then Worker.waiting else m.worker) = .unstarted at hw
    split at hw
    · cases hw
    · next hu => exact absurd hw hu
  | take n rest t id =>
    change (if m.config.mode = .synchronous then Worker.writing _ else .waiting) = _ at hw
    split at hw <;> cases hw
  | beginClose hp =>
    change (if m.worker = .unstarted then Worker.stopped else m.worker) = .unstarted at hw
    split at hw
    · cases hw
    · next hu => exact absurd hw hu
  | refuse n rest e hw' => exact absurd (hw'.symm.trans hw) (by simp)
  | skip n rest hw' => exact absurd (hw'.symm.trans hw) (by simp)
  | start w s hx | sent w s hx | putBack w s hx | fail w s e f hx =>
    have hw' : m.worker = .unstarted := hw
    rw [(hm hw').2] at hx
    cases hx
  | release | written | unwritten | stop | leave | abort | abortWorker => cases hw
  | _ => exact hm hw

theorem Fresh.run (config : Config) (as : List (Act P)) :
    Fresh ((make config : Courier P).run as) :=
  (Sound.make config).kept (fun _ ↦ .rfl) (fun _ hs hm ↦ hs.fresh hm) (fun _ ↦ ⟨rfl, rfl⟩) as

/-- A courier that is about to close its registry: nothing has been settled since it was open. -/
structure Halted (m k : Courier P) : Prop where
  closed : k.isClosed = true
  told : k.shutdown = true
  idle : k.worker = .stopped ∨ ∃ n, k.worker = .givenUp n
  unqueued : k.worker = .stopped → k.queue = []
  tickets : k.desk.tickets = m.desk.tickets
  registry : k.desk.registry = m.desk.registry
  reports : k.reports = m.reports ++
    if m.config.shutdownTimeout = 0 then [] else m.queue.map .orphan

theorem work_of_told (hd : m.shutdown = true) (hu : m.worker ≠ .unstarted)
    (hi : ¬ (m.worker = .stopped ∨ ∃ n, m.worker = .givenUp n)) :
    ∃ k : Courier P, m.work = k.stop ∧
      ((∀ w, m.worker ≠ .writing w) ∧ k = m ∨ ∃ w, m.worker = .writing w ∧ k = m.abortWrite w) := by
  unfold work
  cases hw : m.worker with
  | unstarted => exact absurd hw hu
  | waiting => exact ⟨m, if_pos hd, .inl ⟨by simp, rfl⟩⟩
  | writing w => exact ⟨m.abortWrite w, if_pos hd, .inr ⟨w, rfl, rfl⟩⟩
  | settling n => exact ⟨m, if_pos hd, .inl ⟨by simp, rfl⟩⟩
  | givenUp n => exact absurd (.inr ⟨n, hw⟩) hi
  | stopped => exact absurd (.inl hw) hi

theorem agenda_stop (m : Courier P) : m.stop.desk.agenda = m.desk.agenda :=
  agenda_reportOrphans _

/-- A courier whose worker has been told to stop, and has not heard of it. -/
def warned (m : Courier P) : Courier P :=
  { m.log .closing with phase := .stopping, shutdown := true }

theorem beginClose_of_unstarted (hc : m.isClosed = false) (hu : m.worker = .unstarted)
    (hq : m.queue = []) : m.beginClose = m.warned.setWorker .stopped := by
  simp only [beginClose, hc, Bool.false_eq_true, if_false]
  change (if m.worker = .unstarted then (m.warned.setWorker .stopped).reportOrphans else _) = _
  rw [if_pos hu]
  have hq' : (m.warned.setWorker .stopped).queue = [] := hq
  simp only [reportOrphans, hq', List.isEmpty_nil, if_true]
  rw [← hq']

theorem halt_of_unstarted (hc : m.isClosed = false) (hu : m.worker = .unstarted)
    (hq : m.queue = []) : m.halt = m.warned.setWorker .stopped := by
  simp only [halt, beginClose_of_unstarted hc hu hq]
  exact if_pos rfl

theorem beginClose_of_started (hc : m.isClosed = false) (hu : m.worker ≠ .unstarted) :
    m.beginClose = m.warned := by
  simp only [beginClose, hc, Bool.false_eq_true, if_false]
  exact if_neg hu

theorem halt_of_no_time (hc : m.isClosed = false) (hu : m.worker ≠ .unstarted)
    (hw : ¬ (m.worker = .stopped ∨ ∃ n, m.worker = .givenUp n))
    (hT : m.config.shutdownTimeout = 0) : m.halt = m.warned.abortWorker := by
  have hs : ¬ m.warned.worker = .stopped := fun hs ↦ hw (.inl hs)
  simp only [halt, beginClose_of_started hc hu, if_neg hs]
  exact if_pos hT

theorem halt_of_time (hc : m.isClosed = false) (hu : m.worker ≠ .unstarted)
    (hw : ¬ (m.worker = .stopped ∨ ∃ n, m.worker = .givenUp n))
    (hT : m.config.shutdownTimeout ≠ 0) : m.halt = m.warned.work := by
  have hs : ¬ m.warned.worker = .stopped := fun hs ↦ hw (.inl hs)
  have hT' : ¬ m.warned.config.shutdownTimeout = 0 := hT
  simp only [halt, beginClose_of_started hc hu, if_neg hs, if_neg hT']

theorem halt_eq_stop (hc : m.isClosed = false) (hu : m.worker ≠ .unstarted)
    (hw : ¬ (m.worker = .stopped ∨ ∃ n, m.worker = .givenUp n))
    (hT : m.config.shutdownTimeout ≠ 0) : ∃ k : Courier P, m.halt = k.stop ∧
      ((∀ w, m.worker ≠ .writing w) ∧ k = m.warned ∨
        ∃ w, m.worker = .writing w ∧ k = m.warned.abortWrite w) := by
  rw [halt_of_time hc hu hw hT]
  exact work_of_told (m := m.warned) rfl hu hw

namespace Sound

theorem isClosed_of_open (h : Sound m) (ho : m.isOpen = true) : m.isClosed = false := by
  have hd : m.shutdown = false := isOpen_eq_true.1 ho
  by_contra hc
  have htold := h.told (.inl (ne_running (by simpa using hc)))
  rw [hd] at htold
  cases htold

theorem worker_of_open (h : Sound m) (ho : m.isOpen = true) :
    ¬ (m.worker = .stopped ∨ ∃ n, m.worker = .givenUp n) := by
  have hd : m.shutdown = false := isOpen_eq_true.1 ho
  intro hw
  rw [h.told (.inr hw)] at hd
  cases hd

theorem ticket_of_queued (h : Sound m) (hn : n ∈ m.queue) : ∃ t, m.desk.tickets[n]? = some t := by
  obtain ⟨t, ht, -⟩ := h.queued hn
  exact ⟨t, ht⟩

theorem ticket_of_entry (h : Sound m) {s : Session} (hs : s ∈ m.desk.registry.entries) :
    ∃ t, m.desk.tickets[s.ticket]? = some t := by
  obtain ⟨t, ht, -⟩ := h.pending hs
  exact ⟨t, ht⟩

theorem halted_stop (h : Sound m) (hT : m.config.shutdownTimeout ≠ 0) {k : Courier P}
    (hd : k.desk = m.warned.desk) (hq : k.queue = m.queue) (hp : k.phase = .stopping)
    (ht : k.shutdown = true) : Halted m k.stop := by
  have hb := k.bare_stop
  have hqueued : ∀ n ∈ k.queue, ∃ t, k.desk.tickets[n]? = some t := by
    rw [hd, hq]
    exact fun n hn ↦ h.ticket_of_queued hn
  refine ⟨?closed, (congrArg shutdown hb :).trans ht, .inl (congrArg worker hb :),
    fun _ ↦ (congrArg queue hb :), ?tickets, ?registry, ?reports⟩
  case closed =>
    have hclosed : k.stop.isClosed = k.isClosed := (congrArg isClosed hb :)
    rw [hclosed, isClosed, hp]
    rfl
  case tickets =>
    have htickets : k.stop.desk.tickets = k.desk.tickets :=
      (congrArg (fun k : Courier P ↦ k.desk.tickets) hb :)
    rw [htickets, hd]
    rfl
  case registry =>
    have hregistry : k.stop.desk.registry = k.desk.registry :=
      (congrArg (fun k : Courier P ↦ k.desk.registry) hb :)
    rw [hregistry, hd]
    rfl
  case reports =>
    have hlog : m.warned.reports = m.reports := m.reports_log rfl
    have hk : k.reports = m.warned.reports := (congrArg Desk.reports hd :)
    rw [if_neg hT, reports_stop k hqueued, hq, hk, hlog]

theorem halted (h : Sound m) (hf : Fresh m) (ho : m.isOpen = true) : Halted m m.halt := by
  have hc := h.isClosed_of_open ho
  have hw := h.worker_of_open ho
  have hlog : m.warned.reports = m.reports := m.reports_log rfl
  by_cases hu : m.worker = .unstarted
  · obtain ⟨hq, -⟩ := hf hu
    rw [halt_of_unstarted hc hu hq]
    refine ⟨rfl, rfl, .inl rfl, fun _ ↦ hq, rfl, rfl, hlog.trans ?_⟩
    simp [hq]
  · by_cases hT : m.config.shutdownTimeout = 0
    · rw [halt_of_no_time hc hu hw hT]
      refine ⟨rfl, rfl, .inr ⟨_, rfl⟩, fun hs ↦ (by cases hs), rfl, rfl, ?_⟩
      rw [if_pos hT, List.append_nil, ← hlog]
      exact m.warned.reports_log rfl
    · obtain ⟨k, hk, hcases⟩ := halt_eq_stop hc hu hw hT
      rw [hk]
      rcases hcases with ⟨-, rfl⟩ | ⟨w, -, rfl⟩
      · exact h.halted_stop hT rfl rfl rfl rfl
      · obtain ⟨hd, hq, hp, ht⟩ := m.warned.abortWrite_keeps w
        exact h.halted_stop hT hd hq hp ht

theorem worker_halt (h : Sound m) (hf : Fresh m) (ho : m.isOpen = true)
    (hg : m.givesUp = false) : m.halt.worker = .stopped := by
  have hc := h.isClosed_of_open ho
  by_cases hu : m.worker = .unstarted
  · rw [halt_of_unstarted hc hu (hf hu).1]
    rfl
  · have hT : m.config.shutdownTimeout ≠ 0 := by
      intro hT
      simp [givesUp, hT, hu] at hg
    obtain ⟨k, hk, -⟩ := halt_eq_stop hc hu (h.worker_of_open ho) hT
    rw [hk]
    exact congrArg worker k.bare_stop

theorem worker_halt_of_givesUp (h : Sound m) (ho : m.isOpen = true) (hg : m.givesUp = true) :
    ∃ n, m.halt.worker = .givenUp n := by
  obtain ⟨hT, hu⟩ : m.config.shutdownTimeout = 0 ∧ m.worker ≠ .unstarted := by
    simpa [givesUp] using hg
  rw [halt_of_no_time (h.isClosed_of_open ho) hu (h.worker_of_open ho) hT]
  exact ⟨_, rfl⟩

theorem agenda_halt (h : Sound m) (hf : Fresh m) (ho : m.isOpen = true) :
    m.halt.desk.agenda = m.desk.agenda := by
  have hc := h.isClosed_of_open ho
  have hw := h.worker_of_open ho
  by_cases hu : m.worker = .unstarted
  · rw [halt_of_unstarted hc hu (hf hu).1]
    rfl
  · by_cases hT : m.config.shutdownTimeout = 0
    · rw [halt_of_no_time hc hu hw hT]
      rfl
    · obtain ⟨k, hk, hcases⟩ := halt_eq_stop hc hu hw hT
      rw [hk, agenda_stop]
      rcases hcases with ⟨-, rfl⟩ | ⟨w, -, rfl⟩
      · rfl
      · rw [desk_abortWrite]
        rfl

end Sound

namespace Halted

variable {k : Courier P}

theorem shut (h : Halted m k) : Shut k.closeRegistry where
  closed := rfl
  told := h.told
  idle := h.idle
  empty := (congrArg (fun d : Desk P ↦ d.registry.entries) k.desk.bare_close :)

theorem tickets_closeRegistry (h : Halted m k) :
    k.closeRegistry.desk.tickets = m.desk.tickets :=
  (congrArg Desk.tickets k.desk.bare_close :).trans h.tickets

theorem reports_closeRegistry (h : Halted m k) (hm : Sound m) :
    k.closeRegistry.reports = m.reports ++
      (if m.config.shutdownTimeout = 0 then [] else m.queue.map .orphan) ++
      m.desk.registry.entries.map .pending := by
  have hs : ∀ s ∈ k.desk.registry.entries, ∃ t, k.desk.tickets[s.ticket]? = some t := by
    rw [h.registry, h.tickets]
    exact fun s hs ↦ hm.ticket_of_entry hs
  have hr : k.closeRegistry.reports = k.reports ++ k.desk.registry.entries.map .pending :=
    k.desk.reports_close hs
  rw [hr, h.reports, h.registry]

end Halted

theorem Shut.gone_work (h : Shut m) (hq : m.worker = .stopped → m.queue = []) : Gone m.work := by
  rcases h.idle with hw | ⟨n, hw⟩
  · have he : m.work = m := by simp [Courier.work, hw]
    rw [he]
    exact ⟨h, hw, hq hw⟩
  · have he : m.work = { m with worker := .stopped, queue := [] } := by simp [Courier.work, hw]
    rw [he]
    exact ⟨⟨h.closed, h.told, .inl rfl, h.empty⟩, rfl, rfl⟩

end GameServers.Courier
