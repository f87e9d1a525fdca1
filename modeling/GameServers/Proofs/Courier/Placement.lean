import GameServers.Plain
import GameServers.Proofs.Courier.Naps

namespace GameServers.Courier

variable {P : Protocol} {m m' : Courier P} {n : Nat} {t : Ticket P} {s : Session}

theorem leads_modify {d : Desk P} {k : Nat} {f : Ticket P → Ticket P} (hf : ∀ t : Ticket P, t.Leads (f t))
    (ht : d.tickets[n]? = some t) : ∃ t', (d.modify k f).tickets[n]? = some t' ∧ t.Leads t' := by
  by_cases hk : n = k
  · refine ⟨f t, ?_, hf t⟩
    rw [hk] at ht ⊢
    exact Desk.getElem?_modify_of_some ht
  · exact ⟨t, (Desk.getElem?_modify_of_ne hk).trans ht, .refl t⟩

theorem Step.leads (h : Step m m') (ht : m.desk.tickets[n]? = some t) :
    ∃ t', m'.desk.tickets[n]? = some t' ∧ t.Leads t' := by
  cases h with
  | enqueue r =>
    have hlt := (List.getElem?_eq_some_iff.1 ht).1
    exact ⟨t, (List.getElem?_append_left hlt).trans ht, .refl t⟩
  | settle s o => exact leads_modify (fun t ↦ t.leads_complete o) ht
  | take => exact leads_modify (fun t ↦ Ticket.leads_of_eq t.request_takeUp t.outcome_takeUp) ht
  | refuse k rest e =>
    refine leads_modify (fun t ↦ .trans (Ticket.leads_of_eq ?_ ?_) (Ticket.leads_complete _ _)) ht
    · exact t.request_advance .accepted
    · exact t.outcome_advance .accepted
  | sent => exact leads_modify (fun t ↦ Ticket.leads_of_eq (t.request_advance _) (t.outcome_advance _)) ht
  | putBack =>
    exact leads_modify (fun t ↦ Ticket.leads_of_eq t.request_putBack t.outcome_putBack) ht
  | fail w s e f _ hf =>
    rcases hf with ⟨rfl, -⟩ | ⟨rfl, -⟩
    · exact leads_modify (fun t ↦ t.leads_complete _) ht
    · exact leads_modify (fun t ↦ .trans (Ticket.leads_of_eq t.request_putBack t.outcome_putBack)
        (t.putBack.leads_complete _)) ht
  | _ => exact ⟨t, ht, .refl t⟩

theorem Sound.leads_act (h : Sound m) (a : Act P) (ht : m.desk.tickets[n]? = some t) :
    ∃ t', (m.act a).desk.tickets[n]? = some t' ∧ t.Leads t' :=
  (act_step h.filed a).leads ht

theorem Sound.leads_run (h : Sound m) (as : List (Act P)) (ht : m.desk.tickets[n]? = some t) :
    ∃ t', (m.run as).desk.tickets[n]? = some t' ∧ t.Leads t' := by
  refine h.kept (I := fun k ↦ ∃ t', k.desk.tickets[n]? = some t' ∧ t.Leads t')
    (fun _ ↦ .rfl) (fun _ hs ↦ ?_) ⟨t, ht, .refl t⟩ as
  rintro ⟨t', ht', hl⟩
  obtain ⟨t'', ht'', hl'⟩ := hs.leads ht'
  exact ⟨t'', ht'', hl.trans hl'⟩

theorem ticket_of_send {r : P.Request} {runtime : Bool} (h : (m.send r runtime).2 = .ok n) :
    ∃ t, (m.send r runtime).1.desk.tickets[n]? = some t ∧ t.request = r := by
  unfold send at h ⊢
  split at h
  · have hb := congrArg (fun k : Courier P ↦ k.desk.tickets) (m.bare_enqueue r)
    obtain rfl := Except.ok.inj h
    change (m.enqueue r).desk.tickets = m.desk.tickets ++ _ at hb
    refine ⟨{ request := r, createdAt := m.desk.now }, ?_, rfl⟩
    simp only [hb]
    exact List.getElem?_concat_length
  · cases h

/-- In the queue, once, and behind no session. -/
structure Queued (m : Courier P) (n : Nat) : Prop where
  once : m.queue.count n = 1
  unregistered : ∀ s ∈ m.desk.registry.entries, s.ticket ≠ n

/-- Behind one session and not in the queue. The session has one timer, and that is due when the
sleep that it began at or after the registration has lasted for the read timeout, but no longer than
any sleep may, and at a whole millisecond. -/
structure Registered (m : Courier P) (n : Nat) : Prop where
  absent : n ∉ m.queue
  session : ∃ s, m.desk.registry.entries.filter (·.ticket = n) = [s] ∧
    m.desk.timers.filter (·.index = s.index) = [s.timer] ∧
    s.registeredAt ≤ m.desk.asleepSince s.index ∧
    m.desk.dueAt s.index = Agenda.wholeMillis
      (m.desk.asleepSince s.index + min m.config.readTimeout Agenda.longestSleep)

/-- Behind no session that is registered, and no timer runs for any that it ever had. -/
structure Released (m : Courier P) (n : Nat) : Prop where
  absent : n ∉ m.queue
  unregistered : ∀ s ∈ m.desk.registry.entries, s.ticket ≠ n
  disarmed : ∀ x ∈ m.writes, x.ticket = n → ∀ τ ∈ m.desk.timers, τ.index ≠ x.session.index

namespace Sound

theorem filter_ticket (h : Sound m) (hs : s ∈ m.desk.registry.entries) :
    m.desk.registry.entries.filter (·.ticket = s.ticket) = [s] :=
  Registry.filter_eq_singleton h.filed.nodup_entries hs fun _ hx ↦
    ⟨h.eq_of_ticket hx hs, fun he ↦ he ▸ rfl⟩

theorem filter_index (h : Sound m) (hs : s ∈ m.desk.registry.entries) :
    m.desk.timers.filter (·.index = s.index) = [s.timer] := by
  have hp := h.timed.filter (·.index = s.index)
  have he : m.desk.registry.entries.filter (·.index = s.index) = [s] := by
    refine Registry.filter_eq_singleton h.filed.nodup_entries hs fun _ hx ↦
      ⟨fun hi ↦ ?_, fun he ↦ he ▸ rfl⟩
    obtain ⟨w, y, hy, rfl, -⟩ := h.known hs
    exact h.entry_eq_of_index hy hx hi
  rw [List.filter_map] at hp
  change List.Perm _ ((m.desk.registry.entries.filter (·.index = s.index)).map _) at hp
  rw [he] at hp
  exact List.perm_singleton.1 hp

theorem queued_of_mem (h : Sound m) (hn : n ∈ m.queue) : m.Queued n where
  once := by rw [h.queuedOnce.count, if_pos hn]
  unregistered _ hs := h.ticket_ne_of_queued hn hs

theorem registered_of_mem (h : Sound m) (hr : m.desk.Rested m.sessions)
    (hs : s ∈ m.desk.registry.entries) : m.Registered s.ticket where
  absent hn := h.ticket_ne_of_queued hn hs rfl
  session := by
    refine ⟨s, h.filter_ticket hs, h.filter_index hs, (hr.bounds (h.given hs)).1, ?_⟩
    rw [Desk.dueAt, h.timeout, Agenda.dueAfter_eq]

theorem released_of_settled (h : Sound m) (ht : m.desk.tickets[n]? = some t)
    (ho : t.outcome ≠ none) : m.Released n := by
  have hs : ∀ s ∈ m.desk.registry.entries, s.ticket ≠ n := by
    rintro s hs rfl
    obtain ⟨t', ht', ho'⟩ := h.pending hs
    rw [Option.some.inj (ht.symm.trans ht')] at ho
    exact ho ho'
  refine ⟨fun hn ↦ ?_, hs, fun x hx hxn τ hτ hi ↦ ?_⟩
  · obtain ⟨t', ht', ho', -⟩ := h.outcome_of_queued hn
    rw [Option.some.inj (ht.symm.trans ht')] at ho
    exact ho ho'
  · obtain ⟨w, hw⟩ := List.mem_iff_getElem?.1 hx
    obtain ⟨s, hs', rfl⟩ := List.mem_map.1 (h.timed.mem_iff.1 hτ)
    refine hs s hs' ?_
    rw [h.entry_eq_of_index hw hs' hi]
    exact hxn

theorem outcome?_eq (h : Sound m) (ho : m.isOpen = true) (ht : m.desk.tickets[n]? = some t) :
    m.outcome? n = t.outcome := by
  have hd : m.shutdown = false := isOpen_eq_true.1 ho
  unfold outcome? Desk.outcome?
  rw [ht]
  cases hto : t.outcome with
  | some o => simp [hto]
  | none =>
    have hkept : (m.isHeld n || m.desk.keeps n) = true := by
      rcases h.placed hd ht hto with hq | ⟨s, hs, hsn⟩
      · simp [isHeld, hq]
      · have hk : m.desk.keeps n = true := List.any_eq_true.2 ⟨s, hs, by simpa using hsn⟩
        rw [hk, Bool.or_true]
    simp [hto, hkept]

theorem placement (h : Sound m) (hr : m.desk.Rested m.sessions) (ho : m.isOpen = true)
    (ht : m.desk.tickets[n]? = some t) :
    (m.outcome? n = none → m.Queued n ∨ m.Registered n) ∧
      (m.outcome? n ≠ none → m.Released n) := by
  rw [h.outcome?_eq ho ht]
  refine ⟨fun hn ↦ ?_, fun hn ↦ h.released_of_settled ht hn⟩
  have hd : m.shutdown = false := isOpen_eq_true.1 ho
  rcases h.placed hd ht hn with hq | ⟨s, hs, rfl⟩
  · exact .inl (h.queued_of_mem hq)
  · exact .inr (h.registered_of_mem hr hs)

end Sound

/-- A request that the examples below send. -/
def ping : Plain.Message := ⟨.ping, some (.v6 ⟨0, 0, 0, 0, 0, 0, 0, 1⟩ 1 0 0), "ping"⟩

/-- No request is lost, and none is in two places at once: in every run of an open courier, a
request that was accepted is in the queue or behind a session until it is settled, and behind none
from then on. The two places exclude each other. The sleep of a timer begins when its task first
runs, and if no time passes before that, at the registration. -/
theorem accepted_request_in_one_place (config : Config) (before after : List (Act P))
    (r : P.Request) (runtime : Bool) (n : Nat)
    (hsend : (((make config : Courier P).run before).send r runtime).2 = .ok n)
    (hopen : ((make config : Courier P).run (before ++ .send r runtime :: after)).isOpen = true) :
    let as := before ++ .send r runtime :: after
    let m := (make config : Courier P).run as
    (m.outcome? n = none → m.Queued n ∧ ¬ m.Registered n ∨ m.Registered n ∧ ¬ m.Queued n) ∧
      (m.outcome? n ≠ none → m.Released n) ∧
      ∀ s ∈ m.desk.registry.entries,
        m.desk.asleepSince s.index = ((make config).firstRun? s.index as).getD m.desk.now ∧
        ((make config).Patient as → m.desk.asleepSince s.index = s.registeredAt) := by
  intro as m
  have hb : Sound ((make config : Courier P).run before) := (Sound.make config).run before
  obtain ⟨t, ht, -⟩ := ticket_of_send hsend
  obtain ⟨t', ht', -⟩ := (hb.act (.send r runtime)).leads_run after ht
  have hrun : m = (((make config : Courier P).run before).act (.send r runtime)).run after :=
    run_append _ before (.send r runtime :: after)
  have h₀ : Sound (make config : Courier P) := .make config
  have hm : Sound m := h₀.run as
  have hr : m.desk.Rested m.sessions := h₀.rested_run (rested_make config) as
  rw [← hrun] at ht'
  obtain ⟨hpending, hsettled⟩ := hm.placement hr hopen ht'
  refine ⟨fun hn ↦ ?_, hsettled, fun s hs ↦ ⟨?_, fun hp ↦ ?_⟩⟩
  · have hexcl : ¬ (m.Queued n ∧ m.Registered n) := by
      rintro ⟨hq, hr⟩
      exact hr.absent (List.count_pos_iff.1 (by rw [hq.once]; exact Nat.one_pos))
    rcases hpending hn with hq | hr
    · exact .inl ⟨hq, fun hr ↦ hexcl ⟨hq, hr⟩⟩
    · exact .inr ⟨hr, fun hq ↦ hexcl ⟨hq, hr⟩⟩
  · have hnaps : m.desk.naps s.index = (make config).firstRun? s.index as := h₀.naps_run as hs
    rw [Desk.asleepSince, hnaps]
  · exact h₀.brisk_run (rested_make config) (fun s hs ↦ by simp [make, Registry.entries] at hs) hp s hs

/-- The timer's task first runs in the fourth act, when no time has passed since the third. -/
theorem ping_in_one_place :
    let as : List (Act Plain.protocol) := [.clock 1, .send ping true, .work, .runTimer 1, .clock 2]
    let m := (make {}).run as
    m.outcome? 0 = none ∧ (m.Queued 0 ∧ ¬ m.Registered 0 ∨ m.Registered 0 ∧ ¬ m.Queued 0) ∧
      ∀ s ∈ m.desk.registry.entries, s.registeredAt = 1 ∧ m.desk.asleepSince s.index = 1 := by
  intro as m
  have hn : m.outcome? 0 = none := by decide +kernel
  have hp : (make {} : Courier Plain.protocol).Patient as := by decide +kernel
  obtain ⟨hplace, -, hslept⟩ := accepted_request_in_one_place (P := Plain.protocol) {} [.clock 1]
    [.work, .runTimer 1, .clock 2] ping true 0 rfl (by decide +kernel)
  have hs : ∀ s ∈ m.desk.registry.entries, s.registeredAt = 1 := by decide +kernel
  exact ⟨hn, hplace hn, fun s hm ↦ ⟨hs s hm, ((hslept s hm).2 hp).trans (hs s hm)⟩⟩

/-- With a read timeout of more than thirty years the timer is due before it is over, since no sleep
is that long, and with one that is no whole number of milliseconds, after it. It is also due later if
its task first runs some time after the registration. -/
theorem timer_off_read_timeout :
    let s : Session := ⟨⟨"PING:::1:1"⟩, 1, 0, 0⟩
    let due (readTimeout : Time) (as : List (Act Plain.protocol)) (time : Time) : Prop :=
      let m := (make { readTimeout }).run (.send ping true :: .work :: as)
      m.isOpen = true ∧ m.outcome? 0 = none ∧ 0 ∉ m.queue ∧ m.desk.registry.entries = [s] ∧
        m.desk.timers = [s.timer] ∧ m.desk.dueAt s.index = time
    due (.ofMillis 1000000000000) [.runTimer 1] (.ofMillis 946080000000) ∧
      due 1500000 [.runTimer 1] 2000000 ∧
      due (.ofMillis 5000) [.clock (.ofMillis 3000), .runTimer 1] (.ofMillis 8000) := by
  decide +kernel

end GameServers.Courier
