import GameServers.Proofs.Courier.Matching

namespace GameServers.Courier

variable {P : Protocol} {m m' : Courier P} {w n : Nat} {x : Write} {s : Session}

/-- Only the last write can have a session, and the worker knows that write until the session is
gone. -/
structure Solo (m : Courier P) : Prop where
  sole : ∀ s ∈ m.desk.registry.entries, s.index = m.writes.length
  idle : m.worker = .unstarted ∨ m.worker = .waiting → m.desk.registry.entries = []
  writing : ∀ w, m.worker = .writing w → w + 1 = m.writes.length
  settling : ∀ n, m.worker = .settling n → (m.writes.map Write.ticket).getLast? = some n

theorem Solo.make (config : Config) : Solo (make config : Courier P) where
  sole s hs := by cases hs
  idle _ := rfl
  writing w hw := by cases hw
  settling n hn := by cases hn

theorem writeTicket_of_some (hx : m.writes[w]? = some x) : m.writeTicket w = x.ticket := by
  simp [writeTicket, hx]

theorem getLast?_tickets (hw : w + 1 = m.writes.length) (hx : m.writes[w]? = some x) :
    (m.writes.map Write.ticket).getLast? = some x.ticket := by
  have he : (m.writes.map Write.ticket).length - 1 = w := by
    rw [List.length_map]
    omega
  rw [List.getLast?_eq_getElem?, he, List.getElem?_map, hx, Option.map_some]

namespace Solo

/-- Whoever is registered is the request that was taken up last. -/
theorem last (hl : Solo m) (h : Sound m) (hs : s ∈ m.desk.registry.entries) :
    ∃ x, m.writes[m.writes.length - 1]? = some x ∧ x.session = s ∧ x.state ≠ .finished false ∧
      (m.writes.map Write.ticket).getLast? = some s.ticket := by
  obtain ⟨w, x, hx, rfl, hf⟩ := h.known hs
  have hw : w + 1 = m.writes.length := (h.numbered hx).symm.trans (hl.sole _ hs)
  have he : m.writes.length - 1 = w := by omega
  exact ⟨x, he ▸ hx, rfl, hf, getLast?_tickets hw hx⟩

theorem entries_of_done (hl : Solo m) (h : Sound m)
    (hn : (m.writes.map Write.ticket).getLast? = some n) (hd : m.desk.isDone n = true) :
    m.desk.registry.entries = [] := by
  refine List.eq_nil_iff_forall_not_mem.2 fun s hs ↦ ?_
  obtain ⟨x, -, -, -, hlast⟩ := hl.last h hs
  obtain rfl : n = s.ticket := Option.some.inj (hn.symm.trans hlast)
  obtain ⟨t, ht, ho⟩ := h.pending hs
  have hdone : t.status = .done := by simpa [Desk.isDone, ht, Ticket.isDone] using hd
  have hsome := (h.coherent ht).1 hdone
  rw [ho] at hsome
  cases hsome

theorem entries_of_failed (hl : Solo m) (h : Sound m) (hw : w + 1 = m.writes.length)
    (hr : m.writeResult? w = some false) : m.desk.registry.entries = [] := by
  refine List.eq_nil_iff_forall_not_mem.2 fun s hs ↦ ?_
  obtain ⟨x, hx, -, hf, -⟩ := hl.last h hs
  have he : m.writes.length - 1 = w := by omega
  rw [he] at hx
  unfold writeResult? at hr
  rw [hx] at hr
  split at hr
  · next b hb =>
    obtain rfl : x = ⟨_, _⟩ := Option.some.inj hb
    obtain rfl := Option.some.inj hr
    exact hf rfl
  · cases hr

theorem of_subset (hl : Solo m) (hw : m'.worker = m.worker)
    (ht : m'.writes.map Write.ticket = m.writes.map Write.ticket)
    (hs : ∀ s ∈ m'.desk.registry.entries, s ∈ m.desk.registry.entries) : Solo m' := by
  have hlen : m'.writes.length = m.writes.length := by simpa using congrArg List.length ht
  refine ⟨fun s h ↦ ?_, fun h ↦ ?_, fun w h ↦ ?_, fun n h ↦ ?_⟩
  · rw [hlen]
    exact hl.sole s (hs s h)
  · rw [hw] at h
    refine List.eq_nil_iff_forall_not_mem.2 fun s h' ↦ ?_
    have hm := hs s h'
    rw [hl.idle h] at hm
    cases hm
  · rw [hlen]
    exact hl.writing w (hw ▸ h)
  · rw [ht]
    exact hl.settling n (hw ▸ h)

theorem quit (hl : Solo m) (hw : m'.worker = .stopped ∨ ∃ n, m'.worker = .givenUp n)
    (ht : m'.writes.map Write.ticket = m.writes.map Write.ticket)
    (hs : m'.desk.registry = m.desk.registry) : Solo m' := by
  have hlen : m'.writes.length = m.writes.length := by simpa using congrArg List.length ht
  refine ⟨fun s h ↦ ?_, fun h ↦ ?_, fun w h ↦ ?_, fun n h ↦ ?_⟩
  · rw [hlen]
    exact hl.sole s (hs ▸ h)
  all_goals
    rcases hw with hw | ⟨k, hw⟩ <;> simp [hw] at h

theorem wait (hl : Solo m) (he : m.desk.registry.entries = []) :
    Solo { m with worker := .waiting } where
  sole := hl.sole
  idle _ := he
  writing w hw := by cases hw
  settling n hn := by cases hn

theorem step (hl : Solo m) (h : Sound m) (hc : m.config.mode = .synchronous) (hs : Step m m') :
    Solo m' := by
  have hset (w : Nat) (ws : WriteState) := map_ticket_setWrite m w ws
  cases hs with
  | enqueue r =>
    by_cases hu : m.worker = .unstarted
    · simp only [if_pos hu]
      exact { hl with
        idle := fun _ ↦ hl.idle (.inl hu)
        writing := fun w hw ↦ by cases hw
        settling := fun n hn ↦ by cases hn }
    · simp only [if_neg hu]
      exact { hl with }
  -- A worker that waits has nothing registered, so the new session is the only one.
  | take n rest t id hw hd hq =>
    have he := hl.idle (.inr hw)
    simp only [if_pos hc]
    exact {
      sole := fun s hs ↦ by
        rcases Registry.mem_entries_file.1 hs with rfl | hs
        · rw [List.length_append, List.length_singleton, ← h.counted]
          rfl
        · rw [he] at hs
          cases hs
      idle := fun hi ↦ by simp at hi
      writing := fun w hw ↦ by
        rw [List.length_append, List.length_singleton, Worker.writing.inj hw]
      settling := fun n hn ↦ by cases hn }
  | release n hn hd =>
    refine hl.wait ?_
    rcases hn with hn | ⟨w, hw, rfl⟩
    · exact hl.entries_of_done h (hl.settling n hn) hd
    · have hlen := hl.writing w hw
      obtain ⟨x, hx⟩ : ∃ x, m.writes[w]? = some x := ⟨_, List.getElem?_eq_getElem (by omega)⟩
      rw [writeTicket_of_some hx] at hd
      exact hl.entries_of_done h (getLast?_tickets hlen hx) hd
  | written w hw hr =>
    have hlen := hl.writing w hw
    obtain ⟨x, hx⟩ : ∃ x, m.writes[w]? = some x := ⟨_, List.getElem?_eq_getElem (by omega)⟩
    exact { hl with
      idle := fun hi ↦ by simp at hi
      writing := fun w hw ↦ by cases hw
      settling := fun n hn ↦ by
        obtain rfl := Worker.settling.inj hn
        rw [writeTicket_of_some hx]
        exact getLast?_tickets hlen hx }
  | unwritten w hw hr => exact hl.wait (hl.entries_of_failed h (hl.writing w hw) hr)
  | stop | leave => exact hl.quit (.inl rfl) rfl rfl
  | abort w x hd hx hlive => exact hl.quit (.inl rfl) (hset w _) rfl
  | abortWorker n hp => exact hl.quit (.inr ⟨n, rfl⟩) rfl rfl
  | beginClose hp =>
    by_cases hu : m.worker = .unstarted
    · simp only [if_pos hu]
      exact hl.quit (.inl rfl) rfl rfl
    · simp only [if_neg hu]
      exact { hl with }
  | settle s o => exact hl.of_subset rfl rfl fun s hs ↦ (h.mem_of_mem_remove hs).1
  | start w => exact hl.of_subset rfl (hset w _) fun _ hs ↦ hs
  | sent w => exact hl.of_subset rfl (hset w _) fun _ hs ↦ hs
  | putBack w => exact hl.of_subset rfl (hset w _) fun s hs ↦ (h.mem_of_mem_remove hs).1
  | fail w => exact hl.of_subset rfl (hset w _) fun s hs ↦ (h.mem_of_mem_remove hs).1
  | closeRegistry hp => exact hl.of_subset rfl rfl fun s hs ↦ by cases hs
  | _ => exact { hl with }

theorem run (config : Config) (hc : config.mode = .synchronous) (as : List (Act P)) :
    Solo ((Courier.make config : Courier P).run as) := by
  let I (k : Courier P) : Prop := k.config.mode = .synchronous ∧ Solo k
  have hrun : I ((Courier.make config).run as) := by
    refine (Sound.make config).kept (fun k ↦ ?_) (fun h hs ⟨hk, hl⟩ ↦ ?_) ⟨hc, .make config⟩ as
    · exact ⟨fun ⟨hk, hl⟩ ↦ ⟨hk, { hl with }⟩, fun ⟨hk, hl⟩ ↦ ⟨hk, { hl with }⟩⟩
    · exact ⟨hs.config ▸ hk, hl.step h hk hs⟩
  exact hrun.2

theorem length_le_one (hl : Solo m) (h : Sound m) : m.desk.registry.entries.length ≤ 1 := by
  by_contra hlt
  have hne := List.nodup_iff_injective_getElem.1 h.filed.nodup_entries
  have he : m.desk.registry.entries[0] = m.desk.registry.entries[1] := by
    have h₀ := List.getElem_mem (l := m.desk.registry.entries) (n := 0) (by omega)
    have h₁ := List.getElem_mem (l := m.desk.registry.entries) (n := 1) (by omega)
    obtain ⟨w, x, hx, hs, -⟩ := h.known h₁
    rw [← hs]
    refine h.entry_eq_of_index hx h₀ ?_
    rw [hs, hl.sole _ h₀, hl.sole _ h₁]
  exact absurd (Fin.val_eq_of_eq (@hne ⟨0, by omega⟩ ⟨1, by omega⟩ he)) (by simp)

end Solo

def TakesUp (m m' : Courier P) (s : Session) : Prop :=
  m'.writes = m.writes ++ [⟨s, .spawned⟩] ∧ s ∈ m'.desk.registry.entries

theorem Step.takesUp (h : Step m m') (hw : m'.writes.length = m.writes.length + 1) :
    m.worker = .waiting ∧ m.shutdown = false ∧ ∃ s, TakesUp m m' s := by
  have hne : m.writes.length ≠ m.writes.length + 1 := by omega
  have hset (w : Nat) (ws : WriteState) := length_setWrite m w ws
  cases h with
  | take n rest t id hwait hd =>
    exact ⟨hwait, hd, _, rfl, Registry.mem_entries_file.2 (.inl rfl)⟩
  | abort w => exact absurd ((hset w _).symm.trans hw) hne
  | start w => exact absurd ((hset w _).symm.trans hw) hne
  | sent w => exact absurd ((hset w _).symm.trans hw) hne
  | putBack w => exact absurd ((hset w _).symm.trans hw) hne
  | fail w => exact absurd ((hset w _).symm.trans hw) hne
  | _ => exact absurd hw hne

theorem Step.failed (h : Step m m') (hm : Sound m) (hx : m'.writes[w]? = some x)
    (hf : x.state = .finished false) :
    (∃ y, m.writes[w]? = some y ∧ y.session = x.session ∧ y.state = .finished false) ∨
      (m.writes[w]? = some ⟨x.session, .started⟩ ∧ m'.queue = m.queue ++ [x.ticket]) ∨
      ∃ t, m'.desk.tickets[x.ticket]? = some t ∧ t.outcome ≠ none := by
  have hold {v : Nat} {ws : WriteState} (hws : ws ≠ .finished false)
      (hx : (m.setWrite v ws).writes[w]? = some x) :
      ∃ y, m.writes[w]? = some y ∧ y.session = x.session ∧ y.state = .finished false := by
    obtain ⟨y, hy, hs, ⟨-, hst⟩ | ⟨-, hst⟩⟩ := of_getElem?_setWrite hx
    · exact absurd (hst.symm.trans hf) hws
    · exact ⟨y, hy, hs.symm, hst.symm.trans hf⟩
  cases h with
  | take n rest t id =>
    rcases getElem?_concat hx with hx | ⟨-, rfl⟩
    · exact .inl ⟨x, hx, rfl, hf⟩
    · cases hf
  | abort => exact .inl (hold (by simp) hx)
  | start => exact .inl (hold (by simp) hx)
  | sent => exact .inl (hold (by simp) hx)
  | putBack v s hw =>
    obtain ⟨y, hy, hs, ⟨rfl, -⟩ | ⟨-, hst⟩⟩ := of_getElem?_setWrite hx
    · obtain rfl := Option.some.inj (hy.symm.trans hw)
      refine .inr (.inl ⟨hs.symm ▸ hw, ?_⟩)
      rw [Write.ticket_congr hs]
      rfl
    · exact .inl ⟨y, hy, hs.symm, hst.symm.trans hf⟩
  | fail v s e f hw hcause =>
    obtain ⟨y, hy, hs, ⟨rfl, -⟩ | ⟨-, hst⟩⟩ := of_getElem?_setWrite hx
    · obtain rfl := Option.some.inj (hy.symm.trans hw)
      obtain ⟨t, ht, -⟩ := hm.named hw
      refine .inr (.inr ⟨f t, ?_, ?_⟩)
      · rw [Write.ticket_congr hs]
        change (m.desk.modify s.ticket f).tickets[s.ticket]? = _
        exact Desk.getElem?_modify_of_some ht
      · rcases hcause with ⟨rfl, -⟩ | ⟨rfl, -⟩
        · exact Option.isSome_iff_ne_none.1 (t.isSome_outcome_complete _)
        · exact Option.isSome_iff_ne_none.1 (t.putBack.isSome_outcome_complete _)
    · exact .inl ⟨y, hy, hs.symm, hst.symm.trans hf⟩
  | _ => exact .inl ⟨x, hx, rfl, hf⟩

/-- At some moment of the run the write failed and its request went to the end of the queue. -/
def WentBack (config : Config) (as : List (Act P)) (w n : Nat) : Prop :=
  ∃ before a after, as = before ++ a :: after ∧
    let m : Courier P := (make config).run before
    (m.writes[w]?.map Write.state = some .started ∧
      (m.act a).writes[w]?.map Write.state = some (.finished false)) ∧
    (m.act a).queue = m.queue ++ [n]

theorem wentBack_or_settled (config : Config) (as : List (Act P)) {w : Nat} {x : Write}
    (hx : ((make config : Courier P).run as).writes[w]? = some x)
    (hf : x.state = .finished false) :
    WentBack config as w x.ticket ∨
      ∃ t, ((make config : Courier P).run as).desk.tickets[x.ticket]? = some t ∧
        t.outcome ≠ none := by
  induction as using List.reverseRecOn generalizing x with
  | nil => cases hx
  | append_singleton as a ih =>
    have hm : Sound ((make config : Courier P).run as) := (Sound.make config).run as
    have hrun := run_concat (make config : Courier P) as a
    rw [hrun] at hx ⊢
    have hstep := act_step hm.filed a
    rcases hstep.failed { hm with } hx hf with ⟨y, hy, hs, hst⟩ | ⟨hy, hq⟩ | hsettled
    · have ht : y.ticket = x.ticket := Write.ticket_congr hs
      rcases ih hy hst with ⟨before, b, after, rfl, hback⟩ | ⟨t, htk, ho⟩
      · exact .inl ⟨before, b, after ++ [a], by simp, ht ▸ hback⟩
      · obtain ⟨t', ht', hl⟩ := hm.leads_act a htk
        refine .inr ⟨t', ht ▸ ht', ?_⟩
        obtain ⟨o, ho⟩ := Option.ne_none_iff_exists'.1 ho
        rw [hl.2 o ho]
        simp
    · refine .inl ⟨as, a, [], rfl, ⟨?_, ?_⟩, hq⟩
      · exact congrArg (Option.map Write.state) hy
      · exact (congrArg (Option.map Write.state) hx).trans (by rw [Option.map_some, hf])
    · exact .inr hsettled

/-- In synchronous mode at most one request is registered. The worker takes up a request only when
each request that it took up before is settled, or is in the queue after its write failed and it
was put at the end. Requests are taken up for the first time in the order of sending. -/
theorem synchronous_one_at_a_time (config : Config) (as : List (Act P))
    (hc : config.mode = .synchronous) :
    let m : Courier P := (make config).run as
    m.desk.registry.entries.length ≤ 1 ∧
      (∀ a s, TakesUp m (m.act a) s → ∀ w x, m.writes[w]? = some x →
        m.outcome? x.ticket ≠ none ∨
          x.state = .finished false ∧ x.ticket ∈ m.queue ∧ WentBack config as w x.ticket) ∧
      FirstsAscend (m.writes.map Write.ticket) := by
  intro m
  have hm : Sound m := (Sound.make config).run as
  have hl : Solo m := .run config hc as
  refine ⟨hl.length_le_one hm, fun a s hs w x hx ↦ ?_, firstsAscend_writes config as⟩
  have hlen : (m.act a).writes.length = m.writes.length + 1 := by
    rw [hs.1, List.length_append, List.length_singleton]
  obtain ⟨hw, hd, -⟩ : m.worker = .waiting ∧ m.shutdown = false ∧ _ :=
    (act_step hm.filed a).takesUp hlen
  obtain ⟨t, ht, -⟩ := hm.named hx
  rw [hm.outcome?_eq (by simpa [isOpen] using hd) ht]
  by_cases ho : t.outcome = none
  · right
    have hq : x.ticket ∈ m.queue := by
      rcases hm.placed hd ht ho with hq | ⟨s, hs, -⟩
      · exact hq
      · rw [hl.idle (.inr hw)] at hs
        cases hs
    have hf := hm.state_of_queued hq hx rfl
    refine ⟨hf, hq, (wentBack_or_settled config as hx hf).resolve_right ?_⟩
    rintro ⟨t', ht', ho'⟩
    rw [Option.some.inj (ht'.symm.trans ht)] at ho'
    exact ho' ho
  · exact .inl ho

def retrying : Config := { mode := .synchronous, maxWriteRetries := 1 }

/-- Two requests are sent, and the write of the first fails. -/
def twoPings : List (Act Plain.protocol) :=
  [.send ping true, .send ping true, .work, .startWrite 0, .finishWrite 0 (.error .closed), .work]

theorem length_writes_twoPings :
    (((make retrying).run twoPings).act .work).writes.length =
      ((make retrying).run twoPings).writes.length + 1 := by
  decide +kernel

theorem pings_one_at_a_time :
    let m := (make retrying).run twoPings
    retrying.mode = .synchronous ∧ m.desk.registry.entries.length ≤ 1 ∧
      (∃ s, TakesUp m (m.act .work) s) ∧
      ∀ x, m.writes[0]? = some x → m.outcome? x.ticket ≠ none ∨ x.ticket ∈ m.queue := by
  intro m
  have hm : Sound m := (Sound.make retrying).run twoPings
  obtain ⟨hlen, hbefore, -⟩ := synchronous_one_at_a_time retrying twoPings rfl
  obtain ⟨-, -, s, hs⟩ := (act_step hm.filed .work).takesUp length_writes_twoPings
  exact ⟨rfl, hlen, ⟨s, hs⟩, fun x hx ↦ (hbefore .work s hs 0 x hx).imp_right fun h ↦ h.2.1⟩

end GameServers.Courier
