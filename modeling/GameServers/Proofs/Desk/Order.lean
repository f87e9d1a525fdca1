import GameServers.Plain
import GameServers.Proofs.Desk.Shift

namespace GameServers

variable {P : Protocol}

theorem Registry.WellFiled.entries_sorted {r : Registry} (h : r.WellFiled) :
    r.entries.Pairwise fun a b ↦ a.id.text < b.id.text ∨ a.id = b.id ∧ a.index < b.index := by
  refine List.pairwise_flatMap.2 ⟨fun b hb ↦ ?_, ?_⟩
  · refine List.Pairwise.imp_of_mem (fun {x y} hx hy hlt ↦ ?_) (h.sorted b hb)
    exact .inr ⟨(h.own b hb x hx).trans (h.own b hb y hy).symm, hlt⟩
  · refine List.Pairwise.imp_of_mem (fun {b c} hb hc hlt x hx y hy ↦ ?_) h.ordered
    left
    rwa [h.own b hb x hx, h.own c hc y hy]

namespace Shift

/-- Sessions are numbered as they are given out, and every timer belongs to one session that is
registered. -/
structure Orderly (h : Shift P) : Prop where
  filed : h.desk.registry.WellFiled
  counted : h.desk.counter = h.sessions.length
  numbered : ∀ {k : Nat} {s : Session}, h.sessions[k]? = some s → s.index = k + 1
  given : ∀ {s : Session}, s ∈ h.desk.registry.entries → s ∈ h.sessions
  named : ∀ {s : Session}, s ∈ h.sessions → ∃ t, h.desk.tickets[s.ticket]? = some t ∧
    (Envelope.request t.request : Envelope P).sessionId = .ok s.id
  owned : ∀ {τ : Timer}, τ ∈ h.desk.timers → ∃ s ∈ h.desk.registry.entries, τ = s.timer
  once : (h.desk.timers.map Timer.index).Nodup
  armed : ∀ {s : Session}, s ∈ h.desk.registry.entries → h.desk.isDone s.ticket = false →
    s.timer ∈ h.desk.timers

variable {h h' : Shift P} {s x : Session} {n : Nat} {f : Ticket P → Ticket P}

theorem isDone_modify (hf : Moves f) {d : Desk P} {k : Nat} (hd : d.isDone k = true) :
    (d.modify n f).isDone k = true := by
  unfold Desk.isDone at hd ⊢
  cases ht : d.tickets[k]? with
  | none => rw [ht] at hd; cases hd
  | some t =>
    rw [ht] at hd
    by_cases hk : k = n
    · subst hk
      rw [Desk.getElem?_modify_of_some ht]
      exact (hf t).2 hd
    · rw [Desk.getElem?_modify_of_ne hk, ht]
      exact hd

theorem of_isDone_modify (hf : Moves f) {d : Desk P} {k : Nat}
    (hd : (d.modify n f).isDone k = false) : d.isDone k = false := by
  by_contra hne
  rw [isDone_modify hf (by simpa using hne)] at hd
  cases hd

namespace Orderly

theorem start (readTimeout : Time) : Orderly (start readTimeout : Shift P) where
  filed := .empty
  counted := rfl
  numbered h := by simp [Shift.start] at h
  given h := by simp [Shift.start, Registry.entries] at h
  named h := by simp [Shift.start] at h
  owned h := by simp [Shift.start] at h
  once := .nil
  armed h := by simp [Shift.start, Registry.entries] at h

theorem eq_of_index (h₀ : Orderly h) (hs : s ∈ h.sessions) (hx : x ∈ h.sessions)
    (hi : s.index = x.index) : s = x := by
  obtain ⟨k, hk⟩ := List.mem_iff_getElem?.1 hs
  obtain ⟨l, hl⟩ := List.mem_iff_getElem?.1 hx
  have hkl : k = l := by
    have h₁ := h₀.numbered hk
    have h₂ := h₀.numbered hl
    omega
  subst hkl
  exact Option.some.inj (hk.symm.trans hl)

theorem index_le (h₀ : Orderly h) (hs : s ∈ h.sessions) : s.index ≤ h.sessions.length := by
  obtain ⟨k, hk⟩ := List.mem_iff_getElem?.1 hs
  have hlt := (List.getElem?_eq_some_iff.1 hk).1
  rw [h₀.numbered hk]
  omega

theorem entries_remove (h₀ : Orderly h) (hs : s ∈ h.sessions) :
    (h.desk.registry.remove s).entries = h.desk.registry.entries.filter (· ≠ s) := by
  rw [h₀.filed.entries_remove]
  refine List.filter_congr fun x hx ↦ ?_
  by_cases hxs : x = s
  · simp [hxs, Registry.samePlace]
  · have hi : x.index ≠ s.index := fun hi ↦ hxs (h₀.eq_of_index (h₀.given hx) hs hi)
    simp [hxs, hi, Registry.samePlace]

theorem mem_remove (h₀ : Orderly h) (hs : s ∈ h.sessions) :
    x ∈ (h.desk.registry.remove s).entries ↔ x ∈ h.desk.registry.entries ∧ x ≠ s := by
  rw [h₀.entries_remove hs, List.mem_filter, decide_eq_true_iff]

theorem modify (h₀ : Orderly h) (n : Nat) (hf : Moves f) :
    Orderly (h.mapDesk (·.modify n f)) where
  filed := h₀.filed
  counted := h₀.counted
  numbered := h₀.numbered
  given := h₀.given
  named := fun {s} hs ↦ by
    obtain ⟨t, ht, hid⟩ := h₀.named hs
    by_cases hk : s.ticket = n
    · refine ⟨f t, ?_, by rw [(hf t).1]; exact hid⟩
      rw [hk] at ht ⊢
      exact Desk.getElem?_modify_of_some ht
    · exact ⟨t, (Desk.getElem?_modify_of_ne hk).trans ht, hid⟩
  owned := h₀.owned
  once := h₀.once
  armed := fun hs hd ↦ h₀.armed hs (of_isDone_modify hf hd)

theorem strike (h₀ : Orderly h) (hs : s ∈ h.sessions) : Orderly (h.mapDesk (·.strike s)) where
  filed := h₀.filed.remove s
  counted := h₀.counted
  numbered := h₀.numbered
  given := fun hx ↦ h₀.given ((h₀.mem_remove hs).1 hx).1
  named := h₀.named
  owned := fun {τ} hτ ↦ by
    obtain ⟨hτ, hi⟩ := List.mem_filter.1 hτ
    obtain ⟨x, hx, rfl⟩ := h₀.owned hτ
    refine ⟨x, (h₀.mem_remove hs).2 ⟨hx, fun hxs ↦ ?_⟩, rfl⟩
    rw [hxs] at hi
    simp [Session.timer] at hi
  once := h₀.once.sublist (List.filter_sublist.map _)
  armed := fun {x} hx hd ↦ by
    obtain ⟨hx, hne⟩ := (h₀.mem_remove hs).1 hx
    have hi : x.index ≠ s.index := fun hi ↦ hne (h₀.eq_of_index (h₀.given hx) hs hi)
    exact List.mem_filter.2 ⟨h₀.armed hx hd, decide_eq_true hi⟩

theorem add (h₀ : Orderly h) {t : Ticket P} {id : SessionId} {l : List Timer}
    (ht : h.desk.tickets[n]? = some t)
    (hi : (Envelope.request t.request : Envelope P).sessionId = .ok id)
    (hτ : l = [(h.desk.nextSession n id).timer] ∨ l = [] ∧ t.isDone = true) :
    Orderly {
      desk := { h.desk.record (h.desk.nextSession n id) with timers := h.desk.timers ++ l }
      sessions := h.sessions ++ [h.desk.nextSession n id] } := by
  have hmem {x : Session} :
      x ∈ (h.desk.registry.file (h.desk.nextSession n id)).entries ↔
        x = h.desk.nextSession n id ∨ x ∈ h.desk.registry.entries := Registry.mem_entries_file
  have hlt {x : Session} (hx : x ∈ h.desk.registry.entries) : x.index < h.desk.counter + 1 := by
    have hle := h₀.index_le (h₀.given hx)
    rw [← h₀.counted] at hle
    omega
  exact {
    filed := h₀.filed.file fun x hx ↦ hlt hx
    counted := by
      rw [List.length_append, List.length_singleton, ← h₀.counted]
      rfl
    numbered := fun {k x} hk ↦ by
      rw [List.getElem?_append] at hk
      split at hk
      · exact h₀.numbered hk
      · next hn =>
        obtain ⟨hlt, rfl⟩ := List.getElem?_eq_some_iff.1 hk
        rw [List.length_singleton] at hlt
        rw [List.getElem_singleton]
        change h.desk.counter + 1 = k + 1
        rw [h₀.counted]
        omega
    given := fun hx ↦ by
      rcases hmem.1 hx with rfl | hx
      · exact List.mem_append_right _ (.head _)
      · exact List.mem_append_left _ (h₀.given hx)
    named := fun hx ↦ by
      rcases List.mem_append.1 hx with hx | hx
      · exact h₀.named hx
      · rw [List.mem_singleton.1 hx]
        exact ⟨t, ht, hi⟩
    owned := fun {τ} hτ' ↦ by
      rcases List.mem_append.1 hτ' with hτ' | hτ'
      · obtain ⟨x, hx, rfl⟩ := h₀.owned hτ'
        exact ⟨x, hmem.2 (.inr hx), rfl⟩
      · rcases hτ with rfl | ⟨rfl, -⟩
        · exact ⟨_, hmem.2 (.inl rfl), List.mem_singleton.1 hτ'⟩
        · cases hτ'
    once := by
      rcases hτ with rfl | ⟨rfl, -⟩
      · rw [List.map_append]
        refine List.nodup_append.2 ⟨h₀.once, by simp, fun i hi j hj ↦ ?_⟩
        obtain ⟨τ, hτ', rfl⟩ := List.mem_map.1 hi
        obtain ⟨x, hx, rfl⟩ := h₀.owned hτ'
        rw [List.mem_singleton.1 hj]
        exact (hlt hx).ne
      · rw [List.append_nil]
        exact h₀.once
    armed := fun {x} hx hd ↦ by
      rcases hmem.1 hx with rfl | hx
      · rcases hτ with rfl | ⟨-, hdone⟩
        · exact List.mem_append_right _ (.head _)
        · have hd' : h.desk.isDone n = false := hd
          simp [Desk.isDone, ht, hdone] at hd'
      · exact List.mem_append_left _ (h₀.armed hx hd) }

theorem close (h₀ : Orderly h) : Orderly (h.mapDesk fun d ↦ { d with
    closed := true
    registry := {}
    timers := d.timers.filter fun τ ↦ d.registry.entries.all (τ.index ≠ ·.index) }) := by
  have hnone : h.desk.timers.filter
      (fun τ ↦ h.desk.registry.entries.all (τ.index ≠ ·.index)) = [] := by
    refine List.filter_eq_nil_iff.2 fun τ hτ hall ↦ ?_
    obtain ⟨s, hs, rfl⟩ := h₀.owned hτ
    have hne := List.all_eq_true.1 hall s hs
    simp [Session.timer] at hne
  exact {
    h₀ with
    filed := .empty
    given := fun hs ↦ by cases hs
    owned := fun hτ ↦ by
      change _ ∈ h.desk.timers.filter _ at hτ
      rw [hnone] at hτ
      cases hτ
    once := by
      change ((h.desk.timers.filter _).map _).Nodup
      rw [hnone]
      exact .nil
    armed := fun hs ↦ by cases hs }

theorem step (h₀ : Orderly h) (hs : Step h h') : Orderly h' := by
  cases hs with
  | idle => exact h₀
  | clock time => exact { h₀ with }
  | doze τ hτ => exact { h₀ with }
  | issue r =>
    exact {
      h₀ with
      named := fun hs ↦ by
        obtain ⟨t, ht, hid⟩ := h₀.named hs
        have hlt := (List.getElem?_eq_some_iff.1 ht).1
        exact ⟨t, (List.getElem?_append_left hlt).trans ht, hid⟩
      armed := fun {s} hs hd ↦ by
        obtain ⟨t, ht, -⟩ := h₀.named (h₀.given hs)
        have hlt := (List.getElem?_eq_some_iff.1 ht).1
        have ht' : (h.desk.issue r).tickets[s.ticket]? = some t :=
          (List.getElem?_append_left hlt).trans ht
        refine h₀.armed hs ?_
        change (h.desk.issue r).isDone s.ticket = false at hd
        unfold Desk.isDone at hd ⊢
        rwa [ht, ← ht'] }
  | move n f hf => exact h₀.modify n hf
  | enroll n t id hc ht hd hi => exact (h₀.add ht hi (.inl rfl)).modify n (moves_advance _)
  | record n t id hc ht hd hi =>
    have hadd := h₀.add ht hi (l := []) (.inr ⟨rfl, hd⟩)
    rw [List.append_nil] at hadd
    exact hadd.modify n (moves_advance _)
  | withdraw s f hs hf => exact (h₀.modify s.ticket hf).strike hs
  | expire τ s hτ hd hs =>
    have hs' := h₀.given (h₀.filed.find?_eq_some hs).1
    exact (h₀.modify s.ticket (moves_complete _)).strike hs'
  | close => exact h₀.close

theorem act (h₀ : Orderly h) (a : Act P) : Orderly (h.act a) := by
  have hb : Orderly h.bare := { h₀ with }
  exact { hb.step (act_step h₀.filed (fun _ hs ↦ h₀.given hs) a) with }

theorem run (h₀ : Orderly h) (as : List (Act P)) : Orderly (h.run as) := by
  induction as generalizing h with
  | nil => exact h₀
  | cons a as ih => exact ih (h₀.act a)

theorem find?_self (h₀ : Orderly h) (hs : s ∈ h.desk.registry.entries) :
    h.desk.registry.find? s.id s.index = some s := by
  cases hf : h.desk.registry.find? s.id s.index with
  | none => exact absurd ⟨rfl, rfl⟩ (h₀.filed.find?_eq_none.1 hf s hs)
  | some x =>
    obtain ⟨hx, -, hi⟩ := h₀.filed.find?_eq_some hf
    rw [h₀.eq_of_index (h₀.given hx) (h₀.given hs) hi]

theorem oldest?_of_least (h₀ : Orderly h) (hs : s ∈ h.desk.registry.entries)
    (hleast : ∀ x ∈ h.desk.registry.entries, x.id = s.id → s.index ≤ x.index) :
    h.desk.registry.oldest? s.id = some s := by
  cases ho : h.desk.registry.oldest? s.id with
  | none => exact absurd rfl (h₀.filed.oldest?_eq_none.1 ho s hs)
  | some x =>
    obtain ⟨hx, hid, hle⟩ := h₀.filed.oldest?_eq_some ho
    have hi : x.index = s.index := Nat.le_antisymm (hle s hs rfl) (hleast x hx hid)
    rw [h₀.eq_of_index (h₀.given hx) (h₀.given hs) hi]

theorem filter_timers (h₀ : Orderly h) (hs : s ∈ h.desk.registry.entries)
    (hτ : s.timer ∈ h.desk.timers) :
    h.desk.timers.filter (·.index = s.index) = [s.timer] := by
  have hnd : h.desk.timers.Nodup := h₀.once.of_map
  have he : h.desk.timers.filter (·.index = s.index) =
      h.desk.timers.filter (· = s.timer) := by
    refine List.filter_congr fun τ hτ' ↦ decide_eq_decide.2 ⟨fun hi ↦ ?_, fun he ↦ he ▸ rfl⟩
    obtain ⟨x, hx, rfl⟩ := h₀.owned hτ'
    rw [h₀.eq_of_index (h₀.given hx) (h₀.given hs) hi]
  rw [he, List.filter_eq, hnd.count, if_pos hτ]
  rfl

end Orderly

/-- What can be said of the registry and of the timers at any time. -/
structure InOrder (h : Shift P) : Prop where
  /-- Under the id of its own request. -/
  filed : ∀ b ∈ h.desk.registry.buckets, ∀ s ∈ b.sessions, b.id = s.id ∧
    ∃ t, h.desk.tickets[s.ticket]? = some t ∧
      (Envelope.request t.request : Envelope P).sessionId = .ok s.id
  /-- Under its own index. -/
  found : ∀ s, s ∈ h.desk.registry.entries ↔ h.desk.registry.find? s.id s.index = some s
  filled : ∀ b ∈ h.desk.registry.buckets, b.sessions ≠ []
  distinct : (h.desk.registry.entries.map Session.index).Nodup
  counted : ∀ s ∈ h.desk.registry.entries, s.index ≤ h.sessions.length
  sorted : h.desk.registry.entries.Pairwise fun a b ↦
    a.id.text < b.id.text ∨ a.id = b.id ∧ a.index < b.index
  size : h.desk.registry.size = h.desk.registry.entries.length
  oldest : ∀ id s, h.desk.registry.oldest? id = some s ↔ s ∈ h.desk.registry.entries ∧ s.id = id ∧
    ∀ x ∈ h.desk.registry.entries, x.id = id → s.index ≤ x.index
  armed : ∀ s ∈ h.desk.registry.entries, h.desk.isDone s.ticket = false →
    h.desk.timers.filter (·.index = s.index) = [s.timer]
  disarmed : ∀ s ∈ h.sessions, s ∉ h.desk.registry.entries → h.desk.hasTimer s = false

/-- The registry is in order after every run, whichever tickets are registered twice or after they
were settled. -/
theorem registry_in_order (readTimeout : Time) (as : List (Act P)) :
    InOrder ((start readTimeout : Shift P).run as) := by
  have h₀ : Orderly ((start readTimeout : Shift P).run as) := (Orderly.start readTimeout).run as
  exact {
    filed := fun b hb s hs ↦ by
      have hmem := Registry.mem_entries.2 ⟨b, hb, hs⟩
      exact ⟨(h₀.filed.own b hb s hs).symm, h₀.named (h₀.given hmem)⟩
    found := fun s ↦ ⟨h₀.find?_self, fun hf ↦ (h₀.filed.find?_eq_some hf).1⟩
    filled := h₀.filed.filled
    distinct := by
      refine h₀.filed.nodup_entries.map_on fun x hx y hy hi ↦ ?_
      exact h₀.eq_of_index (h₀.given hx) (h₀.given hy) hi
    counted := fun s hs ↦ h₀.index_le (h₀.given hs)
    sorted := h₀.filed.entries_sorted
    size := rfl
    oldest := fun id s ↦ by
      refine ⟨h₀.filed.oldest?_eq_some, ?_⟩
      rintro ⟨hs, rfl, hleast⟩
      exact h₀.oldest?_of_least hs hleast
    armed := fun s hs hd ↦ h₀.filter_timers hs (h₀.armed hs hd)
    disarmed := fun s hs hno ↦ by
      refine List.any_eq_false.2 fun τ hτ hi ↦ ?_
      obtain ⟨x, hx, rfl⟩ := h₀.owned hτ
      rw [h₀.eq_of_index (h₀.given hx) hs (of_decide_eq_true hi)] at hx
      exact hno hx }

/-- One ticket is registered twice, and a third time when it is settled: only the first two sessions
have timers. -/
example :
    let q : Plain.Message := ⟨.info, some (.v6 ⟨0, 0, 0, 0, 0, 0, 0, 1⟩ 1 0 0), ""⟩
    let h := (start 5000 : Shift Plain.protocol).run [.issue q, .create 0 true, .create 0 true,
      .complete 0 (.error .closed), .create 0 true]
    h.desk.registry.entries.map Session.index = [1, 2, 3] ∧
      h.desk.timers.map Timer.index = [1, 2] := by
  decide +kernel

end Shift

end GameServers
