import GameServers.Proofs.Courier.Placement
import Mathlib.Data.List.Induction

namespace GameServers.Courier

/-- A number that shows up for the first time is greater than all before it. -/
def FirstsAscend (ns : List Nat) : Prop :=
  ∀ as n bs, ns = as ++ n :: bs → n ∉ as → ∀ k ∈ as, k < n

variable {ns ms : List Nat} {n : Nat}

theorem firstsAscend_concat :
    FirstsAscend (ns ++ [n]) ↔ FirstsAscend ns ∧ (n ∈ ns ∨ ∀ k ∈ ns, k < n) := by
  constructor
  · intro h
    refine ⟨fun as k bs he hk ↦ h as k (bs ++ [n]) (by simp [he]) hk, ?_⟩
    by_cases hn : n ∈ ns
    · exact .inl hn
    · exact .inr (h ns n [] rfl hn)
  · rintro ⟨h, hn⟩ as k bs he hk
    rcases List.eq_nil_or_concat bs with rfl | ⟨bs, b, rfl⟩
    · obtain ⟨rfl, hk'⟩ := List.append_inj' he rfl
      obtain rfl : n = k := List.singleton_inj.1 hk'
      exact hn.resolve_left hk
    · rw [List.concat_eq_append, ← List.cons_append, ← List.append_assoc] at he
      exact h as k bs (List.append_inj' he rfl).1 hk

theorem FirstsAscend.nil : FirstsAscend [] := by
  intro as n bs he
  simp at he

theorem FirstsAscend.left (h : FirstsAscend (ns ++ ms)) : FirstsAscend ns := by
  intro as n bs he hn
  exact h as n (bs ++ ms) (by simp [he]) hn

theorem FirstsAscend.erase (h : FirstsAscend (ns ++ n :: ms)) (hn : n ∉ ms) :
    FirstsAscend (ns ++ ms) := by
  induction ms using List.reverseRecOn with
  | nil => simpa using h.left
  | append_singleton ms k ih =>
    rw [← List.cons_append, ← List.append_assoc] at h
    obtain ⟨h, hk⟩ := firstsAscend_concat.1 h
    have hsub : ∀ j ∈ ns ++ ms, j ∈ ns ++ n :: ms := fun j hj ↦ by
      rcases List.mem_append.1 hj with hj | hj
      · exact List.mem_append_left _ hj
      · exact List.mem_append_right _ (.tail _ hj)
    have hne : k ≠ n := fun he ↦ hn (he ▸ List.mem_append_right _ (.head _))
    rw [← List.append_assoc]
    refine firstsAscend_concat.2 ⟨ih h fun hm ↦ hn (List.mem_append_left _ hm), ?_⟩
    rcases hk with hk | hk
    · left
      simpa [hne] using hk
    · exact .inr fun j hj ↦ hk j (hsub j hj)

theorem FirstsAscend.pairwise (h : FirstsAscend ns) (hn : ns.Nodup) : ns.Pairwise (· < ·) := by
  induction ns using List.reverseRecOn with
  | nil => exact .nil
  | append_singleton ns n ih =>
    obtain ⟨h, hk⟩ := firstsAscend_concat.1 h
    obtain ⟨hns, -, hdis⟩ := List.nodup_append.1 hn
    refine List.pairwise_append.2 ⟨ih h hns, List.pairwise_singleton _ _, fun k hk' j hj ↦ ?_⟩
    rw [List.mem_singleton.1 hj]
    exact hk.resolve_left (fun hm ↦ hdis n hm n (.head _) rfl) k hk'

variable {P : Protocol} {m m' : Courier P} {w : Nat} {x : Write} {ws : WriteState}

def line (m : Courier P) : List Nat := m.writes.map Write.ticket ++ m.queue

theorem map_ticket_setWrite (m : Courier P) (w : Nat) (ws : WriteState) :
    (m.setWrite w ws).writes.map Write.ticket = m.writes.map Write.ticket := by
  refine List.ext_getElem? fun k ↦ ?_
  rw [List.getElem?_map, List.getElem?_map, getElem?_setWrite]
  split
  · cases m.writes[k]? <;> rfl
  · rfl

structure InTurn (m : Courier P) : Prop where
  ascending : FirstsAscend m.line
  /-- Without retries no request is taken up twice. -/
  once : m.config.maxWriteRetries = 0 → m.line.Nodup

theorem InTurn.make (config : Config) : InTurn (make config : Courier P) :=
  ⟨.nil, fun _ ↦ .nil⟩

theorem Sound.lt_of_mem_line (h : Sound m) (hn : n ∈ m.line) : n < m.desk.tickets.length := by
  rcases List.mem_append.1 hn with hn | hn
  · obtain ⟨x, hx, rfl⟩ := List.mem_map.1 hn
    obtain ⟨w, hw⟩ := List.mem_iff_getElem?.1 hx
    obtain ⟨t, ht, -⟩ := h.named hw
    exact (List.getElem?_eq_some_iff.1 ht).1
  · obtain ⟨t, ht, -⟩ := h.queued hn
    exact (List.getElem?_eq_some_iff.1 ht).1

theorem Sound.mem_line (hx : m.writes[w]? = some x) : x.ticket ∈ m.line :=
  List.mem_append_left _ (List.mem_map_of_mem (List.mem_of_getElem? hx))

namespace InTurn

theorem of_line_eq (h : InTurn m) (hc : m'.config = m.config) (hl : m'.line = m.line) :
    InTurn m' := by
  refine ⟨by rw [hl]; exact h.ascending, fun hr ↦ ?_⟩
  rw [hl]
  exact h.once (hc ▸ hr)

theorem clear (h : InTurn m) (hc : m'.config = m.config)
    (hl : m'.line = m.writes.map Write.ticket) : InTurn m' := by
  refine ⟨by rw [hl]; exact h.ascending.left, fun hr ↦ ?_⟩
  rw [hl]
  exact (h.once (hc ▸ hr)).sublist (List.sublist_append_left _ _)

theorem drop_head (h : InTurn m) {rest : List Nat} (hq : m.queue = n :: rest) (hn : n ∉ rest)
    (hc : m'.config = m.config) (hl : m'.line = m.writes.map Write.ticket ++ rest) : InTurn m' := by
  obtain ⟨ha, ho⟩ := h
  rw [line, hq] at ha ho
  refine ⟨by rw [hl]; exact ha.erase hn, fun hr ↦ ?_⟩
  rw [hl]
  exact (ho (hc ▸ hr)).sublist ((List.Sublist.refl _).append (List.sublist_cons_self _ _))

theorem step (hi : InTurn m) (h : Sound m) (hs : Step m m') : InTurn m' := by
  cases hs with
  | enqueue r =>
    have hnew : ∀ k ∈ m.line, k < m.desk.tickets.length := fun k hk ↦ h.lt_of_mem_line hk
    have hl : m.writes.map Write.ticket ++ (m.queue ++ [m.desk.tickets.length]) =
      m.line ++ [m.desk.tickets.length] := (List.append_assoc _ _ _).symm
    refine ⟨?_, fun hr ↦ ?_⟩
    · simp only [line, hl]
      exact firstsAscend_concat.2 ⟨hi.ascending, .inr hnew⟩
    · simp only [line, hl]
      refine List.nodup_append.2 ⟨hi.once hr, by simp, fun k hk j hj ↦ ?_⟩
      rw [List.mem_singleton.1 hj]
      exact (hnew k hk).ne
  | take n rest t id hw hd hq =>
    refine hi.of_line_eq rfl ?_
    simp [line, hq, Write.ticket, Desk.nextSession]
  | refuse n rest e hw hd hq =>
    exact hi.drop_head hq (List.nodup_cons.1 (hq ▸ h.queuedOnce)).1 rfl rfl
  | skip n rest hw hd hq =>
    exact hi.drop_head hq (List.nodup_cons.1 (hq ▸ h.queuedOnce)).1 rfl rfl
  | stop | leave => exact hi.clear rfl (List.append_nil _)
  | abort w x hd hx hl =>
    exact hi.clear rfl ((List.append_nil _).trans (map_ticket_setWrite m w _))
  | beginClose hp =>
    by_cases hu : m.worker = .unstarted
    · simp only [if_pos hu]
      exact hi.clear rfl (List.append_nil _)
    · simp only [if_neg hu]
      exact hi.of_line_eq rfl rfl
  | start w s hw => exact hi.of_line_eq rfl (congrArg (· ++ m.queue) (map_ticket_setWrite m w _))
  | sent w s hw => exact hi.of_line_eq rfl (congrArg (· ++ m.queue) (map_ticket_setWrite m w _))
  | fail w s e f hw hf =>
    exact hi.of_line_eq rfl (congrArg (· ++ m.queue) (map_ticket_setWrite m w _))
  | putBack w s hw hr ho hq =>
    have hl : ((m.setWrite w (.finished false)).writes.map Write.ticket ++ (m.queue ++ [s.ticket])) =
        m.line ++ [s.ticket] := by
      rw [map_ticket_setWrite, line, List.append_assoc]
    have hmem : s.ticket ∈ m.line := Sound.mem_line hw
    refine ⟨?_, fun hz ↦ ?_⟩
    · simp only [line, hl]
      exact firstsAscend_concat.2 ⟨hi.ascending, .inl hmem⟩
    · -- A courier without retries never puts a request back.
      change m.config.maxWriteRetries = 0 at hz
      unfold canRetry at hr
      split at hr
      · simp [hz] at hr
      · cases hr
  | _ => exact hi.of_line_eq rfl rfl

theorem run (config : Config) (as : List (Act P)) : InTurn ((Courier.make config).run as) :=
  (Sound.make config).kept (fun _ ↦ ⟨fun hi ↦ { hi with }, fun hi ↦ { hi with }⟩)
    (fun h hs hi ↦ hi.step h hs) (.make config) as

end InTurn

/-- First take-ups happen in the order of sending, whatever was taken up again in between. -/
theorem firstsAscend_writes (config : Config) (as : List (Act P)) :
    FirstsAscend (((make config : Courier P).run as).writes.map Write.ticket) :=
  (InTurn.run config as).ascending.left

end GameServers.Courier
