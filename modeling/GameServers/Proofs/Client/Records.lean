import GameServers.Proofs.Client.Requests
import GameServers.Proofs.Transport.Reading

namespace GameServers

theorem Switchboard.mem_responses_runReader {P : Protocol} {b : Switchboard P} {r : Nat}
    (hs : b.signals = []) {response : P.Response} (h : response ∈ (b.runReader r).responses) :
    ∃ x ∈ b.messages r, P.decode x.2 x.1 = .ok response := by
  obtain ⟨frames, ending, he⟩ := b.deliveries_runReader r
  have hn : b.deliveries = [] := by rw [deliveries, hs]; rfl
  rw [responses, he, hn, List.nil_append] at h
  obtain ⟨d, hd, hr⟩ := List.mem_filterMap.1 h
  rcases List.mem_append.1 hd with hd | hd
  · obtain ⟨x, hx, rfl⟩ := List.mem_map.1 hd
    refine ⟨x, hx, ?_⟩
    cases ho : P.decode x.2 x.1 with
    | ok r' =>
      rw [ho] at hr
      exact congrArg Except.ok (Option.some.inj hr)
    | error e =>
      rw [ho] at hr
      cases hr
  · obtain ⟨e, -, rfl⟩ := List.mem_map.1 (Option.toList_map .. ▸ hd)
    cases hr

namespace World

variable {c : Client} {w : World c} {α β : Type} {f : World c → Act c → List α}

def gather (f : World c → Act c → List α) : World c → List (Act c) → List α
  | _, [] => []
  | w, a :: as => f w a ++ gather f (w.act a) as

theorem gather_append (as bs : List (Act c)) :
    gather f w (as ++ bs) = gather f w as ++ gather f (w.perform as) bs := by
  induction as generalizing w with
  | nil => rfl
  | cons a as ih => simp [gather, ih, perform]

theorem mem_gather {x : α} {as : List (Act c)} : x ∈ gather f w as ↔
    ∃ before a after, as = before ++ a :: after ∧ x ∈ f (w.perform before) a := by
  constructor
  · intro h
    induction as generalizing w with
    | nil => cases h
    | cons a as ih =>
      rcases List.mem_append.1 h with h | h
      · exact ⟨[], a, as, rfl, h⟩
      · obtain ⟨before, b, after, rfl, hb⟩ := ih h
        exact ⟨a :: before, b, after, rfl, hb⟩
  · rintro ⟨before, a, after, rfl, h⟩
    rw [gather_append]
    exact List.mem_append_right _ (List.mem_append_left _ h)

theorem eachArrival_gather (w : World c) (as : List (Act c)) :
    EachArrival (fun _ r ↦ r ∈ gather arrivals w as) w as := by
  induction as generalizing w with
  | nil => trivial
  | cons a as ih =>
    exact ⟨fun r hr ↦ List.mem_append_left _ hr,
      (ih (w.act a)).mono fun _ r hr ↦ List.mem_append_right _ hr⟩

theorem Shows.eq_answer {turn : Turn c.P c.Pending c.Result} {i : Nat} {result : c.Result}
    (h : w.Shows i turn) (hr : w.calls[i]? = some (.over result)) : turn = .answer result := by
  cases turn with
  | answer result' =>
    have hs : w.calls[i]? = some (.over result') := h
    cases hr.symm.trans hs
    rfl
  | ask q p =>
    obtain ⟨ticket, hs, -⟩ := h
    cases hr.symm.trans hs

theorem AllHeard.perform (h : AllHeard w) (as : List (Act c)) : AllHeard (w.perform as) := by
  induction as generalizing w with
  | nil => exact h
  | cons a as ih => exact ih (h.act a)

end World

end GameServers
