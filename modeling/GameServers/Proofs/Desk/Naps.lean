import GameServers.Proofs.Desk

namespace GameServers

namespace Agenda

variable {t u start length : Nat}

theorem wholeMillis_eq : wholeMillis t = (999999 + t) / 1000000 * 1000000 := by
  rw [wholeMillis]
  rfl

theorem dvd_wholeMillis : 1000000 ∣ wholeMillis t := by
  rw [wholeMillis_eq]
  exact Nat.dvd_mul_left _ _

theorem le_wholeMillis : t ≤ wholeMillis t := by
  rw [wholeMillis_eq]
  omega

theorem wholeMillis_le (hu : 1000000 ∣ u) (h : t ≤ u) : wholeMillis t ≤ u := by
  simp only [wholeMillis_eq]
  omega

theorem wholeMillis_add (h : 1000000 ∣ t) : wholeMillis (t + u) = t + wholeMillis u := by
  simp only [wholeMillis_eq]
  omega

theorem dueAfter_eq : dueAfter start length = wholeMillis (start + min length longestSleep) := by
  rw [dueAfter, Nat.add_comm]

theorem le_dueAfter : start ≤ dueAfter start length := (Nat.le_add_left _ _).trans le_wholeMillis

theorem dvd_dueAfter : 1000000 ∣ dueAfter start length := dvd_wholeMillis

theorem dueAfter_of_dvd (h : 1000000 ∣ start) :
    dueAfter start length = start + wholeMillis (min length longestSleep) :=
  dueAfter_eq.trans (wholeMillis_add h)

end Agenda

namespace Desk

variable {P : Protocol} {d d' : Desk P} {l : List Session} {s : Session} {n i : Nat} {id : SessionId}

/-- Sessions were registered in the past, and their timers went to sleep between then and now. -/
structure Rested (d : Desk P) (l : List Session) : Prop where
  begun : ∀ s ∈ l, s.registeredAt ≤ d.now
  napped : ∀ i time, d.naps i = some time → time ≤ d.now ∧ i ≤ d.counter
  after : ∀ s ∈ l, ∀ time, d.naps s.index = some time → s.registeredAt ≤ time

namespace Rested

theorem start (readTimeout : Time) : Rested ({ readTimeout } : Desk P) [] where
  begun := by simp
  napped := by simp
  after := by simp

theorem congr (h : d.Rested l) (hn : d'.now = d.now) (hc : d'.counter = d.counter)
    (hd : d'.naps = d.naps) : d'.Rested l where
  begun := hn ▸ h.begun
  napped := hn ▸ hc ▸ hd ▸ h.napped
  after := hd ▸ h.after

theorem clock (h : d.Rested l) {time : Time} (ht : d.now ≤ time) :
    Rested { d with now := time } l where
  begun s hs := (h.begun s hs).trans ht
  napped i t hi := ⟨(h.napped i t hi).1.trans ht, (h.napped i t hi).2⟩
  after := h.after

theorem bounds (h : d.Rested l) (hs : s ∈ l) :
    s.registeredAt ≤ d.asleepSince s.index ∧ d.asleepSince s.index ≤ d.now := by
  cases hn : d.naps s.index with
  | none =>
    rw [asleepSince_of_none hn]
    exact ⟨h.begun s hs, le_rfl⟩
  | some time =>
    rw [asleepSince_of_nap hn]
    exact ⟨h.after s hs time hn, (h.napped _ time hn).1⟩

theorem doze (h : d.Rested l) (hi : i ≤ d.counter) : (d.doze i).Rested l where
  begun := h.begun
  napped k time hk := by
    by_cases hki : k = i
    · subst hki
      rw [naps_doze_self] at hk
      obtain rfl := Option.some.inj hk
      refine ⟨?_, hi⟩
      cases hn : d.naps k with
      | none => exact (asleepSince_of_none hn).le
      | some time => exact (asleepSince_of_nap hn).trans_le (h.napped k time hn).1
    · rw [naps_doze_of_ne hki] at hk
      exact h.napped k time hk
  after s hs time hk := by
    by_cases hki : s.index = i
    · rw [← hki, naps_doze_self] at hk
      exact Option.some.inj hk ▸ (h.bounds hs).1
    · rw [naps_doze_of_ne hki] at hk
      exact h.after s hs time hk

theorem naps_next (h : d.Rested l) : d.naps (d.counter + 1) = none := by
  cases hn : d.naps (d.counter + 1) with
  | none => rfl
  | some time => exact absurd (h.napped _ time hn).2 (Nat.not_succ_le_self _)

theorem add (h : d.Rested l) (hn : d'.now = d.now) (hc : d'.counter = d.counter + 1)
    (hd : d'.naps = d.naps) : d'.Rested (l ++ [d.nextSession n id]) where
  begun s hs := by
    rw [hn]
    rcases List.mem_append.1 hs with hs | hs
    · exact h.begun s hs
    · rw [List.mem_singleton.1 hs]
      exact le_rfl
  napped i time hi := by
    rw [hd] at hi
    rw [hn, hc]
    exact ⟨(h.napped i time hi).1, Nat.le_succ_of_le (h.napped i time hi).2⟩
  after s hs time hi := by
    rw [hd] at hi
    rcases List.mem_append.1 hs with hs | hs
    · exact h.after s hs time hi
    · rw [List.mem_singleton.1 hs] at hi
      change d.naps (d.counter + 1) = some time at hi
      rw [h.naps_next] at hi
      cases hi

end Rested

end Desk

end GameServers
