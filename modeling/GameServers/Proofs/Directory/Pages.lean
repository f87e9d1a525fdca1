import GameServers.Directory.Listing
import Mathlib.Data.List.Nodup

namespace GameServers.Directory

/-- What a directory of some servers lists after one of them. Any other seed stands for the start. -/
def after (servers : List Endpoint) (seed : Endpoint) : List Endpoint :=
  match servers.findIdx? (· = seed) with
  | some i => servers.drop (i + 1)
  | none => servers

def answer (servers : List Endpoint) (size : Nat) (seed : Endpoint) : List Endpoint :=
  (after servers seed).take size ++ if (after servers seed).length ≤ size then [terminator] else []

/-- The page of a directory after a seed. It may repeat the seed. -/
def IsPage (servers : List Endpoint) (size : Nat) (seed : Endpoint) (page : List Endpoint) : Prop :=
  page = answer servers size seed ∨ page = seed :: answer servers size seed

instance (servers : List Endpoint) (size : Nat) (seed : Endpoint) (page : List Endpoint) :
    Decidable (IsPage servers size seed page) := inferInstanceAs (Decidable (_ ∨ _))

variable {servers page : List Endpoint} {seed e : Endpoint} {k size : Nat}

theorem after_of_getElem? (hn : (terminator :: servers).Nodup)
    (hk : (terminator :: servers)[k]? = some seed) : after servers seed = servers.drop k := by
  unfold after
  cases k with
  | zero =>
    obtain rfl : terminator = seed := Option.some.inj hk
    have hnone : servers.findIdx? (· = terminator) = none := by
      rw [List.findIdx?_eq_none_iff]
      intro x hx
      have hne : x ≠ terminator := fun h ↦ (List.nodup_cons.1 hn).1 (h ▸ hx)
      simpa using hne
    rw [hnone]
    rfl
  | succ k =>
    have hk' : servers[k]? = some seed := hk
    obtain ⟨hlt, rfl⟩ := List.getElem?_eq_some_iff.1 hk'
    have hsome : servers.findIdx? (· = servers[k]) = some k := by
      rw [List.findIdx?_eq_some_iff_getElem]
      refine ⟨hlt, by simp, fun j hj ↦ ?_⟩
      have hne : servers[j] ≠ servers[k] := by
        intro he
        have := (List.nodup_cons.1 hn).2.getElem_inj_iff.1 he
        omega
      simpa using hne
    rw [hsome]

theorem mem_of_mem_after (h : e ∈ after servers seed) : e ∈ servers := by
  unfold after at h
  split at h
  · exact List.mem_of_mem_drop h
  · exact h

theorem IsPage.subset (h : IsPage servers size seed page) (hs : seed ∈ terminator :: servers)
    (he : e ∈ page) : e ∈ terminator :: servers := by
  have hanswer (he : e ∈ answer servers size seed) : e ∈ terminator :: servers := by
    rcases List.mem_append.1 he with he | he
    · exact .tail _ (mem_of_mem_after (List.mem_of_mem_take he))
    · split at he
      · rw [List.mem_singleton.1 he]
        exact .head _
      · cases he
  rcases h with rfl | rfl
  · exact hanswer he
  · rcases List.mem_cons.1 he with rfl | he
    · exact hs
    · exact hanswer he

theorem IsPage.getLast?_eq (h : IsPage servers size seed page)
    (he : (answer servers size seed).getLast? = some e) : page.getLast? = some e := by
  rcases h with rfl | rfl
  · exact he
  · rw [List.getLast?_cons, he]
    rfl

namespace Listing

def Next.found : Next → List Endpoint
  | ask l => l.found
  | done found => found

theorem found_onPage (l : Listing) (servers : List Endpoint) :
    (l.onPage servers).found = l.found ++ l.fresh servers := by
  simp only [onPage]
  split
  · rfl
  · split <;> rfl

theorem found_onTimeout (l : Listing) (retries : Nat) : (l.onTimeout retries).found = l.found := by
  unfold onTimeout
  split <;> rfl

/-- The listing has found the first servers, and asks for those after the last of them. -/
structure At (servers : List Endpoint) (k : Nat) (l : Listing) : Prop where
  found : l.found = servers.take k
  seed : (terminator :: servers)[k]? = some l.seed

theorem At.start (servers : List Endpoint) : At servers 0 {} where
  found := rfl
  seed := rfl

variable {l : Listing}

theorem mem_fresh : e ∈ l.fresh page ↔ e ∈ page ∧ e ≠ l.seed ∧ e ≠ terminator := by
  simp [fresh]

namespace At

theorem after_eq (h : At servers k l) (hn : (terminator :: servers).Nodup) :
    after servers l.seed = servers.drop k := after_of_getElem? hn h.seed

theorem ne_of_mem_drop (h : At servers k l) (hn : (terminator :: servers).Nodup)
    (he : e ∈ servers.drop k) : e ≠ l.seed ∧ e ≠ terminator := by
  have hT : e ≠ terminator := fun h ↦ (List.nodup_cons.1 hn).1 (h ▸ List.mem_of_mem_drop he)
  refine ⟨?_, hT⟩
  obtain ⟨j, hj⟩ := List.mem_iff_getElem?.1 he
  have hj' : (terminator :: servers)[k + j + 1]? = some e := by
    rw [List.getElem?_cons_succ, ← hj, List.getElem?_drop]
  rintro rfl
  obtain ⟨hlt, hk⟩ := List.getElem?_eq_some_iff.1 h.seed
  obtain ⟨hlt', hkj⟩ := List.getElem?_eq_some_iff.1 hj'
  have := hn.getElem_inj_iff.1 (hk.trans hkj.symm)
  omega

theorem fresh_eq (h : At servers k l) (hn : (terminator :: servers).Nodup)
    (hp : IsPage servers size l.seed page) : l.fresh page = (servers.drop k).take size := by
  have hanswer : l.fresh (answer servers size l.seed) = (servers.drop k).take size := by
    have hnext : l.fresh ((servers.drop k).take size) = (servers.drop k).take size := by
      refine List.filter_eq_self.2 fun e he ↦ ?_
      simpa using h.ne_of_mem_drop hn (List.mem_of_mem_take he)
    have hend : l.fresh (if (servers.drop k).length ≤ size then [terminator] else []) = [] := by
      split <;> simp [fresh]
    rw [answer, h.after_eq hn, fresh, List.filter_append]
    exact (congrArg₂ (· ++ ·) hnext hend).trans (List.append_nil _)
  rcases hp with rfl | rfl
  · exact hanswer
  · rw [← hanswer]
    simp [fresh]

theorem onPage_of_le (h : At servers k l) (hn : (terminator :: servers).Nodup)
    (hp : IsPage servers size l.seed page) (hle : servers.length ≤ k + size) :
    l.onPage page = .done servers := by
  have hle' : (servers.drop k).length ≤ size := by
    rw [List.length_drop]
    omega
  have hfound : l.found ++ l.fresh page = servers := by
    rw [h.fresh_eq hn hp, h.found, List.take_of_length_le hle', List.take_append_drop]
  have hlast : page.getLast? = some terminator := by
    refine hp.getLast?_eq ?_
    rw [answer, h.after_eq hn, if_pos hle', List.getLast?_append]
    rfl
  simp only [onPage, hfound, hlast]
  simp

theorem onPage_of_lt (h : At servers k l) (hn : (terminator :: servers).Nodup) (hsize : 0 < size)
    (hp : IsPage servers size l.seed page) (hlt : k + size < servers.length) :
    ∃ l', l.onPage page = .ask l' ∧ At servers (k + size) l' ∧ l'.attempts = 0 := by
  have hlt' : ¬ (servers.drop k).length ≤ size := by
    rw [List.length_drop]
    omega
  obtain ⟨last, hlast⟩ : ∃ last, servers[k + size - 1]? = some last :=
    ⟨_, List.getElem?_eq_getElem (by omega)⟩
  have htake : ((servers.drop k).take size).getLast? = some last := by
    rw [List.getLast?_take, if_neg (by omega), List.getElem?_drop]
    have hidx : k + (size - 1) = k + size - 1 := by omega
    rw [hidx, hlast]
    rfl
  have hpage : page.getLast? = some last := by
    refine hp.getLast?_eq ?_
    rw [answer, h.after_eq hn, if_neg hlt', List.append_nil, htake]
  have hne : last ≠ l.seed ∧ last ≠ terminator :=
    h.ne_of_mem_drop hn (List.mem_of_mem_take (List.mem_of_getLast? htake))
  refine ⟨{ found := l.found ++ l.fresh page, seed := last }, ?_, ⟨?_, ?_⟩, rfl⟩
  · simp only [onPage, hpage]
    rw [if_pos ⟨hne.2, hne.1⟩]
  · rw [h.fresh_eq hn hp, h.found, List.take_add]
  · have hidx : k + size = (k + size - 1) + 1 := by omega
    rw [hidx, List.getElem?_cons_succ]
    exact hlast

end At

end Listing

end GameServers.Directory
