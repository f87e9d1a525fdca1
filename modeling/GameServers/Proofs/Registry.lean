import GameServers.Registry
import Mathlib.Data.List.Nodup
import Mathlib.Data.String.Basic

namespace GameServers.Registry

/-- Buckets stand in the strict order of their ids. Each holds at least one session, only sessions
of its own id, and these in the order of their indices. -/
structure WellFiled (r : Registry) : Prop where
  ordered : r.buckets.Pairwise fun b c ↦ b.id.text < c.id.text
  own : ∀ b ∈ r.buckets, ∀ s ∈ b.sessions, s.id = b.id
  filled : ∀ b ∈ r.buckets, b.sessions ≠ []
  sorted : ∀ b ∈ r.buckets, b.sessions.Pairwise fun s s' ↦ s.index < s'.index

theorem WellFiled.empty : WellFiled {} :=
  ⟨.nil, by simp, by simp, by simp⟩

variable {r : Registry} {s x : Session} {id : SessionId}

theorem mem_entries : x ∈ r.entries ↔ ∃ b ∈ r.buckets, x ∈ b.sessions := List.mem_flatMap

theorem WellFiled.nodup_entries (h : r.WellFiled) : r.entries.Nodup := by
  refine List.nodup_flatMap.2 ⟨fun b hb ↦ ?_, ?_⟩
  · refine (h.sorted b hb).imp fun hlt he ↦ ?_
    rw [he] at hlt
    exact lt_irrefl _ hlt
  · refine List.Pairwise.imp_of_mem (fun {b c} hb hc hlt s hs hs' ↦ ?_) h.ordered
    rw [← h.own b hb s hs, h.own c hc s hs'] at hlt
    exact lt_irrefl _ hlt

theorem filter_eq_singleton {xs : List Session} (h : xs.Nodup) (hs : s ∈ xs) {p : Session → Prop}
    [DecidablePred p] (hp : ∀ x ∈ xs, p x ↔ x = s) : xs.filter p = [s] := by
  have he : xs.filter p = xs.filter (· = s) :=
    List.filter_congr fun x hx ↦ decide_eq_decide.2 (hp x hx)
  rw [he, List.filter_eq, h.count, if_pos hs]
  rfl

theorem bucket_cons_self {b : Bucket} {bs : List Bucket} : bucket ⟨b :: bs⟩ b.id = b.sessions := by
  simp [bucket]

theorem bucket_cons_of_ne {b : Bucket} {bs : List Bucket} (h : b.id ≠ id) :
    bucket ⟨b :: bs⟩ id = bucket ⟨bs⟩ id := by
  simp [bucket, h]

theorem WellFiled.tail {b : Bucket} {bs : List Bucket} (h : WellFiled ⟨b :: bs⟩) :
    WellFiled ⟨bs⟩ :=
  ⟨h.ordered.of_cons, fun c hc ↦ h.own c (.tail _ hc), fun c hc ↦ h.filled c (.tail _ hc),
    fun c hc ↦ h.sorted c (.tail _ hc)⟩

theorem WellFiled.head_ne {b c : Bucket} {bs : List Bucket} (h : WellFiled ⟨b :: bs⟩)
    (hc : c ∈ bs) : c.id ≠ b.id := by
  intro he
  have hlt := List.rel_of_pairwise_cons h.ordered hc
  rw [he] at hlt
  exact lt_irrefl _ hlt

/-- A bucket holds the sessions of its id, in the order of all entries. -/
theorem WellFiled.bucket_eq_filter (h : r.WellFiled) (id : SessionId) :
    r.bucket id = r.entries.filter (·.id = id) := by
  obtain ⟨bs⟩ := r
  induction bs with
  | nil => rfl
  | cons b bs ih =>
    have hb := h.own b (.head _)
    have he : entries ⟨b :: bs⟩ = b.sessions ++ entries ⟨bs⟩ := rfl
    rw [he, List.filter_append, ← ih h.tail]
    by_cases hid : b.id = id
    · subst hid
      have hs : b.sessions.filter (·.id = b.id) = b.sessions := by
        simpa [List.filter_eq_self] using hb
      have ht : bucket ⟨bs⟩ b.id = [] := by
        rw [ih h.tail, List.filter_eq_nil_iff]
        intro x hx
        obtain ⟨c, hc, hxc⟩ := mem_entries.1 hx
        simpa [h.tail.own c hc x hxc] using h.head_ne hc
      rw [bucket_cons_self, hs, ht, List.append_nil]
    · have hs : b.sessions.filter (·.id = id) = [] := by
        rw [List.filter_eq_nil_iff]
        intro x hx
        simpa [hb x hx] using hid
      rw [bucket_cons_of_ne hid, hs, List.nil_append]

theorem WellFiled.mem_bucket (h : r.WellFiled) : x ∈ r.bucket id ↔ x ∈ r.entries ∧ x.id = id := by
  rw [h.bucket_eq_filter, List.mem_filter, decide_eq_true_iff]

theorem WellFiled.bucket_sorted (h : r.WellFiled) (id : SessionId) :
    (r.bucket id).Pairwise fun s s' ↦ s.index < s'.index := by
  unfold bucket
  split
  · next b hb => exact h.sorted b (List.mem_of_find?_eq_some hb)
  · exact .nil

theorem WellFiled.oldest?_eq_some (h : r.WellFiled) (hs : r.oldest? id = some s) :
    s ∈ r.entries ∧ s.id = id ∧ ∀ x ∈ r.entries, x.id = id → s.index ≤ x.index := by
  obtain ⟨rest, hb⟩ := List.head?_eq_some_iff.1 hs
  have hmem : s ∈ r.bucket id := by rw [hb]; exact .head _
  obtain ⟨he, hid⟩ := h.mem_bucket.1 hmem
  refine ⟨he, hid, fun x hx hxid ↦ ?_⟩
  have hxb := h.mem_bucket.2 ⟨hx, hxid⟩
  have hsort := h.bucket_sorted id
  rw [hb] at hxb hsort
  rcases List.mem_cons.1 hxb with rfl | hx'
  · exact le_rfl
  · exact (List.rel_of_pairwise_cons hsort hx').le

theorem WellFiled.oldest?_eq_none (h : r.WellFiled) :
    r.oldest? id = none ↔ ∀ x ∈ r.entries, x.id ≠ id := by
  unfold oldest?
  rw [List.head?_eq_none_iff, h.bucket_eq_filter, List.filter_eq_nil_iff]
  simp

theorem WellFiled.find?_eq_some (h : r.WellFiled) {i : Nat} (hs : r.find? id i = some s) :
    s ∈ r.entries ∧ s.id = id ∧ s.index = i := by
  have hb := h.mem_bucket.1 (List.mem_of_find?_eq_some hs)
  exact ⟨hb.1, hb.2, by simpa using List.find?_some hs⟩

theorem WellFiled.find?_eq_none (h : r.WellFiled) {i : Nat} :
    r.find? id i = none ↔ ∀ x ∈ r.entries, ¬ (x.id = id ∧ x.index = i) := by
  unfold find?
  rw [List.find?_eq_none]
  constructor
  · intro hn x hx hxi
    exact hn x (h.mem_bucket.2 ⟨hx, hxi.1⟩) (by simpa using hxi.2)
  · intro hn x hx hxi
    obtain ⟨hxe, hid⟩ := h.mem_bucket.1 hx
    exact hn x hxe ⟨hid, by simpa using hxi⟩

theorem perm_fileIn (s : Session) (bs : List Bucket) :
    ((fileIn s bs).flatMap Bucket.sessions).Perm (s :: bs.flatMap Bucket.sessions) := by
  induction bs with
  | nil => simp [fileIn]
  | cons b bs ih =>
    rw [fileIn]
    split
    · simp only [List.flatMap_cons, List.append_assoc]
      exact List.perm_middle
    · split
      · simp
      · simp only [List.flatMap_cons]
        exact (ih.append_left _).trans List.perm_middle

theorem perm_entries_file (r : Registry) (s : Session) :
    (r.file s).entries.Perm (s :: r.entries) := perm_fileIn s r.buckets

theorem mem_entries_file : x ∈ (r.file s).entries ↔ x = s ∨ x ∈ r.entries := by
  rw [(perm_entries_file r s).mem_iff, List.mem_cons]

theorem mem_fileIn {b : Bucket} {bs : List Bucket} (h : b ∈ fileIn s bs) :
    b = ⟨s.id, [s]⟩ ∨ b ∈ bs ∨ ∃ c ∈ bs, c.id = s.id ∧ b = { c with sessions := c.sessions ++ [s] } := by
  induction bs with
  | nil => exact .inl (List.mem_singleton.1 h)
  | cons c bs ih =>
    rw [fileIn] at h
    split at h
    · next hc =>
      rcases List.mem_cons.1 h with rfl | h
      · exact .inr (.inr ⟨c, .head _, hc, rfl⟩)
      · exact .inr (.inl (.tail _ h))
    · split at h
      · rcases List.mem_cons.1 h with rfl | h
        · exact .inl rfl
        · exact .inr (.inl h)
      · rcases List.mem_cons.1 h with rfl | h
        · exact .inr (.inl (.head _))
        · rcases ih h with h | h | ⟨d, hd, hid, he⟩
          · exact .inl h
          · exact .inr (.inl (.tail _ h))
          · exact .inr (.inr ⟨d, .tail _ hd, hid, he⟩)

theorem text_lt_of_not_le {a b : SessionId} (h : ¬ a.le b) : b.text < a.text := by
  simpa [SessionId.le] using h

theorem text_lt_of_le {a b : SessionId} (h : a.le b) (hn : b ≠ a) : a.text < b.text := by
  refine lt_of_le_of_ne (by simpa [SessionId.le] using h) fun he ↦ hn ?_
  obtain ⟨a⟩ := a
  obtain ⟨b⟩ := b
  exact congrArg _ he.symm

theorem ordered_fileIn (s : Session) {bs : List Bucket}
    (h : bs.Pairwise fun b c ↦ b.id.text < c.id.text) :
    (fileIn s bs).Pairwise fun b c ↦ b.id.text < c.id.text := by
  induction bs with
  | nil => simp [fileIn]
  | cons b bs ih =>
    obtain ⟨hb, hbs⟩ := List.pairwise_cons.1 h
    rw [fileIn]
    split
    · exact List.pairwise_cons.2 ⟨hb, hbs⟩
    · next hne =>
      split
      · next hle =>
        have hlt := text_lt_of_le hle hne
        refine List.pairwise_cons.2 ⟨fun c hc ↦ ?_, h⟩
        rcases List.mem_cons.1 hc with rfl | hc
        · exact hlt
        · exact hlt.trans (hb c hc)
      · next hle =>
        refine List.pairwise_cons.2 ⟨fun c hc ↦ ?_, ih hbs⟩
        rcases mem_fileIn hc with rfl | hc | ⟨d, hd, -, rfl⟩
        · exact text_lt_of_not_le hle
        · exact hb c hc
        · exact hb d hd

theorem WellFiled.file (h : r.WellFiled) (hs : ∀ x ∈ r.entries, x.index < s.index) :
    (r.file s).WellFiled := by
  refine ⟨ordered_fileIn s h.ordered, fun b hb x hx ↦ ?_, fun b hb ↦ ?_, fun b hb ↦ ?_⟩ <;>
    rcases mem_fileIn hb with rfl | hb | ⟨c, hc, hid, rfl⟩
  · rw [List.mem_singleton.1 hx]
  · exact h.own b hb x hx
  · rcases List.mem_append.1 hx with hx | hx
    · exact h.own c hc x hx
    · rw [List.mem_singleton.1 hx, hid]
  · simp
  · exact h.filled b hb
  · simp
  · simp
  · exact h.sorted b hb
  · refine List.pairwise_append.2 ⟨h.sorted c hc, by simp, fun x hx y hy ↦ ?_⟩
    rw [List.mem_singleton.1 hy]
    exact hs x (mem_entries.2 ⟨c, hc, hx⟩)

def samePlace (s x : Session) : Bool := x.id = s.id && x.index = s.index

theorem without_eq_none {b : Bucket} {i : Nat} :
    Bucket.without b i = none ↔ b.sessions.filter (·.index ≠ i) = [] := by
  unfold Bucket.without
  cases b.sessions.filter (·.index ≠ i) <;> simp

theorem without_eq_some {b b' : Bucket} {i : Nat} (h : Bucket.without b i = some b') :
    b' = { b with sessions := b.sessions.filter (·.index ≠ i) } ∧ b'.sessions ≠ [] := by
  unfold Bucket.without at h
  cases hf : b.sessions.filter (·.index ≠ i) with
  | nil => rw [hf] at h; cases h
  | cons y ys =>
    rw [hf] at h
    cases h
    exact ⟨rfl, by simp⟩

theorem mem_remove {b : Bucket} (h : b ∈ (r.remove s).buckets) :
    ∃ c ∈ r.buckets, b.id = c.id ∧ b.sessions.Sublist c.sessions ∧
      (b.sessions ≠ [] ∨ b = c) := by
  obtain ⟨c, hc, hb⟩ := List.mem_filterMap.1 h
  refine ⟨c, hc, ?_⟩
  split at hb
  · obtain ⟨rfl, hne⟩ := without_eq_some hb
    exact ⟨rfl, List.filter_sublist, .inl hne⟩
  · cases hb
    exact ⟨rfl, .refl _, .inr rfl⟩

theorem WellFiled.remove (h : r.WellFiled) (s : Session) : (r.remove s).WellFiled := by
  refine ⟨?_, fun b hb x hx ↦ ?_, fun b hb ↦ ?_, fun b hb ↦ ?_⟩
  · refine List.Pairwise.filterMap _ (fun b c hbc b' hb' c' hc' ↦ ?_) h.ordered
    have hid {d d' : Bucket}
        (hd : (if d.id = s.id then Bucket.without d s.index else some d) = some d') :
        d'.id = d.id := by
      split at hd
      · rw [(without_eq_some hd).1]
      · cases hd
        rfl
    rw [hid hb', hid hc']
    exact hbc
  · obtain ⟨c, hc, hid, hsub, -⟩ := mem_remove hb
    rw [hid]
    exact h.own c hc x (hsub.subset hx)
  · obtain ⟨c, hc, -, -, hne | rfl⟩ := mem_remove hb
    · exact hne
    · exact h.filled b hc
  · obtain ⟨c, hc, -, hsub, -⟩ := mem_remove hb
    exact (h.sorted c hc).sublist hsub

theorem sessions_without (b : Bucket) (i : Nat) :
    (Bucket.without b i).toList.flatMap Bucket.sessions = b.sessions.filter (·.index ≠ i) := by
  cases hw : Bucket.without b i with
  | none => exact (without_eq_none.1 hw).symm
  | some b' => simp [(without_eq_some hw).1]

theorem WellFiled.entries_remove (h : r.WellFiled) (s : Session) :
    (r.remove s).entries = r.entries.filter (!samePlace s ·) := by
  obtain ⟨bs⟩ := r
  induction bs with
  | nil => rfl
  | cons b bs ih =>
    have hb := h.own b (.head _)
    have he : entries ⟨b :: bs⟩ = b.sessions ++ entries ⟨bs⟩ := rfl
    have hr : (Registry.remove ⟨b :: bs⟩ s).entries =
        (if b.id = s.id then Bucket.without b s.index else some b).toList.flatMap Bucket.sessions ++
          (Registry.remove ⟨bs⟩ s).entries := by
      unfold Registry.remove entries
      rw [List.filterMap_cons]
      split <;> next hf => simp [hf]
    rw [hr, he, List.filter_append, ih h.tail]
    congr 1
    split
    · next hid =>
      rw [sessions_without]
      refine List.filter_congr fun x hx ↦ ?_
      simp [samePlace, hb x hx, hid]
    · next hid =>
      simp only [Option.toList_some, List.flatMap_cons, List.flatMap_nil, List.append_nil]
      rw [eq_comm, List.filter_eq_self]
      intro x hx
      simp [samePlace, hb x hx, hid]

theorem WellFiled.mem_entries_remove (h : r.WellFiled) :
    x ∈ (r.remove s).entries ↔ x ∈ r.entries ∧ ¬ (x.id = s.id ∧ x.index = s.index) := by
  rw [h.entries_remove, List.mem_filter]
  simp only [samePlace, Bool.not_eq_true', Bool.and_eq_false_iff, decide_eq_false_iff_not,
    not_and_or]

theorem WellFiled.remove_of_not_mem (h : r.WellFiled)
    (hs : ∀ x ∈ r.entries, ¬ (x.id = s.id ∧ x.index = s.index)) : r.remove s = r := by
  obtain ⟨bs⟩ := r
  refine congrArg Registry.mk ?_
  have hkeep : ∀ b ∈ bs, (if b.id = s.id then Bucket.without b s.index else some b) = some b := by
    intro b hb
    split
    · next hid =>
      have hf : b.sessions.filter (·.index ≠ s.index) = b.sessions := by
        rw [List.filter_eq_self]
        intro x hx
        have hx' := hs x (mem_entries.2 ⟨b, hb, hx⟩)
        have hxid := (h.own b hb x hx).trans hid
        simpa [hxid] using hx'
      unfold Bucket.without
      rw [hf]
      split
      · next hn => exact absurd hn (h.filled b hb)
      · rfl
    · rfl
  rw [List.filterMap_congr hkeep]
  simp

end GameServers.Registry
