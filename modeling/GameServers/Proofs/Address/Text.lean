import GameServers.Address
import GameServers.Proofs.Text.Digits

namespace GameServers

open Text

theorem decimal_injective {n m : Nat} (h : decimal n = decimal m) : n = m :=
  toDigits_injective (by decide) (by decide) h

theorem not_mem_decimal {c : Char} (hc : c ∉ digits) (n : Nat) : c ∉ decimal n :=
  fun h ↦ hc (mem_digits_of_mem_toDigits (by decide) (by decide) h)

theorem IPv4.chars_injective {ip ip' : IPv4} (h : ip.chars = ip'.chars) : ip = ip' := by
  have hdot (n : Nat) : '.' ∉ decimal n := not_mem_decimal (by decide) n
  obtain ⟨a, b, c, d⟩ := ip
  obtain ⟨a', b', c', d'⟩ := ip'
  simp only [chars, List.append_assoc, List.cons_append] at h
  obtain ⟨ha, h⟩ := cut_first (hdot _) (hdot _) h
  obtain ⟨hb, h⟩ := cut_first (hdot _) (hdot _) h
  obtain ⟨hc, hd⟩ := cut_first (hdot _) (hdot _) h
  rw [UInt8.toNat_inj.1 (decimal_injective ha), UInt8.toNat_inj.1 (decimal_injective hb),
    UInt8.toNat_inj.1 (decimal_injective hc), UInt8.toNat_inj.1 (decimal_injective hd)]

theorem IPv4.dot_mem_chars (ip : IPv4) : '.' ∈ ip.chars := by
  simp [chars]

theorem IPv4.mem_chars {ip : IPv4} {c : Char} (h : c ∈ ip.chars) : c ∈ digits ∨ c = '.' := by
  have hd {n : Nat} (hc : c ∈ decimal n) : c ∈ digits :=
    mem_digits_of_mem_toDigits (by decide) (by decide) hc
  simp only [chars, List.append_assoc, List.cons_append, List.mem_append, List.mem_cons] at h
  rcases h with h | h | h | h | h | h | h
  · exact .inl (hd h)
  · exact .inr h
  · exact .inl (hd h)
  · exact .inr h
  · exact .inl (hd h)
  · exact .inr h
  · exact .inl (hd h)

namespace IPv6

theorem colon_not_mem (g : UInt16) : ':' ∉ hexDigits g.toNat := not_mem_hexDigits (by decide) _

theorem joined_cons_cons (g g' : UInt16) (gs : List UInt16) :
    joined (g :: g' :: gs) = hexDigits g.toNat ++ ':' :: joined (g' :: gs) := rfl

theorem hexDigits_toNat_injective {g g' : UInt16} (h : hexDigits g.toNat = hexDigits g'.toNat) :
    g = g' :=
  UInt16.toNat_inj.1 (hexDigits_injective h)

theorem joined_ne_colon (gs : List UInt16) (cs : List Char) : joined gs ≠ ':' :: cs := by
  intro h
  have hne (g : UInt16) (as : List Char) (hg : hexDigits g.toNat ++ as = ':' :: cs) : False := by
    cases hd : hexDigits g.toNat with
    | nil => exact hexDigits_ne_nil _ hd
    | cons c rest =>
      rw [hd] at hg
      obtain ⟨rfl, -⟩ := List.cons.inj hg
      exact colon_not_mem g (by rw [hd]; exact .head _)
  match gs with
  | [] => cases h
  | [g] => exact hne g [] (by simpa [joined] using h)
  | g :: g' :: gs => exact hne g _ h

theorem joined_ne_nil (g : UInt16) (gs : List UInt16) : joined (g :: gs) ≠ [] := by
  cases gs with
  | nil => exact hexDigits_ne_nil _
  | cons g' gs => simp [joined]

theorem joined_injective {gs hs : List UInt16} (h : joined gs = joined hs) : gs = hs := by
  induction gs generalizing hs with
  | nil =>
    cases hs with
    | nil => rfl
    | cons k ks => exact absurd h.symm (joined_ne_nil k ks)
  | cons g gs ih =>
    match gs, hs with
    | gs, [] => exact absurd h (joined_ne_nil g gs)
    | [], [k] => rw [hexDigits_toNat_injective h]
    | [], k :: k' :: ks => exact absurd h (ne_cut (colon_not_mem g))
    | g' :: gs, [k] => exact absurd h.symm (ne_cut (colon_not_mem k))
    | g' :: gs, k :: k' :: ks =>
      rw [joined_cons_cons, joined_cons_cons] at h
      obtain ⟨hg, ht⟩ := cut_first (colon_not_mem g) (colon_not_mem k) h
      rw [hexDigits_toNat_injective hg, ih ht]

theorem joined_cons_append (g : UInt16) (gs : List UInt16) (cs : List Char) :
    joined (g :: gs) ++ ':' :: cs =
      hexDigits g.toNat ++ ':' :: (if gs = [] then cs else joined gs ++ ':' :: cs) := by
  cases gs with
  | nil => rfl
  | cons g' gs => simp [joined]

theorem joined_append_ne_colon (g : UInt16) (gs : List UInt16) (cs ds : List Char) :
    joined (g :: gs) ++ cs ≠ ':' :: ds := by
  intro h
  cases hj : joined (g :: gs) with
  | nil => exact joined_ne_nil g gs hj
  | cons c rest =>
    rw [hj] at h
    obtain ⟨rfl, -⟩ := List.cons.inj h
    exact joined_ne_colon _ _ hj

theorem joined_ne_compressed (gs as bs : List UInt16) :
    joined gs ≠ joined as ++ ':' :: ':' :: joined bs := by
  induction as generalizing gs with
  | nil => exact joined_ne_colon gs _
  | cons a as ih =>
    rw [joined_cons_append]
    intro h
    match gs with
    | [] => simp [joined] at h
    | [g] => exact ne_cut (colon_not_mem g) h
    | g :: g' :: gs =>
      obtain ⟨-, ht⟩ := cut_first (colon_not_mem g) (colon_not_mem a) h
      split at ht
      · exact joined_ne_colon _ _ ht
      · exact ih _ ht

theorem compressed_injective {as bs as' bs' : List UInt16}
    (h : joined as ++ ':' :: ':' :: joined bs = joined as' ++ ':' :: ':' :: joined bs') :
    as = as' ∧ bs = bs' := by
  induction as generalizing as' with
  | nil =>
    cases as' with
    | nil => exact ⟨rfl, joined_injective (List.cons.inj (List.cons.inj h).2).2⟩
    | cons a' as' => exact absurd h.symm (joined_append_ne_colon _ _ _ _)
  | cons a as ih =>
    cases as' with
    | nil => exact absurd h (joined_append_ne_colon _ _ _ _)
    | cons a' as' =>
      rw [joined_cons_append, joined_cons_append] at h
      obtain ⟨ha, ht⟩ := cut_first (colon_not_mem a) (colon_not_mem a') h
      rw [hexDigits_toNat_injective ha]
      split at ht <;> split at ht
      · next hn hn' =>
        rw [hn, hn']
        exact ⟨rfl, joined_injective (List.cons.inj ht).2⟩
      · next hn hn' =>
        obtain ⟨g, gs, rfl⟩ := List.exists_cons_of_ne_nil hn'
        exact absurd ht.symm (joined_append_ne_colon _ _ _ _)
      · next hn hn' =>
        obtain ⟨g, gs, rfl⟩ := List.exists_cons_of_ne_nil hn
        exact absurd ht (joined_append_ne_colon _ _ _ _)
      · obtain ⟨rfl, hb⟩ := ih ht
        exact ⟨rfl, hb⟩

theorem mem_joined {gs : List UInt16} {c : Char} (h : c ∈ joined gs) : c ∈ digits ∨ c = ':' := by
  induction gs with
  | nil => cases h
  | cons g gs ih =>
    match gs with
    | [] => exact .inl (mem_digits_of_mem_hexDigits h)
    | g' :: gs =>
      rw [joined_cons_cons] at h
      rcases List.mem_append.1 h with h | h
      · exact .inl (mem_digits_of_mem_hexDigits h)
      · rcases List.mem_cons.1 h with h | h
        · exact .inr h
        · exact ih h

theorem zerosAt_spec (gs : List UInt16) : gs = List.replicate (zerosAt gs) 0 ++ gs.drop (zerosAt gs) := by
  induction gs with
  | nil => rfl
  | cons g gs ih =>
    by_cases hg : g = 0
    · have hz : zerosAt (g :: gs) = zerosAt gs + 1 := by simp [zerosAt, hg]
      rw [hz, List.replicate_succ, List.drop_succ_cons, List.cons_append, ← ih, hg]
    · have hz : zerosAt (g :: gs) = 0 := by simp [zerosAt, hg]
      rw [hz]
      rfl

theorem longestZeros_spec (gs : List UInt16) (pos : Nat) (h : 0 < (longestZeros pos gs).2) :
    ∃ as bs, gs = as ++ List.replicate (longestZeros pos gs).2 0 ++ bs ∧
      (longestZeros pos gs).1 = pos + as.length := by
  induction gs generalizing pos with
  | nil => simp [longestZeros] at h
  | cons g gs ih =>
    simp only [longestZeros] at h ⊢
    split
    · exact ⟨[], _, zerosAt_spec (g :: gs), rfl⟩
    · next hlt =>
      rw [if_neg hlt] at h
      obtain ⟨as, bs, hgs, hpos⟩ := ih (pos + 1) h
      refine ⟨g :: as, bs, congrArg (g :: ·) hgs, ?_⟩
      rw [hpos, List.length_cons]
      omega

/-- Either some zero groups are left out for a double colon, or none. -/
theorem chars_cases {ip : IPv6} (h : ip.mapped? = none) :
    (∃ as bs len, ip.groups = as ++ List.replicate len 0 ++ bs ∧
      ip.chars = joined as ++ ':' :: ':' :: joined bs) ∨ ip.chars = joined ip.groups := by
  simp only [chars, h]
  split
  · next hlen =>
    obtain ⟨as, bs, hgs, hpos⟩ := longestZeros_spec ip.groups 0 (by omega)
    refine .inl ⟨as, bs, _, hgs, ?_⟩
    have htake : ip.groups.take (longestZeros 0 ip.groups).1 = as := by
      rw [hpos, Nat.zero_add]
      exact (congrArg (List.take _) hgs).trans (by rw [List.append_assoc, List.take_left])
    have hdrop : ip.groups.drop ((longestZeros 0 ip.groups).1 + (longestZeros 0 ip.groups).2) = bs := by
      rw [hpos, Nat.zero_add]
      exact (congrArg (List.drop _) hgs).trans (List.drop_left' (by simp))
    rw [htake, hdrop]
  · exact .inr rfl

theorem chars_of_mapped {ip : IPv6} {inner : IPv4} (h : ip.mapped? = some inner) :
    ip.chars = [':', ':', 'f', 'f', 'f', 'f', ':'] ++ inner.chars := by
  simp only [chars, h]

theorem dot_not_mem_chars {ip : IPv6} (h : ip.mapped? = none) : '.' ∉ ip.chars := by
  have hj (gs : List UInt16) : '.' ∉ joined gs := fun hm ↦ by
    rcases mem_joined hm with hd | hd
    · exact absurd hd (by decide)
    · exact absurd hd (by decide)
  rcases chars_cases h with ⟨as, bs, len, -, hc⟩ | hc
  · rw [hc]
    simp [hj]
  · rw [hc]
    exact hj _

theorem groups_injective {ip ip' : IPv6} (h : ip.groups = ip'.groups) : ip = ip' := by
  obtain ⟨⟩ := ip
  obtain ⟨⟩ := ip'
  simpa [groups] using h

theorem mapped?_injective {ip ip' : IPv6} {inner : IPv4} (h : ip.mapped? = some inner)
    (h' : ip'.mapped? = some inner) : ip = ip' := by
  have hword {g g' : UInt16} (hhigh : UInt8.ofNat (g.toNat / 256) = UInt8.ofNat (g'.toNat / 256))
      (hlow : UInt8.ofNat g.toNat = UInt8.ofNat g'.toNat) : g = g' := by
    have h₁ := congrArg UInt8.toNat hhigh
    have h₂ := congrArg UInt8.toNat hlow
    have hg := g.toNat_lt
    have hg' := g'.toNat_lt
    simp only [UInt8.toNat_ofNat'] at h₁ h₂
    exact UInt16.toNat_inj.1 (by omega)
  unfold mapped? at h h'
  split at h
  · next hpre =>
    split at h'
    · next hpre' =>
      have hinner := (Option.some.inj h).trans (Option.some.inj h').symm
      injection hinner with ha hb hc hd
      refine groups_injective ?_
      have htake : ip.groups = ip.groups.take 6 ++ [ip.g6, ip.g7] := rfl
      have htake' : ip'.groups = ip'.groups.take 6 ++ [ip'.g6, ip'.g7] := rfl
      rw [htake, htake', hpre, hpre', hword ha hb, hword hc hd]
    · cases h'
  · cases h

theorem chars_injective {ip ip' : IPv6} (h : ip.chars = ip'.chars) : ip = ip' := by
  cases hm : ip.mapped? with
  | some inner =>
    rw [chars_of_mapped hm] at h
    cases hm' : ip'.mapped? with
    | some inner' =>
      rw [chars_of_mapped hm'] at h
      have hi : inner = inner' := IPv4.chars_injective (List.append_cancel_left h)
      exact mapped?_injective hm (hi ▸ hm')
    | none =>
      refine absurd ?_ (dot_not_mem_chars hm')
      rw [← h]
      exact List.mem_append_right _ inner.dot_mem_chars
  | none =>
    cases hm' : ip'.mapped? with
    | some inner' =>
      refine absurd ?_ (dot_not_mem_chars hm)
      rw [h, chars_of_mapped hm']
      exact List.mem_append_right _ inner'.dot_mem_chars
    | none =>
      rcases chars_cases hm with ⟨as, bs, len, hg, hc⟩ | hc <;>
        rcases chars_cases hm' with ⟨as', bs', len', hg', hc'⟩ | hc' <;> rw [hc, hc'] at h
      · obtain ⟨rfl, rfl⟩ := compressed_injective h
        -- Eight groups on either side: as many were left out.
        have hl := congrArg List.length hg
        have hl' := congrArg List.length hg'
        simp only [List.length_append, List.length_replicate] at hl hl'
        have hlen : len = len' := by
          have h8 : ip.groups.length = ip'.groups.length := rfl
          omega
        exact groups_injective (by rw [hg, hg', hlen])
      · exact absurd h.symm (joined_ne_compressed _ _ _)
      · exact absurd h (joined_ne_compressed _ _ _)
      · exact groups_injective (joined_injective h)

theorem colon_mem_chars (ip : IPv6) : ':' ∈ ip.chars := by
  cases hm : ip.mapped? with
  | some inner =>
    rw [chars_of_mapped hm]
    simp
  | none =>
    rcases chars_cases hm with ⟨as, bs, len, -, hc⟩ | hc
    · rw [hc]
      simp
    · rw [hc]
      simp [groups, joined]

theorem mem_chars {ip : IPv6} {c : Char} (h : c ∈ ip.chars) : c ∈ alphabet := by
  have hj {gs : List UInt16} (hc : c ∈ joined gs) : c ∈ alphabet := by
    rcases mem_joined hc with hd | rfl
    · exact digits_subset hd
    · decide
  cases hm : ip.mapped? with
  | some inner =>
    rw [chars_of_mapped hm] at h
    rcases List.mem_append.1 h with h | h
    · have hsub : [':', ':', 'f', 'f', 'f', 'f', ':'] ⊆ alphabet := by decide
      exact hsub h
    · rcases IPv4.mem_chars h with hd | rfl
      · exact digits_subset hd
      · decide
  | none =>
    rcases chars_cases hm with ⟨as, bs, len, -, hc⟩ | hc <;> rw [hc] at h
    · simp only [List.mem_append, List.mem_cons] at h
      rcases h with h | rfl | rfl | h
      · exact hj h
      · decide
      · decide
      · exact hj h
    · exact hj h

end IPv6

namespace IpAddress

theorem chars_injective {ip ip' : IpAddress} (h : ip.chars = ip'.chars) : ip = ip' := by
  have hcolon (a : IPv4) : ':' ∉ a.chars := fun hm ↦ by
    rcases IPv4.mem_chars hm with hd | hd
    · exact absurd hd (by decide)
    · exact absurd hd (by decide)
  cases ip with
  | v4 a =>
    cases ip' with
    | v4 a' => rw [IPv4.chars_injective h]
    | v6 a' =>
      change a.chars = a'.chars at h
      exact absurd (h ▸ a'.colon_mem_chars) (hcolon a)
  | v6 a =>
    cases ip' with
    | v4 a' =>
      change a.chars = a'.chars at h
      exact absurd (h ▸ a.colon_mem_chars) (hcolon a')
    | v6 a' => rw [IPv6.chars_injective h]

theorem mem_chars {ip : IpAddress} {c : Char} (h : c ∈ ip.chars) : c ∈ alphabet := by
  cases ip with
  | v4 a =>
    rcases IPv4.mem_chars h with hd | rfl
    · exact digits_subset hd
    · decide
  | v6 a => exact IPv6.mem_chars h

end IpAddress

end GameServers
