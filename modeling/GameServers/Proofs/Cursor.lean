import GameServers.Cursor
import GameServers.Proofs.Bytes
import GameServers.Proofs.Text.Utf8

namespace GameServers.Cursor

variable {α β : Type} {c : Cursor α} {f : α → Cursor β} {bs bs' : Bytes} {a : α} {b : β}

def Reads (c : Cursor α) (bs : Bytes) (a : α) : Prop := ∀ rest, c (bs ++ rest) = .ok (a, rest)

namespace Reads

theorem pure (a : α) : Reads (Pure.pure a) [] a := fun _ ↦ rfl

theorem bind (hc : Reads c bs a) (hf : Reads (f a) bs' b) : Reads (c >>= f) (bs ++ bs') b := by
  intro rest
  change (c (bs ++ bs' ++ rest) >>= fun p ↦ f p.1 p.2) = _
  rw [List.append_assoc, hc]
  exact hf rest

theorem map (hc : Reads c bs a) (g : α → β) : Reads (g <$> c) bs (g a) := by
  intro rest
  change (c (bs ++ rest) >>= fun p ↦ Pure.pure (g p.1, p.2)) = _
  rw [hc]
  rfl

theorem finish (hc : Reads c bs a) (g : α → β) : Reads (c >>= fun a ↦ Pure.pure (g a)) bs (g a) := by
  have h := hc.bind (f := fun a ↦ Pure.pure (g a)) (pure (g a))
  rwa [List.append_nil] at h

theorem take {n : Nat} (h : bs.length = n) : Reads (take n) bs bs := by
  intro rest
  subst h
  unfold Cursor.take
  rw [if_neg (by simp), List.take_left, List.drop_left]

theorem uint8 (n : UInt8) : Reads uint8 [n] n := fun _ ↦ rfl

theorem uint16 (n : UInt16) : Reads uint16 (Bytes.ofUInt16 n) n := by
  have hlen : (Bytes.ofUInt16 n).length = 2 := Bytes.length_ofNat 2 _
  have h := (take hlen).finish Bytes.toUInt16
  rwa [Bytes.toUInt16_ofUInt16] at h

theorem uint32 (n : UInt32) : Reads uint32 (Bytes.ofUInt32 n) n := by
  have hlen : (Bytes.ofUInt32 n).length = 4 := Bytes.length_ofNat 4 _
  have h := (take hlen).finish Bytes.toUInt32
  rwa [Bytes.toUInt32_ofUInt32] at h

theorem int32 (n : Int32) : Reads int32 (Bytes.ofInt32 n) n := by
  have h := (take (Bytes.length_ofInt32 n)).finish Bytes.toInt32
  rwa [Bytes.toInt32_ofInt32] at h

theorem uint64 (n : UInt64) : Reads uint64 (Bytes.ofUInt64 n) n := by
  have hlen : (Bytes.ofUInt64 n).length = 8 := Bytes.length_ofNat 8 _
  have h := (take hlen).finish Bytes.toUInt64
  rwa [Bytes.toUInt64_ofUInt64] at h

end Reads

theorem splitAtZero_append (h : 0 ∉ bs) (rest : Bytes) :
    splitAtZero (bs ++ 0 :: rest) = some (bs, rest) := by
  induction bs with
  | nil => rfl
  | cons b bs ih =>
    have hb : b ≠ 0 := fun he ↦ h (he ▸ .head _)
    have hbs : 0 ∉ bs := fun hz ↦ h (.tail _ hz)
    rw [List.cons_append, splitAtZero, if_neg hb, ih hbs]

namespace Reads

theorem string {s : String} (h : '\x00' ∉ s.toList) : Reads string (Text.toBytes s ++ [0]) s := by
  intro rest
  have hz : 0 ∉ Text.toBytes s := fun hz ↦ h (Text.zero_mem_toBytes.1 hz)
  unfold Cursor.string
  rw [List.append_assoc, List.singleton_append, splitAtZero_append hz]
  simp only [Text.ofBytes?_toBytes]

theorem times {encode : α → Bytes} {as : List α} (h : ∀ a ∈ as, Reads c (encode a) a) :
    Reads (times c as.length) (as.flatMap encode) as := by
  induction as with
  | nil => exact pure []
  | cons a as ih =>
    have ha := h a (.head _)
    have has := ih fun b hb ↦ h b (.tail _ hb)
    exact ha.bind (has.finish (a :: ·))

end Reads

/-- With any of the bytes missing at the end, the reader finds them malformed. -/
def Needs (c : Cursor α) (bs : Bytes) : Prop :=
  ∀ k < bs.length, ∃ defect, c (bs.take k) = .error (.malformedPacket defect)

/-- Whatever the reader accepts, it takes a part of it off the front that it needs, and looks at
nothing more. -/
def Exact (c : Cursor α) : Prop :=
  ∀ ⦃bs a rest⦄, c bs = .ok (a, rest) → ∃ front, bs = front ++ rest ∧ Reads c front a ∧ Needs c front

theorem bind_eq_ok {rest : Bytes} :
    (c >>= f) bs = .ok (b, rest) ↔ ∃ a mid, c bs = .ok (a, mid) ∧ f a mid = .ok (b, rest) := by
  change (c bs >>= fun p ↦ f p.1 p.2) = _ ↔ _
  constructor
  · intro h
    cases hc : c bs with
    | error e =>
      rw [hc] at h
      cases h
    | ok p =>
      rw [hc] at h
      exact ⟨p.1, p.2, rfl, h⟩
  · rintro ⟨a, mid, hc, hf⟩
    rw [hc]
    exact hf

theorem map_eq_ok {g : α → β} {rest : Bytes} :
    (g <$> c) bs = .ok (b, rest) ↔ ∃ a, c bs = .ok (a, rest) ∧ g a = b := by
  rw [map_eq_pure_bind, bind_eq_ok]
  constructor
  · rintro ⟨a, mid, hc, hp⟩
    cases hp
    exact ⟨a, hc, rfl⟩
  · rintro ⟨a, hc, rfl⟩
    exact ⟨a, rest, hc, rfl⟩

/-- What is missing is missed by the first reader or, if that has all it needs, by the second. -/
theorem Needs.bind (hc : Needs c bs) (hr : Reads c bs a) (hf : Needs (f a) bs') :
    Needs (c >>= f) (bs ++ bs') := by
  intro k hk
  change ∃ defect, (c ((bs ++ bs').take k) >>= fun p ↦ f p.1 p.2) = _
  rw [List.take_append]
  by_cases hlt : k < bs.length
  · obtain ⟨defect, hd⟩ := hc k hlt
    rw [Nat.sub_eq_zero_of_le hlt.le, List.take_zero, List.append_nil, hd]
    exact ⟨defect, rfl⟩
  · rw [List.take_of_length_le (not_lt.1 hlt), hr]
    refine hf (k - bs.length) ?_
    rw [List.length_append] at hk
    omega

theorem Needs.then (hc : Needs c bs) : Needs (c >>= f) bs := by
  intro k hk
  change ∃ defect, (c (bs.take k) >>= fun p ↦ f p.1 p.2) = _
  obtain ⟨defect, hd⟩ := hc k hk
  rw [hd]
  exact ⟨defect, rfl⟩

theorem eq_of_int32 {n : Int32} {rest : Bytes} (h : int32 bs = .ok (n, rest)) :
    bs = Bytes.ofInt32 n ++ rest := by
  obtain ⟨four, mid, htake, hpure⟩ := bind_eq_ok.1 h
  cases hpure
  unfold Cursor.take at htake
  split at htake
  · cases htake
  · next hn =>
    obtain ⟨rfl, rfl⟩ := Prod.mk.inj (Except.ok.inj htake)
    rw [Bytes.ofInt32_toInt32 (List.length_take_of_le (not_lt.1 hn)), List.take_append_drop]

namespace Exact

theorem pure (a : α) : Exact (Pure.pure a : Cursor α) := by
  intro bs b rest h
  cases h
  exact ⟨[], rfl, .pure a, fun _ hk ↦ by cases hk⟩

theorem throw (e : Failure) : Exact (MonadExcept.throw e : Cursor α) := by
  intro bs a rest h
  cases h

theorem bind (hc : Exact c) (hf : ∀ a, Exact (f a)) : Exact (c >>= f) := by
  intro bs b rest h
  obtain ⟨a, mid, ha, hb⟩ := bind_eq_ok.1 h
  obtain ⟨front, rfl, hreads, hneeds⟩ := hc ha
  obtain ⟨back, rfl, hreads', hneeds'⟩ := hf a hb
  exact ⟨front ++ back, (List.append_assoc ..).symm, hreads.bind hreads',
    hneeds.bind hreads hneeds'⟩

theorem map (hc : Exact c) (g : α → β) : Exact (g <$> c) := by
  rw [map_eq_pure_bind]
  exact hc.bind fun a ↦ pure (g a)

theorem take (n : Nat) : Exact (take n) := by
  intro bs a rest h
  unfold Cursor.take at h
  split at h
  · cases h
  · next hn =>
    obtain ⟨rfl, rfl⟩ := Prod.mk.inj (Except.ok.inj h)
    have hlen : (bs.take n).length = n := List.length_take_of_le (not_lt.1 hn)
    refine ⟨bs.take n, (List.take_append_drop n bs).symm, .take hlen, fun k hk ↦ ?_⟩
    have hshort : ((bs.take n).take k).length < n := by
      rw [List.length_take]
      omega
    exact ⟨_, if_pos hshort⟩

theorem uint8 : Exact uint8 := by
  intro bs a rest h
  cases bs with
  | nil => cases h
  | cons b bs =>
    cases h
    refine ⟨[a], rfl, .uint8 a, fun k hk ↦ ?_⟩
    obtain rfl : k = 0 := Nat.lt_one_iff.1 hk
    exact ⟨_, rfl⟩

theorem uint16 : Exact uint16 := (take 2).bind fun bs ↦ pure (Bytes.toUInt16 bs)

theorem uint32 : Exact uint32 := (take 4).bind fun bs ↦ pure (Bytes.toUInt32 bs)

theorem int32 : Exact int32 := (take 4).bind fun bs ↦ pure (Bytes.toInt32 bs)

theorem uint64 : Exact uint64 := (take 8).bind fun bs ↦ pure (Bytes.toUInt64 bs)

end Exact

theorem splitAtZero_eq_some {text rest : Bytes} (h : splitAtZero bs = some (text, rest)) :
    bs = text ++ 0 :: rest ∧ 0 ∉ text := by
  induction bs generalizing text with
  | nil => cases h
  | cons b bs ih =>
    unfold splitAtZero at h
    split at h
    · next hb =>
      cases h
      exact ⟨by rw [hb]; rfl, List.not_mem_nil⟩
    · next hb =>
      cases hs : splitAtZero bs with
      | none =>
        rw [hs] at h
        cases h
      | some p =>
        rw [hs] at h
        cases h
        obtain ⟨hbs, hz⟩ := ih hs
        exact ⟨by rw [hbs]; rfl, by simp [hz, Ne.symm hb]⟩

theorem splitAtZero_eq_none (h : 0 ∉ bs) : splitAtZero bs = none := by
  cases hs : splitAtZero bs with
  | none => rfl
  | some p =>
    have hbs := (splitAtZero_eq_some hs).1
    exact absurd (hbs ▸ List.mem_append_right _ (.head _)) h

namespace Exact

theorem string : Exact string := by
  intro bs s rest h
  unfold Cursor.string at h
  split at h
  · cases h
  · next text rest' hsplit =>
    split at h
    · cases h
    · next t htext =>
      cases h
      obtain ⟨rfl, hz⟩ := splitAtZero_eq_some hsplit
      refine ⟨text ++ [0], by simp, fun more ↦ ?_, fun k hk ↦ ?_⟩
      · unfold Cursor.string
        rw [List.append_assoc, List.singleton_append, splitAtZero_append hz]
        simp only [htext]
      · have hcut : (text ++ [0]).take k = text.take k := by
          refine List.take_append_of_le_length ?_
          simpa [Nat.lt_succ_iff] using hk
        have hz' : 0 ∉ text.take k := fun hmem ↦ hz (List.mem_of_mem_take hmem)
        unfold Cursor.string
        rw [hcut, splitAtZero_eq_none hz']
        exact ⟨_, rfl⟩

theorem times (hc : Exact c) (n : Nat) : Exact (times c n) := by
  induction n with
  | zero => exact pure []
  | succ n ih => exact hc.bind fun a ↦ ih.bind fun as ↦ pure (a :: as)

theorem optional (hc : Exact c) (present : Bool) : Exact (optional present c) := by
  cases present with
  | false => exact pure none
  | true => exact hc.map some

end Exact

end GameServers.Cursor
