import GameServers.Text.Utf8
import Mathlib.Data.UInt

namespace GameServers.Text

variable {s t : String} {bs : Bytes}

theorem toBytes_eq (s : String) : toBytes s = s.toList.flatMap String.utf8EncodeChar := by
  conv => lhs; rw [← String.ofList_toList (s := s)]
  simp only [toBytes, String.toUTF8_eq_toByteArray, String.toByteArray_ofList, List.utf8Encode]
  rw [List.data_toByteArray]

theorem length_toBytes (s : String) : (toBytes s).length = s.utf8ByteSize := by
  simp only [toBytes, Array.length_toList]
  rfl

theorem ofBytes?_toBytes (s : String) : ofBytes? (toBytes s) = .ok s := by
  have hb : (toBytes s).toByteArray = s.toUTF8 := by
    apply ByteArray.ext
    apply Array.ext'
    simp [toBytes]
  have hs : String.fromUTF8? s.toUTF8 = some s := by
    simp only [String.fromUTF8?, String.toUTF8_eq_toByteArray, dif_pos s.isValidUTF8]
    rfl
  unfold ofBytes?
  rw [hb, hs]

theorem toBytes_of_ofBytes? (h : ofBytes? bs = .ok s) : toBytes s = bs := by
  unfold ofBytes? at h
  split at h
  · next t ht =>
    obtain rfl := Except.ok.inj h
    unfold String.fromUTF8? at ht
    split at ht
    · obtain rfl := Option.some.inj ht
      simp [toBytes, String.fromUTF8]
    · cases ht
  · cases h

theorem toBytes_injective (h : toBytes s = toBytes t) : s = t := by
  have hread := ofBytes?_toBytes s
  rw [h, ofBytes?_toBytes] at hread
  exact (Except.ok.inj hread).symm

theorem zero_mem_utf8EncodeChar {c : Char} (h : 0 ∈ String.utf8EncodeChar c) : c = '\x00' := by
  have hne {k : Nat} (h₀ : 0 < k) (h₁ : k < 256) : (0 : UInt8) ≠ UInt8.ofNat k := by
    intro he
    have hk := congrArg UInt8.toNat he
    rw [UInt8.toNat_ofNat_of_lt' h₁] at hk
    exact absurd hk (Nat.ne_of_lt h₀)
  unfold String.utf8EncodeChar at h
  simp only at h
  split at h
  · next hv =>
    -- A character of one byte is that byte.
    by_contra hc
    have h₀ : 0 < c.val.toNat := by
      refine Nat.pos_of_ne_zero fun hz ↦ hc ?_
      exact Char.ext (UInt32.toNat_inj.1 hz)
    exact hne h₀ (by omega) (List.mem_singleton.1 h)
  · exfalso
    split at h
    · simp only [List.mem_cons, List.not_mem_nil, or_false] at h
      rcases h with h | h <;> exact hne (by omega) (by omega) h
    · split at h
      · simp only [List.mem_cons, List.not_mem_nil, or_false] at h
        rcases h with h | h | h <;> exact hne (by omega) (by omega) h
      · simp only [List.mem_cons, List.not_mem_nil, or_false] at h
        rcases h with h | h | h | h <;> exact hne (by omega) (by omega) h

theorem zero_mem_toBytes : 0 ∈ toBytes s ↔ '\x00' ∈ s.toList := by
  rw [toBytes_eq, List.mem_flatMap]
  constructor
  · rintro ⟨c, hc, h⟩
    rwa [← zero_mem_utf8EncodeChar h]
  · intro h
    exact ⟨'\x00', h, by decide⟩

end GameServers.Text
