import GameServers.Bytes
import Mathlib.Tactic.NormNum

namespace GameServers.Bytes

theorem toNat_lt (bs : Bytes) : toNat bs < 256 ^ bs.length := by
  induction bs with
  | nil => simp [toNat]
  | cons b bs ih =>
    have hb := b.toNat_lt
    rw [toNat, List.length_cons, Nat.pow_succ]
    omega

theorem toNat_ofNat_of_lt {w n : Nat} (h : n < 256 ^ w) : toNat (ofNat w n) = n := by
  rw [toNat_ofNat]
  exact Nat.mod_eq_of_lt h

theorem toUInt16_ofUInt16 (n : UInt16) : toUInt16 (ofUInt16 n) = n := by
  have h : n.toNat < 256 ^ 2 := n.toNat_lt
  rw [toUInt16, ofUInt16, toNat_ofNat_of_lt h, UInt16.ofNat_toNat]

theorem toUInt32_ofUInt32 (n : UInt32) : toUInt32 (ofUInt32 n) = n := by
  have h : n.toNat < 256 ^ 4 := n.toNat_lt
  rw [toUInt32, ofUInt32, toNat_ofNat_of_lt h, UInt32.ofNat_toNat]

theorem toUInt64_ofUInt64 (n : UInt64) : toUInt64 (ofUInt64 n) = n := by
  have h : n.toNat < 256 ^ 8 := n.toNat_lt
  rw [toUInt64, ofUInt64, toNat_ofNat_of_lt h, UInt64.ofNat_toNat]

theorem toInt32_ofInt32 (n : Int32) : toInt32 (ofInt32 n) = n := by
  rw [toInt32, ofInt32, toUInt32_ofUInt32]
  rfl

theorem ofInt32_toInt32 {bs : Bytes} (h : bs.length = 4) : ofInt32 (toInt32 bs) = bs := by
  have hlt := toNat_lt bs
  rw [h] at hlt
  have hn : (UInt32.ofNat (toNat bs)).toNat = toNat bs := UInt32.toNat_ofNat_of_lt' hlt
  change ofNat 4 (UInt32.ofNat (toNat bs)).toNat = bs
  rw [hn, ← h]
  exact ofNat_toNat bs

@[simp] theorem length_ofInt32 (n : Int32) : (ofInt32 n).length = 4 := length_ofNat 4 _

end GameServers.Bytes
