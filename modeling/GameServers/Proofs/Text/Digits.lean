import GameServers.Text.Quoted
import Mathlib.Data.List.Basic

namespace GameServers.Text

theorem cut_first {c : Char} {as bs as' bs' : List Char} (ha : c ∉ as) (ha' : c ∉ as')
    (h : as ++ c :: bs = as' ++ c :: bs') : as = as' ∧ bs = bs' := by
  induction as generalizing as' with
  | nil =>
    cases as' with
    | nil => exact ⟨rfl, List.cons.inj h |>.2⟩
    | cons a' as' =>
      obtain ⟨rfl, -⟩ := List.cons.inj h
      exact absurd (.head _) ha'
  | cons a as ih =>
    cases as' with
    | nil =>
      obtain ⟨rfl, -⟩ := List.cons.inj h
      exact absurd (.head _) ha
    | cons a' as' =>
      obtain ⟨rfl, ht⟩ := List.cons.inj h
      obtain ⟨rfl, hb⟩ := ih (fun hc ↦ ha (.tail _ hc)) (fun hc ↦ ha' (.tail _ hc)) ht
      exact ⟨rfl, hb⟩

theorem cut_last {c : Char} {as bs as' bs' : List Char} (hb : c ∉ bs) (hb' : c ∉ bs')
    (h : as ++ c :: bs = as' ++ c :: bs') : as = as' ∧ bs = bs' := by
  have hr : bs.reverse ++ c :: as.reverse = bs'.reverse ++ c :: as'.reverse := by
    have he := congrArg List.reverse h
    simpa using he
  obtain ⟨hbs, has⟩ := cut_first (by simpa using hb) (by simpa using hb') hr
  exact ⟨List.reverse_injective has, List.reverse_injective hbs⟩

theorem ne_cut {c : Char} {as bs cs : List Char} (hc : c ∉ cs) : cs ≠ as ++ c :: bs := by
  rintro rfl
  exact hc (List.mem_append_right _ (.head _))

/-- The characters of numbers and of addresses. None of them is a capital letter. -/
def alphabet : List Char := ['0', '1', '2', '3', '4', '5', '6', '7', '8', '9', 'a', 'b', 'c', 'd',
  'e', 'f', '.', ':', '-']

def digits : List Char := alphabet.take 16

theorem digits_subset {c : Char} (h : c ∈ digits) : c ∈ alphabet := List.mem_of_mem_take h

theorem digitChar_mem {n : Nat} (h : n < 16) : n.digitChar ∈ digits := by
  decide +revert

theorem digitChar_inj {n m : Nat} (hn : n < 16) (hm : m < 16) (h : n.digitChar = m.digitChar) :
    n = m := by
  have hall : ∀ i < 16, ∀ j < 16, i.digitChar = j.digitChar → i = j := by decide
  exact hall n hn m hm h

variable {b n m : Nat} {c : Char}

theorem mem_digits_of_mem_toDigits (hb : 1 < b) (hb' : b ≤ 16) (hc : c ∈ Nat.toDigits b n) :
    c ∈ digits := by
  induction n using Nat.strongRecOn with
  | ind n ih =>
    rw [Nat.toDigits_eq_if hb] at hc
    split at hc
    · next hn =>
      rw [List.mem_singleton.1 hc]
      exact digitChar_mem (by omega)
    · next hn =>
      rcases List.mem_append.1 hc with hc | hc
      · exact ih (n / b) (Nat.div_lt_self (by omega) hb) hc
      · rw [List.mem_singleton.1 hc]
        have hlt := Nat.mod_lt n (show 0 < b by omega)
        exact digitChar_mem (by omega)

theorem toDigits_injective (hb : 1 < b) (hb' : b ≤ 16)
    (h : Nat.toDigits b n = Nat.toDigits b m) : n = m := by
  induction n using Nat.strongRecOn generalizing m with
  | ind n ih =>
    have hmod (k : Nat) : k % b < 16 := Nat.lt_of_lt_of_le (Nat.mod_lt k (by omega)) hb'
    rw [Nat.toDigits_eq_if hb, Nat.toDigits_eq_if (n := m) hb] at h
    split at h <;> split at h
    · next hn hm => exact digitChar_inj (by omega) (by omega) (List.singleton_inj.1 h)
    · next hn hm =>
      have hl := congrArg List.length h
      have hpos : 0 < (Nat.toDigits b (m / b)).length := Nat.length_toDigits_pos
      rw [List.length_append, List.length_singleton, List.length_singleton] at hl
      omega
    · next hn hm =>
      have hl := congrArg List.length h
      have hpos : 0 < (Nat.toDigits b (n / b)).length := Nat.length_toDigits_pos
      rw [List.length_append, List.length_singleton, List.length_singleton] at hl
      omega
    · next hn hm =>
      obtain ⟨hdiv, hlast⟩ := List.append_inj' h rfl
      have hd : n / b = m / b := ih (n / b) (Nat.div_lt_self (by omega) hb) hdiv
      have hr : n % b = m % b := digitChar_inj (hmod n) (hmod m) (List.singleton_inj.1 hlast)
      calc
        n = b * (n / b) + n % b := (Nat.div_add_mod n b).symm
        _ = b * (m / b) + m % b := by rw [hd, hr]
        _ = m := Nat.div_add_mod m b

theorem hexDigits_injective (h : hexDigits n = hexDigits m) : n = m :=
  toDigits_injective (by decide) (by decide) h

theorem hexDigits_ne_nil (n : Nat) : hexDigits n ≠ [] := Nat.toDigits_ne_nil

theorem mem_digits_of_mem_hexDigits (h : c ∈ hexDigits n) : c ∈ digits :=
  mem_digits_of_mem_toDigits (by decide) (by decide) h

theorem not_mem_hexDigits (hc : c ∉ digits) (n : Nat) : c ∉ hexDigits n :=
  fun h ↦ hc (mem_digits_of_mem_hexDigits h)

end GameServers.Text
