import GameServers.Proofs.Console.Ids

namespace GameServers.Console

open World (Act)

theorem toInt_hundred_add {k : Nat} (h : k < 2 ^ 32) :
    ((100 : Int32) + Int32.ofNat k).toInt =
      if k < 2 ^ 31 - 100 then 100 + (k : Int) else 100 + (k : Int) - (2 ^ 32 : Nat) := by
  change (BitVec.ofNat 32 100 + BitVec.ofNat 32 k).toInt = _
  simp only [BitVec.toInt, BitVec.toNat_add, BitVec.toNat_ofNat]
  split <;> split <;> omega

variable {config : Config} {net : Network} {as : List (Act client)} {id : Int32}

theorem mem_ids : id ∈ ids (launch config net) as ↔
    ∃ k < (ids (launch config net) as).length, 100 + Int32.ofNat k = id := by
  have h := ids_eq (launch config net) as
  constructor
  · intro hid
    rw [h, List.mem_map] at hid
    obtain ⟨k, hk, he⟩ := hid
    exact ⟨k, List.mem_range.1 hk, he⟩
  · rintro ⟨k, hk, he⟩
    rw [h]
    exact List.mem_map.2 ⟨k, List.mem_range.2 hk, he⟩

/-- Just the first `2 ^ 31 - 100` ids of a client are 100 or more, and -1 is the id before the first
of the ids that are left alone. -/
theorem ids_in_range (config : Config) (net : Network) (as : List (Act client)) :
    ((∀ id ∈ ids (launch config net) as, 100 ≤ id) ↔
      (ids (launch config net) as).length ≤ 2 ^ 31 - 100) ∧
    (-1 ∈ ids (launch config net) as ↔ 2 ^ 32 - 100 ≤ (ids (launch config net) as).length) := by
  have hlarge (k : Nat) (hk : k < 2 ^ 31 - 100) : (100 : Int32) ≤ 100 + Int32.ofNat k := by
    rw [Int32.le_iff_toInt_le, toInt_hundred_add (by omega), if_pos hk]
    change (100 : Int) ≤ _
    omega
  have hsmall : ¬ (100 : Int32) ≤ 100 + Int32.ofNat (2 ^ 31 - 100) := by decide
  have hminus : (100 : Int32) + Int32.ofNat (2 ^ 32 - 101) = -1 := by decide
  refine ⟨⟨fun hall ↦ ?_, fun hlen id hid ↦ ?_⟩, fun hid ↦ ?_, fun hlen ↦ ?_⟩
  · by_contra hlen
    exact hsmall (hall _ (mem_ids.2 ⟨2 ^ 31 - 100, by omega, rfl⟩))
  · obtain ⟨k, hk, rfl⟩ := mem_ids.1 hid
    exact hlarge k (by omega)
  · obtain ⟨k, hk, he⟩ := mem_ids.1 hid
    by_contra hlen
    have hvalue := toInt_hundred_add (k := k) (by omega)
    rw [he] at hvalue
    change (-1 : Int) = _ at hvalue
    split at hvalue <;> omega
  · exact mem_ids.2 ⟨2 ^ 32 - 101, by omega, hminus⟩

theorem length_ids_authenticate (w : World client) (server : SocketAddress) (password : String)
    (n : Nat) : (ids w (List.replicate n (.start (.authenticate server password)))).length = n := by
  induction n generalizing w with
  | zero => rfl
  | succ n ih =>
    have hcons := ids_append (w := w) [.start (.authenticate server password)]
      (List.replicate n (.start (.authenticate server password)))
    rw [List.replicate_succ, ← List.singleton_append, hcons, List.length_append, ih]
    exact Nat.add_comm 1 n

/-- After enough logins a client gives out ids that it should leave alone, and -1. -/
theorem ids_run_out (config : Config) (net : Network) (server : SocketAddress) (password : String) :
    let logins (n : Nat) : List (Act client) :=
      List.replicate n (.start (.authenticate server password))
    (¬ ∀ id ∈ ids (launch config net) (logins (2 ^ 31 - 99)), 100 ≤ id) ∧
      -1 ∈ ids (launch config net) (logins (2 ^ 32 - 100)) := by
  intro logins
  have hlen (n : Nat) : (ids (launch config net) (logins n)).length = n :=
    length_ids_authenticate _ server password n
  refine ⟨fun hall ↦ ?_, (ids_in_range config net _).2.2 (hlen _).ge⟩
  have hle := (ids_in_range config net _).1.1 hall
  rw [hlen] at hle
  omega

end GameServers.Console
