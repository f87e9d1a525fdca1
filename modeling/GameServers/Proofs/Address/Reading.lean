import GameServers.Address.Parser
import Mathlib.Data.List.Basic
import Mathlib.Data.Nat.Digits.Defs

namespace GameServers

namespace AddressParser

variable {n bound : Nat} {rest : Chars}

/-- No digit stands in front of the text, so that a number before it ends there. -/
def Ends (rest : Chars) : Prop := ∀ c ∈ rest.head?, digitValue? 10 c = none

theorem digitValue?_digitChar (h : n < 10) : digitValue? 10 n.digitChar = some n := by
  have hall : ∀ k < 10, digitValue? 10 k.digitChar = some k := by decide
  exact hall n h

theorem digits_of_ends (h : Ends rest) : digits 10 rest = ([], rest) := by
  cases rest with
  | nil => rfl
  | cons c cs => simp only [digits, h c rfl]

theorem digits_map_append (ds : List Nat) (hds : ∀ d ∈ ds, d < 10) (h : Ends rest) :
    digits 10 (ds.map Nat.digitChar ++ rest) = (ds, rest) := by
  induction ds with
  | nil => exact digits_of_ends h
  | cons d ds ih =>
    have hd := digitValue?_digitChar (hds d (.head _))
    simp only [List.map_cons, List.cons_append, digits, hd,
      ih fun e he ↦ hds e (.tail _ he)]

theorem decimal_eq_map (n : Nat) : ∃ ds : List Nat, decimal n = ds.map Nat.digitChar ∧
    (∀ d ∈ ds, d < 10) ∧ ds ≠ [] ∧ ds.foldl (fun acc d ↦ acc * 10 + d) 0 = n ∧
    (ds.head? = some 0 → n = 0) := by
  induction n using Nat.strongRecOn with
  | ind n ih =>
    have hstep := Nat.toDigits_eq_if (b := 10) (n := n) (by decide)
    by_cases hn : n < 10
    · rw [if_pos hn] at hstep
      refine ⟨[n], hstep, ?_, List.cons_ne_nil _ _, ?_, fun h ↦ Option.some.inj h⟩
      · simpa using hn
      · simp
    · rw [if_neg hn] at hstep
      obtain ⟨ds, hds, hlt, hne, hvalue, hzero⟩ := ih (n / 10) (by omega)
      refine ⟨ds ++ [n % 10], ?_, ?_, by simp, ?_, ?_⟩
      · rw [List.map_append, ← hds]
        exact hstep
      · intro d hd
        rcases List.mem_append.1 hd with hd | hd
        · exact hlt d hd
        · rw [List.mem_singleton.1 hd]
          exact Nat.mod_lt n (by decide)
      · rw [List.foldl_append, hvalue]
        exact Nat.div_add_mod' n 10
      · intro h
        rw [List.head?_append_of_ne_nil _ hne] at h
        have := hzero h
        omega

theorem number_decimal (hn : n < bound) {maxDigits : Option Nat}
    (hmax : ∀ m ∈ maxDigits, (decimal n).length ≤ m) (leadingZero : Bool) (h : Ends rest) :
    number 10 bound maxDigits leadingZero (decimal n ++ rest) = some (n, rest) := by
  obtain ⟨ds, hds, hlt, hne, hvalue, hzero⟩ := decimal_eq_map n
  have hread : digits 10 (decimal n ++ rest) = (ds, rest) := by
    rw [hds]
    exact digits_map_append ds hlt h
  have hlen : (decimal n).length = ds.length := by rw [hds, List.length_map]
  have hzero' : ds.head? = some 0 → ds.length ≤ 1 := by
    intro hhead
    have hone : (decimal 0).length = 1 := rfl
    rw [hzero hhead] at hlen
    omega
  cases maxDigits with
  | none => simp +contextual [number, hread, hvalue, hne, hn, hzero']
  | some m =>
    have hshort : ds.length ≤ m := hlen ▸ hmax m rfl
    simp +contextual [number, hread, hvalue, hne, hn, hzero', hshort]

theorem length_decimal_le {m : Nat} (hm : 0 < m) (hn : n < 10 ^ m) : (decimal n).length ≤ m :=
  Nat.toDigits_length 10 n m hm hn

theorem octet_decimal (b : UInt8) (h : Ends rest) :
    number 10 256 (some 3) false (decimal b.toNat ++ rest) = some (b.toNat, rest) := by
  have hb := b.toNat_lt
  refine number_decimal hb (fun m hm ↦ ?_) false h
  obtain rfl := Option.some.inj hm
  exact length_decimal_le (by decide) (by omega)

theorem char_cons (c : Char) (rest : Chars) : char c (c :: rest) = some rest := if_pos rfl

theorem ends_cons {c : Char} (h : digitValue? 10 c = none) : Ends (c :: rest) := by
  intro d hd
  rwa [← Option.some.inj hd]

theorem ipv4_chars (ip : IPv4) (h : Ends rest) : ipv4 (ip.chars ++ rest) = some (ip, rest) := by
  have hdot (cs : Chars) : Ends ('.' :: cs) := ends_cons (by decide)
  simp only [ipv4, IPv4.chars, List.append_assoc, List.cons_append, octet_decimal _ (hdot _),
    octet_decimal _ h, char_cons, Option.bind_eq_bind, Option.bind_some, Option.pure_def,
    UInt8.ofNat_toNat]

theorem port_decimal (p : UInt16) (h : Ends rest) :
    port (':' :: decimal p.toNat ++ rest) = some (p, rest) := by
  have hn : number 10 65536 none true (decimal p.toNat ++ rest) = some (p.toNat, rest) :=
    number_decimal p.toNat_lt (by simp) true h
  simp only [port, List.cons_append, char_cons, Option.bind_eq_bind, Option.bind_some, hn,
    Option.pure_def, UInt16.ofNat_toNat]

theorem endpoint_chars (e : Endpoint) (h : Ends rest) :
    endpoint (e.chars ++ rest) = some (e, rest) := by
  have hcolon (cs : Chars) : Ends (':' :: cs) := ends_cons (by decide)
  have hport := port_decimal e.port h
  rw [List.cons_append] at hport
  simp only [endpoint, Endpoint.chars, List.append_assoc, List.cons_append, ipv4_chars _ (hcolon _),
    Option.bind_eq_bind, Option.bind_some, hport, Option.pure_def]

end AddressParser

/-- The text of an endpoint is read as this endpoint. -/
theorem Endpoint.parse?_text (e : Endpoint) : Endpoint.parse? e.text = some e := by
  have hends : AddressParser.Ends [] := by simp [AddressParser.Ends]
  have hread := AddressParser.endpoint_chars e hends
  rw [List.append_nil] at hread
  simp only [parse?, text, String.toList_ofList, hread, AddressParser.whole]

theorem Endpoint.text_injective {e e' : Endpoint} (h : e.text = e'.text) : e = e' := by
  have hparse := e.parse?_text
  rw [h, e'.parse?_text] at hparse
  exact (Option.some.inj hparse).symm

end GameServers
