import GameServers.Directory.Filter
import Mathlib.Data.List.Induction
import Mathlib.Data.List.Sigma

namespace GameServers.Directory

inductive Filter.Call
  | condition (c : Condition)
  | allServers
  deriving DecidableEq, Repr

namespace Filter

def hear (f : Filter) : Call → Filter
  | .condition c => f.add c
  | .allServers => f.allServers

def ofCalls (calls : List Call) : Filter := calls.foldl hear {}

/-- The conditions that were named, in order. An app of number 0 is no condition. -/
def named (calls : List Call) : List Condition :=
  calls.filterMap fun
    | .condition c => if c = .app 0 then none else some c
    | .allServers => none

end Filter

namespace Condition

/-- Whether a condition has its place in the text at position `i` of those that were named: it may
repeat, or its key is named there for the first time. -/
def standsAt (cs : List Condition) (c : Condition) (i : Nat) : Bool :=
  c.repeats || cs.findIdx (·.key = c.key) = i

/-- What was last named under the key of a condition. One that may repeat speaks for itself. -/
def latest (cs : List Condition) (c : Condition) : Condition :=
  if c.repeats then c else (cs.reverse.find? (·.key = c.key)).getD c

/-- What is left of the conditions that were named. -/
def kept (cs : List Condition) : List Condition :=
  (cs.zipIdx.filter fun p ↦ p.1.standsAt cs p.2).map fun p ↦ p.1.latest cs

variable {c d : Condition} {cs ds : List Condition} {i : Nat}

def repeatingKeys : List String := ["napp", "nand", "nor"]

theorem repeats_iff : c.repeats = true ↔ c.key ∈ repeatingKeys := by
  have htrait (t : Trait) : t.key ∉ repeatingKeys := by cases t <;> decide
  have hproperty (p : Property) : p.key ∉ repeatingKeys := by cases p <;> decide
  have hlist (l : TagList) : l.key ∉ repeatingKeys := by cases l <;> decide
  cases c with
  | has trait value => exact iff_of_false Bool.false_ne_true (htrait trait)
  | matching property text => exact iff_of_false Bool.false_ne_true (hproperty property)
  | tagged list tags => exact iff_of_false Bool.false_ne_true (hlist list)
  | app id => exact iff_of_false Bool.false_ne_true (by simp [key, repeatingKeys])
  | notApp id | nand count | nor count => exact iff_of_true rfl (by simp [key, repeatingKeys])

theorem repeats_congr (h : c.key = d.key) : c.repeats = d.repeats := by
  rw [Bool.eq_iff_iff, repeats_iff, repeats_iff, h]

theorem key_latest (cs : List Condition) (c : Condition) : (c.latest cs).key = c.key := by
  unfold latest
  split
  · rfl
  · cases h : cs.reverse.find? (·.key = c.key) with
    | none => rfl
    | some d => simpa using List.find?_some h

theorem standsAt_append (h : d ∈ cs) : d.standsAt (cs ++ [c]) i = d.standsAt cs i := by
  have hlt : cs.findIdx (·.key = d.key) < cs.length :=
    List.findIdx_lt_length_of_exists ⟨d, h, by simp⟩
  simp only [standsAt, List.findIdx_append, if_pos hlt]

theorem standsAt_length : c.standsAt (cs ++ [c]) cs.length = true ↔
    c.repeats = true ∨ ∀ d ∈ cs, d.key ≠ c.key := by
  have hnew : cs.findIdx (·.key = c.key) = cs.length ↔ ∀ d ∈ cs, d.key ≠ c.key := by
    simp [List.findIdx_eq_length]
  rw [← hnew, standsAt, Bool.or_eq_true, decide_eq_true_eq, List.findIdx_append]
  refine or_congr Iff.rfl ?_
  split
  · exact Iff.rfl
  · next hge =>
    have heq : cs.findIdx (·.key = c.key) = cs.length :=
      Nat.le_antisymm List.findIdx_le_length (Nat.not_lt.1 hge)
    simp [heq]

theorem latest_append : d.latest (cs ++ [c]) =
    if d.repeats = false ∧ c.key = d.key then c else d.latest cs := by
  unfold latest
  cases d.repeats with
  | true => simp
  | false =>
    rw [List.reverse_append, List.reverse_singleton, List.singleton_append, List.find?_cons]
    by_cases h : c.key = d.key <;> simp [h]

/-- Takes the place of the condition with its key, if that may not repeat. -/
def supersede (c d : Condition) : Condition := if d.repeats = false ∧ c.key = d.key then c else d

theorem latest_append_eq : d.latest (cs ++ [c]) = c.supersede (d.latest cs) := by
  have hkey := key_latest cs d
  rw [latest_append, supersede, hkey, repeats_congr hkey]

theorem kept_append (cs : List Condition) (c : Condition) : kept (cs ++ [c]) =
    (kept cs).map c.supersede ++ if c.repeats = true ∨ ∀ d ∈ cs, d.key ≠ c.key then [c] else [] := by
  have hold : (cs.zipIdx.filter fun p ↦ p.1.standsAt (cs ++ [c]) p.2) =
      cs.zipIdx.filter fun p ↦ p.1.standsAt cs p.2 := by
    refine List.filter_congr fun p hp ↦ standsAt_append ?_
    exact List.fst_mem_of_mem_zipIdx hp
  have hself : c.latest (cs ++ [c]) = c := by
    rw [latest_append]
    cases hc : c.repeats <;> simp [latest, hc]
  have hnew : (([c].zipIdx cs.length).filter fun p ↦ p.1.standsAt (cs ++ [c]) p.2).map
      (fun p ↦ p.1.latest (cs ++ [c])) =
        if c.repeats = true ∨ ∀ d ∈ cs, d.key ≠ c.key then [c] else [] := by
    rw [List.zipIdx_singleton]
    simp only [List.filter_cons, List.filter_nil, standsAt_length]
    split
    · rw [List.map_singleton, hself]
    · rfl
  rw [kept, List.zipIdx_append, List.filter_append, List.map_append, Nat.zero_add, hold, hnew, kept,
    List.map_map]
  refine congrArg (· ++ _) (List.map_congr_left fun p _ ↦ ?_)
  exact latest_append_eq

/-- No two conditions have the same key, unless they may repeat. -/
def Distinct (cs : List Condition) : Prop := cs.Pairwise fun c d ↦ c.key = d.key → c.repeats = true

theorem distinct_kept (cs : List Condition) : Distinct (kept cs) := by
  have hplaces : cs.zipIdx.Pairwise fun p q ↦ p.2 ≠ q.2 :=
    List.pairwise_map.1 (List.nodup_zipIdx_map_snd cs)
  refine List.pairwise_map.2 ((hplaces.filter _).imp_of_mem fun {p q} hp hq hne hkey ↦ ?_)
  have hp := (List.mem_filter.1 hp).2
  have hq := (List.mem_filter.1 hq).2
  rw [key_latest, key_latest] at hkey
  rw [repeats_congr (key_latest cs p.1)]
  -- Otherwise both stand where their key was named first.
  by_contra hr
  have hr' : q.1.repeats = false := repeats_congr hkey ▸ Bool.eq_false_iff.2 hr
  simp only [standsAt, Bool.eq_false_iff.2 hr, hr', Bool.false_or, decide_eq_true_eq] at hp hq
  rw [hkey] at hp
  exact hne (hp.symm.trans hq)

theorem exists_key_kept (h : ∃ d ∈ cs, d.key = c.key) : ∃ d ∈ kept cs, d.key = c.key := by
  have hlt : cs.findIdx (·.key = c.key) < cs.length :=
    List.findIdx_lt_length_of_exists (by simpa using h)
  have hkey : cs[cs.findIdx (·.key = c.key)].key = c.key := by
    simpa using List.findIdx_getElem (w := hlt)
  refine ⟨cs[cs.findIdx (·.key = c.key)].latest cs, ?_, (key_latest _ _).trans hkey⟩
  refine List.mem_map.2 ⟨(cs[cs.findIdx (·.key = c.key)], cs.findIdx (·.key = c.key)), ?_, rfl⟩
  refine List.mem_filter.2 ⟨List.mk_mem_zipIdx_iff_getElem?.2 (List.getElem?_eq_getElem hlt), ?_⟩
  simp [standsAt, hkey]

theorem key_mem_of_mem_kept (h : d ∈ kept cs) : ∃ e ∈ cs, e.key = d.key := by
  obtain ⟨p, hp, rfl⟩ := List.mem_map.1 h
  exact ⟨p.1, List.fst_mem_of_mem_zipIdx (List.mem_filter.1 hp).1, (key_latest cs p.1).symm⟩

theorem replaceIn_of_new (h : ∀ d ∈ ds, d.key ≠ c.key) : c.replaceIn ds = ds ++ [c] := by
  induction ds with
  | nil => rfl
  | cons d ds ih =>
    rw [replaceIn, if_neg (h d (.head _)), ih fun e he ↦ h e (.tail _ he), List.cons_append]

theorem map_supersede_of_new (h : ∀ d ∈ ds, d.key ≠ c.key) : ds.map c.supersede = ds := by
  have hsame : ∀ d ∈ ds, c.supersede d = d := fun d hd ↦ if_neg fun hc ↦ h d hd hc.2.symm
  rw [List.map_congr_left hsame, List.map_id']

theorem map_supersede_of_repeats (h : c.repeats = true) (ds : List Condition) :
    ds.map c.supersede = ds := by
  refine List.map_id'' (fun d ↦ if_neg fun hc ↦ ?_) ds
  rw [← repeats_congr hc.2, h] at hc
  cases hc.1

theorem replaceIn_of_old (hr : c.repeats = false) (hd : Distinct ds) (h : ∃ d ∈ ds, d.key = c.key) :
    c.replaceIn ds = ds.map c.supersede := by
  induction ds with
  | nil => simp at h
  | cons d ds ih =>
    obtain ⟨hfirst, hrest⟩ := List.pairwise_cons.1 hd
    rw [List.map_cons, replaceIn]
    split
    · next hkey =>
      have hdr : d.repeats = false := (repeats_congr hkey).trans hr
      have hnone : ∀ e ∈ ds, e.key ≠ c.key := by
        intro e he hek
        rw [hfirst e he (hkey.trans hek.symm)] at hdr
        cases hdr
      rw [map_supersede_of_new hnone, supersede, if_pos ⟨hdr, hkey.symm⟩]
    · next hkey =>
      have hlater : ∃ e ∈ ds, e.key = c.key := by
        obtain ⟨e, he, hek⟩ := h
        rcases List.mem_cons.1 he with rfl | he
        · exact absurd hek hkey
        · exact ⟨e, he, hek⟩
      rw [ih hrest hlater, supersede, if_neg fun hc ↦ hkey hc.2.symm]

/-- A condition that may not repeat is put where its key was named first. -/
theorem replaceIn_kept (hr : c.repeats = false) : c.replaceIn (kept cs) = kept (cs ++ [c]) := by
  rw [kept_append, hr]
  by_cases h : ∀ d ∈ cs, d.key ≠ c.key
  · have hnew : ∀ d ∈ kept cs, d.key ≠ c.key := by
      intro d hd
      obtain ⟨e, he, hed⟩ := key_mem_of_mem_kept hd
      exact hed ▸ h e he
    rw [if_pos (.inr h), replaceIn_of_new hnew, map_supersede_of_new hnew]
  · have hold : ∃ d ∈ cs, d.key = c.key := by simpa using h
    rw [if_neg (by simpa using hold), List.append_nil]
    exact replaceIn_of_old hr (distinct_kept cs) (exists_key_kept hold)

theorem kept_append_of_repeats (hr : c.repeats = true) : kept (cs ++ [c]) = kept cs ++ [c] := by
  rw [kept_append, if_pos (.inl hr), map_supersede_of_repeats hr]

theorem text_eq (c : Condition) :
    c.text = "\\" ++ c.key ++ if c.value = "" then "" else "\\" ++ c.value := by
  unfold text
  by_cases h : c.value = ""
  · simp [h]
  · have hne : c.value.isEmpty = false := by simpa using h
    rw [hne, if_neg Bool.false_ne_true, if_neg h]
    exact String.append_assoc

end Condition

namespace Filter

open Condition

theorem ofCalls_append (calls : List Call) (call : Call) :
    ofCalls (calls ++ [call]) = (ofCalls calls).hear call := List.foldl_append

theorem named_append (calls : List Call) (call : Call) :
    named (calls ++ [call]) = named calls ++ named [call] := List.filterMap_append

theorem conditions_ofCalls (calls : List Call) : (ofCalls calls).conditions = kept (named calls) := by
  induction calls using List.reverseRecOn with
  | nil => rfl
  | append_singleton calls call ih =>
    rw [ofCalls_append, named_append]
    cases call with
    | allServers =>
      have hnone : named [.allServers] = [] := rfl
      rw [hnone, List.append_nil, ← ih]
      rfl
    | condition c =>
      change ((ofCalls calls).add c).conditions = _
      unfold add
      by_cases hv : c = .app 0
      · have hnone : named [.condition c] = [] := by simp [named, hv]
        rw [if_pos (by simp [isVoid, hv]), hnone, List.append_nil, ih]
      · have hone : named [.condition c] = [c] := by simp [named, hv]
        rw [if_neg (by simp [isVoid, hv]), hone]
        cases hr : c.repeats with
        | true => rw [if_pos rfl, kept_append_of_repeats hr, ← ih]
        | false => rw [if_neg Bool.false_ne_true, ← replaceIn_kept hr, ← ih]

theorem everything_ofCalls (calls : List Call) :
    (ofCalls calls).everything = true ↔ Call.allServers ∈ calls := by
  induction calls using List.reverseRecOn with
  | nil => simp [ofCalls]
  | append_singleton calls call ih =>
    rw [ofCalls_append, List.mem_append, List.mem_singleton, ← ih]
    cases call with
    | allServers => exact iff_of_true rfl (.inr rfl)
    | condition c =>
      have hadd : ((ofCalls calls).add c).everything = (ofCalls calls).everything := by
        unfold add
        split
        · rfl
        · split <;> rfl
      simp [hear, hadd]

/-- The text of a filter, from what was said to it: nothing if everything is to be listed, or else
the conditions that are kept, each with its key and, unless that is empty, its value. A key that may
not repeat is there once. Yes and no are 1 and 0, and tags have commas between them. -/
theorem text_renders_calls (calls : List Call) :
    (ofCalls calls).text = (if Call.allServers ∈ calls then "" else
      String.join ((kept (named calls)).map fun c ↦
        "\\" ++ c.key ++ if c.value = "" then "" else "\\" ++ c.value)) ∧
    (kept (named calls)).Pairwise (fun c d ↦ c.key = d.key → c.repeats = true) ∧
    (∀ c : Condition, c.repeats = true ↔ c.key ∈ ["napp", "nand", "nor"]) ∧
    (∀ trait on, (has trait on).value = if on then "1" else "0") ∧
    ∀ list tags, (tagged list tags).value.toList = [','].intercalate (tags.map String.toList) := by
  refine ⟨?_, distinct_kept _, fun _ ↦ repeats_iff, fun _ _ ↦ rfl,
    fun _ _ ↦ String.toList_intercalate⟩
  simp only [text, conditions_ofCalls, everything_ofCalls, funext text_eq]

/-- Only the first place and the last value of a key count. -/
example : (ofCalls [.condition (.matching .map "de_nuke"), .condition (.notApp 500),
    .condition (.app 0), .condition (.matching .map "de_dust"), .condition (.notApp 500)]).text =
      "\\map\\de_dust\\napp\\500\\napp\\500" := by
  decide +kernel

end Filter

end GameServers.Directory
