import GameServers.Proofs.Client.Records
import GameServers.Proofs.Console.Commands

namespace GameServers.Console

open World (Act gather)

variable {w : World client} {config : Config} {net : Network}

def allotments (w : World client) : Act client → List (Nat × Int32)
  | .start call => ((client.begin w.net call w.state).turn.request?.map fun q : Request ↦
      (w.calls.length, q.packet.id)).toList
  | _ => []

theorem nextId_begin (call : Call) (s : ClientState) :
    ((call.begin s).turn.request? = none ∧ (call.begin s).state.nextId = s.nextId) ∨
      ∃ q : Request, (call.begin s).turn.request? = some q ∧ q.packet.id = s.nextId ∧
        (call.begin s).state.nextId = s.nextId + 1 := by
  cases call with
  | authenticate server password => exact .inr ⟨_, rfl, rfl, rfl⟩
  | execute server line =>
    simp only [Call.begin]
    split
    · exact .inr ⟨_, rfl, rfl, rfl⟩
    · exact .inl ⟨rfl, rfl⟩
  | isAuthenticated server => exact .inl ⟨rfl, rfl⟩

theorem nextId_resume (p : Pending) (o : Outcome protocol) (s : ClientState) :
    (Call.resume p o s).state.nextId = s.nextId := by
  unfold Call.resume
  split <;> rfl

theorem nextId_act (w : World client) {a : Act client} (ha : ∀ call, a ≠ .start call) :
    (w.act a).state.nextId = w.state.nextId := by
  rcases w.state_act a with hs | ⟨-, hs⟩ | ⟨call, rfl, -⟩ | ⟨i, x, hx, hs⟩
  · rw [hs]
  · rw [hs]
    rfl
  · exact absurd rfl (ha call)
  · rw [hs, ← (World.resumption?_eq_some hx).2.1]
    exact nextId_resume x.pending x.outcome x.state

theorem allotments_act (w : World client) (a : Act client) :
    (allotments w a = [] ∧ (w.act a).state.nextId = w.state.nextId) ∨
      allotments w a = [(w.calls.length, w.state.nextId)] ∧
        (w.act a).state.nextId = w.state.nextId + 1 := by
  cases a with
  | start call =>
    have hs : (w.act (.start call)).state = (call.begin w.state).state :=
      World.state_make (w.addCall .closed) _ _
    have ha : allotments w (.start call) = ((call.begin w.state).turn.request?.map fun q : Request ↦
        (w.calls.length, q.packet.id)).toList := rfl
    rw [ha, hs]
    rcases nextId_begin call w.state with ⟨hq, hn⟩ | ⟨q, hq, hid, hn⟩
    · exact .inl ⟨by rw [hq]; rfl, hn⟩
    · exact .inr ⟨by rw [hq, ← hid]; rfl, hn⟩
  | _ => exact .inl ⟨rfl, nextId_act w nofun⟩

def ids (w : World client) (as : List (Act client)) : List Int32 :=
  (gather allotments w as).map Prod.snd

theorem ids_append (as bs : List (Act client)) :
    ids w (as ++ bs) = ids w as ++ ids (w.perform as) bs := by
  rw [ids, World.gather_append, List.map_append]
  rfl

theorem ids_eq (w : World client) (as : List (Act client)) :
    ids w as = (List.range (ids w as).length).map fun k ↦ w.state.nextId + Int32.ofNat k := by
  induction as generalizing w with
  | nil => rfl
  | cons a as ih =>
    have hcons : ids w (a :: as) = (allotments w a).map Prod.snd ++ ids (w.act a) as := List.map_append
    rcases allotments_act w a with ⟨ha, hn⟩ | ⟨ha, hn⟩
    · rw [hcons, ha]
      exact hn ▸ ih (w.act a)
    · have hnext (k : Nat) : w.state.nextId + Int32.ofNat (k + 1) =
          (w.act a).state.nextId + Int32.ofNat k := by
        rw [hn, Nat.add_comm k 1, Int32.ofNat_add, Int32.add_assoc]
        rfl
      have hzero : w.state.nextId + Int32.ofNat 0 = w.state.nextId := Int32.add_zero _
      rw [hcons, ha, List.map_singleton, List.singleton_append, List.length_cons,
        List.range_succ_eq_map, List.map_cons, List.map_map, hzero]
      exact congrArg (w.state.nextId :: ·) ((ih (w.act a)).trans
        (List.map_congr_left fun k _ ↦ (hnext k).symm))

/-- No id is given out twice before all were given out once. -/
theorem nodup_ids {as : List (Act client)} (h : (ids w as).length ≤ 2 ^ 32) : (ids w as).Nodup := by
  rw [ids_eq]
  refine List.Nodup.map_on (fun j hj k hk he ↦ ?_) List.nodup_range
  have hj : j < 2 ^ 32 := Nat.lt_of_lt_of_le (List.mem_range.1 hj) h
  have hk : k < 2 ^ 32 := Nat.lt_of_lt_of_le (List.mem_range.1 hk) h
  have hbits : BitVec.ofNat 32 j = BitVec.ofNat 32 k :=
    congrArg Int32.toBitVec ((Int32.add_right_inj w.state.nextId).1 he)
  have hmod := congrArg BitVec.toNat hbits
  rwa [BitVec.toNat_ofNat, BitVec.toNat_ofNat, Nat.mod_eq_of_lt hj, Nat.mod_eq_of_lt hk] at hmod

theorem mem_allotments_of_asked {a : Act client} {q : Request} (h : w.asked a = some q) :
    q.packet.id ∈ (allotments w a).map Prod.snd := by
  cases a with
  | start call =>
    have hq : (client.begin w.net call w.state).turn.request? = some q := h
    rw [allotments, hq]
    exact .head _
  | task t =>
    -- Calls that go on ask for nothing more.
    cases t with
    | call i =>
      obtain ⟨x, -, hx⟩ := Option.bind_eq_some_iff.1 h
      cases (request?_resume x.pending x.outcome x.state).symm.trans hx
    | _ => cases h
  | _ => cases h

theorem launch_asking (config : Config) (net : Network) (as : List (Act client)) :
    World.Asking Expects ((launch config net).perform as) :=
  ((launch_gated config net).perform as).toAsking

theorem launch_allHeard (config : Config) (net : Network) (as : List (Act client)) :
    ((launch config net).perform as).AllHeard := ((launch_gated config net).perform as).allHeard

theorem id_mem_ids {as : List (Act client)} {q : Request}
    (h : q ∈ ((launch config net).perform as).requests) : q.packet.id ∈ ids (launch config net) as := by
  induction as using List.reverseRecOn with
  | nil => cases h
  | append_singleton as a ih =>
    have hact : (launch config net).perform (as ++ [a]) = ((launch config net).perform as).act a :=
      List.foldl_append
    rw [hact] at h
    rw [ids_append, List.mem_append]
    rcases World.mem_requests_act (launch_asking config net as) (launch_allHeard config net as) h with hq | hq
    · exact .inl (ih hq)
    · right
      have ha := mem_allotments_of_asked hq
      rwa [ids, World.gather, World.gather, List.append_nil]

theorem mem_allotments_of_ask {call : Call} {q : Request} {p : Pending}
    (h : (client.begin w.net call w.state).turn = .ask q p) :
    (w.calls.length, q.packet.id) ∈ allotments w (.start call) := by
  rw [allotments, h]
  exact .head _

theorem eq_of_mem_allotments {as : List (Act client)} (h : (ids w as).length ≤ 2 ^ 32) {i j : Nat}
    {id : Int32} (hi : (i, id) ∈ gather allotments w as) (hj : (j, id) ∈ gather allotments w as) :
    j = i :=
  congrArg Prod.fst (List.inj_on_of_nodup_map (nodup_ids h) hj hi rfl)

end GameServers.Console
