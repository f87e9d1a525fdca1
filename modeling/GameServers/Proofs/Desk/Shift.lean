import GameServers.Desk.Clock
import GameServers.Proofs.Desk

namespace GameServers

variable {P : Protocol}

/-- A timer task runs, if it is ready. -/
def Desk.runReady (d : Desk P) (i : Nat) : Desk P :=
  if .timer i ∈ d.agenda.ready then
    { d with agenda := { d.agenda with ready := d.agenda.ready.erase (.timer i) } }.runTimer i
  else d

theorem Desk.bare_runReady {d : Desk P} (hf : d.registry.WellFiled) (i : Nat) :
    (d.runReady i).bare = d.bare ∨ d.Dozes i (d.runReady i) ∨ d.Fires i (d.runReady i) := by
  unfold runReady
  split
  · let a := { d.agenda with ready := d.agenda.ready.erase (.timer i) }
    exact bare_runTimer (d := { d with agenda := a }) hf i
  · exact .inl rfl

/-- A desk with all sessions that it ever gave out, oldest first. -/
structure Shift (P : Protocol) where
  desk : Desk P
  sessions : List Session := []

namespace Shift

def start (readTimeout : Time) : Shift P := { desk := { readTimeout } }

def mapDesk (h : Shift P) (f : Desk P → Desk P) : Shift P := { h with desk := f h.desk }

def create (h : Shift P) (n : Nat) (runtime : Bool) : Shift P :=
  match h.desk.create n runtime with
  | (d, .ok s) => { desk := d, sessions := h.sessions ++ [s] }
  | (d, .error _) => { h with desk := d }

/-- Sessions are called by their places among all that were given out, registered or not. -/
def onSession (h : Shift P) (k : Nat) (f : Desk P → Session → Desk P) : Shift P :=
  match h.sessions[k]? with
  | some s => h.mapDesk (f · s)
  | none => h

inductive Act (P : Protocol)
  | issue (request : P.Request)
  | create (ticket : Nat) (runtime : Bool)
  | settle (session : Nat) (outcome : Outcome P)
  | delete (session : Nat)
  | deleteOldest (id : SessionId)
  | complete (ticket : Nat) (outcome : Outcome P)
  | advance (ticket : Nat) (next : Status)
  | runTimer (index : Nat)
  /-- The clock moves on to a time, unless that has passed, and wakes what is due. -/
  | clock (time : Time)
  | close

def act (h : Shift P) : Act P → Shift P
  | .issue r => h.mapDesk (·.issue r)
  | .create n runtime => h.create n runtime
  | .settle k o => h.onSession k (·.settle · o)
  | .delete k => h.onSession k Desk.delete
  | .deleteOldest id => h.mapDesk (·.deleteOldest id)
  | .complete n o => h.mapDesk (·.complete n o)
  | .advance n next => h.mapDesk (·.advance n next)
  | .runTimer i => h.mapDesk (·.runReady i)
  | .clock time => h.mapDesk fun d ↦ Desk.clockwork.jump (max d.now time) d
  | .close => h.mapDesk Desk.close

def run (h : Shift P) (as : List (Act P)) : Shift P := as.foldl act h

theorem run_append (h : Shift P) (as bs : List (Act P)) :
    h.run (as ++ bs) = (h.run as).run bs := List.foldl_append

def bare (h : Shift P) : Shift P := h.mapDesk Desk.bare

/-- A ticket moves: its request stays, and it is done for good once it is done. -/
def Moves (f : Ticket P → Ticket P) : Prop :=
  ∀ t, (f t).request = t.request ∧ (t.isDone = true → (f t).isDone = true)

/-- One constructor for each way in which a shift can change. -/
inductive Step (h : Shift P) : Shift P → Prop
  | idle : Step h h
  | clock (time : Time) (ht : h.desk.now ≤ time) : Step h (h.mapDesk ({ · with now := time }))
  | issue (r : P.Request) : Step h (h.mapDesk (·.issue r))
  | move (n : Nat) (f : Ticket P → Ticket P) (hf : Moves f) : Step h (h.mapDesk (·.modify n f))
  /-- A session with a timer, for a ticket that is not done. -/
  | enroll (n : Nat) (t : Ticket P) (id : SessionId) (hc : h.desk.closed = false)
      (ht : h.desk.tickets[n]? = some t) (hd : t.isDone = false)
      (hi : (Envelope.request t.request : Envelope P).sessionId = .ok id) :
    Step h {
      desk := (h.desk.enroll (h.desk.nextSession n id)).modify n (·.advance .registered)
      sessions := h.sessions ++ [h.desk.nextSession n id] }
  /-- A session without a timer, for a ticket that is done. -/
  | record (n : Nat) (t : Ticket P) (id : SessionId) (hc : h.desk.closed = false)
      (ht : h.desk.tickets[n]? = some t) (hd : t.isDone = true)
      (hi : (Envelope.request t.request : Envelope P).sessionId = .ok id) :
    Step h {
      desk := (h.desk.record (h.desk.nextSession n id)).modify n (·.advance .registered)
      sessions := h.sessions ++ [h.desk.nextSession n id] }
  | withdraw (s : Session) (f : Ticket P → Ticket P) (hs : s ∈ h.sessions) (hf : Moves f) :
    Step h (h.mapDesk fun d ↦ (d.modify s.ticket f).strike s)
  /-- A timer goes to sleep. -/
  | doze (τ : Timer) (hτ : τ ∈ h.desk.timers) : Step h (h.mapDesk (·.doze τ.index))
  | expire (τ : Timer) (s : Session) (hτ : τ ∈ h.desk.timers)
      (hd : h.desk.dueAt τ.index ≤ h.desk.now)
      (hs : h.desk.registry.find? τ.id τ.index = some s) :
    Step h (h.mapDesk fun d ↦ (d.modify s.ticket (·.complete (.error (.readTimeout s.id
      ⟨d.now - s.registeredAt⟩)))).strike s)
  | close : Step h (h.mapDesk fun d ↦ { d with
      closed := true
      registry := {}
      timers := d.timers.filter fun τ ↦ d.registry.entries.all (τ.index ≠ ·.index) })

theorem moves_advance (next : Status) : Moves (P := P) (·.advance next) := by
  intro t
  refine ⟨t.request_advance next, fun hd ↦ ?_⟩
  have hs : t.status = .done := of_decide_eq_true hd
  have he : t.advance next = t := t.advance_of_not next (by rw [hs]; rfl)
  change (t.advance next).isDone = true
  rwa [he]

theorem moves_complete (o : Outcome P) : Moves (P := P) (·.complete o) := by
  intro t
  refine ⟨t.request_complete o, fun hd ↦ ?_⟩
  change (t.complete o).isDone = true
  cases ho : t.outcome with
  | none => rw [t.complete_of_none o ho]; rfl
  | some a => rwa [t.complete_of_some o (by simp [ho])]

variable {h h' : Shift P}

theorem create_cases (h : Shift P) (n : Nat) (runtime : Bool) :
    h.create n runtime = h ∨ ∃ id, h.desk.idFor n true = .ok id ∧ h.create n runtime = {
      desk := h.desk.register (h.desk.nextSession n id)
      sessions := h.sessions ++ [h.desk.nextSession n id] } := by
  have hcreate (e : Failure) (he : h.desk.idFor n runtime = .error e) :
      h.create n runtime = h := by
    simp only [create, Desk.create, he]
  cases runtime with
  | false =>
    left
    cases hc : h.desk.closed with
    | true => exact hcreate .closed (by simp [Desk.idFor, hc])
    | false => exact hcreate .noRuntime (by simp [Desk.idFor, hc])
  | true =>
    cases hi : h.desk.idFor n true with
    | error e => exact .inl (hcreate e hi)
    | ok id =>
      refine .inr ⟨id, rfl, ?_⟩
      simp only [create, Desk.create_of_ok hi]

theorem create_step (h : Shift P) (n : Nat) (runtime : Bool) :
    Step h.bare (h.create n runtime).bare := by
  rcases h.create_cases n runtime with he | ⟨id, hi, he⟩
  · rw [he]
    exact .idle
  · obtain ⟨hc, t, ht, hid⟩ := Desk.idFor_eq_ok.1 hi
    have hdone : h.desk.isDone n = t.isDone := by simp [Desk.isDone, ht]
    rw [he]
    cases hd : t.isDone with
    | true =>
      have hb := Desk.bare_register_of_done (s := h.desk.nextSession n id) (hdone.trans hd)
      simp only [bare, mapDesk, hb]
      exact .record n t id hc ht hd hid
    | false =>
      have hb := Desk.bare_register (s := h.desk.nextSession n id) (hdone.trans hd)
      simp only [bare, mapDesk, hb]
      exact .enroll n t id hc ht hd hid

theorem delete_step (hf : h.desk.registry.WellFiled) {s : Session} (hs : s ∈ h.sessions) :
    Step h.bare (h.mapDesk (·.delete s)).bare := by
  have hstep := Step.withdraw (h := h.bare) s id hs fun t ↦ ⟨rfl, fun hd ↦ hd⟩
  have hid (d : Desk P) : d.modify s.ticket id = d := Desk.modify_eq_self fun _ _ ↦ rfl
  simp only [hid] at hstep
  simp only [bare, mapDesk, Desk.bare_delete hf]
  exact hstep

theorem runReady_step (hf : h.desk.registry.WellFiled) (i : Nat) :
    Step h.bare (h.mapDesk (·.runReady i)).bare := by
  rcases Desk.bare_runReady hf i with he | ⟨τ, hτ, -, he⟩ | ⟨τ, s, hτ, hdue, hs, he⟩
  · simp only [bare, mapDesk, he]
    exact .idle
  · obtain ⟨hmem, rfl⟩ := Desk.timerAt?_eq_some hτ
    simp only [bare, mapDesk, he]
    exact .doze τ hmem
  · obtain ⟨hmem, rfl⟩ := Desk.timerAt?_eq_some hτ
    simp only [bare, mapDesk, he]
    exact .expire τ s hmem hdue hs

/-- Whatever happens to a shift is one of the steps. -/
theorem act_step (hf : h.desk.registry.WellFiled)
    (hm : ∀ s ∈ h.desk.registry.entries, s ∈ h.sessions) (a : Act P) :
    Step h.bare (h.act a).bare := by
  cases a with
  | issue r => exact .issue r
  | create n runtime => exact create_step h n runtime
  | settle k o =>
    simp only [act, onSession]
    split
    · next s hs =>
      simp only [bare, mapDesk, Desk.bare_settle hf]
      exact .withdraw s _ (List.mem_of_getElem? hs) (moves_complete o)
    · exact .idle
  | delete k =>
    simp only [act, onSession]
    split
    · next s hs => exact delete_step hf (List.mem_of_getElem? hs)
    · exact .idle
  | deleteOldest id =>
    simp only [act, mapDesk, Desk.deleteOldest]
    split
    · next s hs => exact delete_step hf (hm s (hf.oldest?_eq_some hs).1)
    · exact .idle
  | complete n o => exact .move n _ (moves_complete o)
  | advance n next =>
    simp only [act, bare, mapDesk, Desk.bare_advance]
    exact .move n _ (moves_advance next)
  | runTimer i => exact runReady_step hf i
  | clock time => exact .clock _ (le_max_left _ _)
  | close =>
    simp only [act, bare, mapDesk, Desk.bare_close]
    exact .close

end Shift

end GameServers
