import GameServers.Exchange
import GameServers.Plain
import GameServers.Proofs.Ticket
import Mathlib.Data.List.Induction

namespace GameServers.Exchange

variable {P : Protocol}

/-- What can be done with a ticket, and what its caller can do. -/
inductive Act (P : Protocol)
  | advance (next : Status)
  | complete (outcome : Outcome P)
  | incrementRetries
  | checkSettled
  | sleep (ms : Time)
  | dropTicket
  | poll
  | dropCaller

/-- Carries out an act. With a ticket that is gone nothing can be done any more. -/
def act (x : Exchange P) : Act P → Exchange P
  | .advance next => if x.ticketHeld then x.advance next else x
  | .complete outcome => if x.ticketHeld then (x.complete outcome).1 else x
  | .incrementRetries => if x.ticketHeld then x.modify (·.incrementRetries) else x
  | .checkSettled => x
  | .sleep ms => x.sleep ms
  | .dropTicket => x.dropTicket
  | .poll => x.poll.1
  | .dropCaller => x.dropCaller

/-- What those acts on the ticket answer that succeed or fail. -/
def answer? (x : Exchange P) : Act P → Option Bool
  | .advance next => if x.ticketHeld then some (x.ticket.status.canAdvanceTo next) else none
  | .complete outcome => if x.ticketHeld then some (x.complete outcome).2 else none
  | .checkSettled => if x.ticketHeld then some x.ticket.isDone else none
  | _ => none

/-- The outcome that the caller comes to see in an act. -/
def sees? (x : Exchange P) : Act P → Option (Outcome P)
  | .poll => x.poll.2
  | _ => none

def run (x : Exchange P) (as : List (Act P)) : Exchange P := as.foldl act x

def seen (x : Exchange P) : List (Act P) → List (Outcome P)
  | [] => []
  | a :: as => (x.sees? a).toList ++ (x.act a).seen as

/-- The outcome that an act decides on, unless there is one. -/
def Act.decision? : Act P → Option (Outcome P)
  | .complete outcome => some outcome
  | .dropTicket => some (.error .closed)
  | _ => none

/-- The first decision of all. -/
def verdict? (as : List (Act P)) : Option (Outcome P) := as.findSome? Act.decision?

variable (x : Exchange P) (a : Act P) {as : List (Act P)} {o : Outcome P}

theorem run_append (as bs : List (Act P)) : x.run (as ++ bs) = (x.run as).run bs :=
  List.foldl_append

theorem run_concat (as : List (Act P)) : x.run (as ++ [a]) = (x.run as).act a :=
  run_append x as [a]

theorem seen_concat (as : List (Act P)) :
    x.seen (as ++ [a]) = x.seen as ++ ((x.run as).sees? a).toList := by
  induction as generalizing x with
  | nil => exact List.append_nil _
  | cons b as ih =>
    rw [List.cons_append, seen, ih, seen, List.append_assoc]
    rfl

theorem verdict?_concat (as : List (Act P)) :
    verdict? (as ++ [a]) = (verdict? as).or a.decision? := by
  rw [verdict?, List.findSome?_append]
  cases h : a.decision? <;> simp [verdict?, h]

variable {x}

theorem outcome?_of_gone (h : x.ticketHeld = false) : ∃ o, x.outcome? = some o := by
  unfold outcome?
  split
  · exact ⟨_, rfl⟩
  · exact ⟨_, if_neg (by simp [h])⟩

theorem ticketHeld_of_pending (h : x.outcome? = none) : x.ticketHeld = true := by
  by_contra hx
  obtain ⟨o, ho⟩ := outcome?_of_gone (by simpa using hx)
  rw [h] at ho
  cases ho

theorem outcome_of_pending (h : x.outcome? = none) : x.ticket.outcome = none := by
  unfold outcome? at h
  split at h
  · cases h
  · assumption

theorem outcome?_congr {y : Exchange P} (ho : y.ticket.outcome = x.ticket.outcome)
    (hh : y.ticketHeld = x.ticketHeld) : y.outcome? = x.outcome? := by
  rw [outcome?, outcome?, ho, hh]

theorem outcome?_advance (next : Status) : (x.advance next).outcome? = x.outcome? := by
  unfold advance
  split
  · exact outcome?_congr (x.ticket.outcome_advance next) rfl
  · rfl

theorem outcome?_poll : x.poll.1.outcome? = x.outcome? := by
  unfold poll
  split
  · split <;> rfl
  · rfl

theorem outcome?_complete (hx : x.ticketHeld = true) (o : Outcome P) :
    (x.complete o).1.outcome? = x.outcome?.or (some o) := by
  cases ho : x.ticket.outcome with
  | none => simp [complete, modify, outcome?, Ticket.complete_of_none _ _ ho, ho, hx]
  | some o' =>
    have hc := x.ticket.complete_of_some o (by simp [ho])
    simp [complete, modify, outcome?, hc, ho]

theorem outcome?_dropTicket : x.dropTicket.outcome? = x.outcome?.or (some (.error .closed)) := by
  unfold outcome?
  cases ho : x.ticket.outcome with
  | none => cases hx : x.ticketHeld <;> simp [dropTicket, ho]
  | some o => simp [dropTicket, ho]

variable (x)

theorem outcome?_act : (x.act a).outcome? = x.outcome?.or a.decision? := by
  have hgone (o : Option (Outcome P)) (hx : ¬ x.ticketHeld = true) :
      x.outcome? = x.outcome?.or o := by
    obtain ⟨o', ho⟩ := outcome?_of_gone (x := x) (by simpa using hx)
    rw [ho, Option.some_or]
  cases a with
  | advance next =>
    simp only [act]
    split
    · exact (outcome?_advance next).trans (Option.or_none).symm
    · next hx => exact hgone _ hx
  | complete o =>
    simp only [act]
    split
    · next hx => exact outcome?_complete hx o
    · next hx => exact hgone _ hx
  | incrementRetries =>
    simp only [act]
    split
    · exact Option.or_none.symm
    · next hx => exact hgone _ hx
  | dropTicket => exact outcome?_dropTicket
  | poll => exact outcome?_poll.trans Option.or_none.symm
  | checkSettled | sleep | dropCaller => exact Option.or_none.symm

theorem outcome?_run (as : List (Act P)) : (x.run as).outcome? = x.outcome?.or (verdict? as) := by
  induction as using List.reverseRecOn with
  | nil => exact Option.or_none.symm
  | append_singleton as a ih =>
    rw [run_concat, outcome?_act, ih, verdict?_concat, Option.or_assoc]

theorem outcome?_start (q : P.Request) (as : List (Act P)) :
    ((start q).run as).outcome? = verdict? as :=
  (outcome?_run _ as).trans Option.none_or

structure Settled (x : Exchange P) (o : Outcome P) : Prop where
  outcome : x.ticket.outcome = some o
  status : x.ticket.status = .done

variable {x}

theorem answer?_complete : x.answer? (.complete o) = some true ↔ x.outcome? = none := by
  unfold answer? complete outcome?
  cases x.ticketHeld <;> cases x.ticket.outcome <;> simp

theorem settled_complete (h : x.outcome? = none) (o : Outcome P) :
    (x.act (.complete o)).Settled o := by
  have ho := x.ticket.complete_of_none o (outcome_of_pending h)
  simp only [act, if_pos (ticketHeld_of_pending h), complete, modify]
  exact ⟨congrArg Ticket.outcome ho, congrArg Ticket.status ho⟩

namespace Settled

theorem advance (h : x.Settled o) (next : Status) : x.advance next = x := by
  rw [Exchange.advance, h.status]
  rfl

theorem answer?_advance (h : x.Settled o) (next : Status) :
    x.answer? (.advance next) ≠ some true := by
  simp only [answer?, h.status]
  split <;> simp [Status.canAdvanceTo]

theorem act_advance (h : x.Settled o) (next : Status) : x.act (.advance next) = x := by
  simp only [Exchange.act, h.advance next, ite_self]

theorem act (h : x.Settled o) (a : Act P) : (x.act a).Settled o := by
  cases a with
  | advance next =>
    rw [h.act_advance]
    exact h
  | complete o' =>
    have hc := x.ticket.complete_of_some o' (by simp [h.outcome])
    simp only [Exchange.act, complete, modify, hc, ite_self]
    exact h
  | incrementRetries =>
    simp only [Exchange.act]
    split
    · exact ⟨h.outcome, h.status⟩
    · exact h
  | poll =>
    simp only [Exchange.act, poll]
    split
    · split
      · exact ⟨h.outcome, h.status⟩
      · exact h
    · exact h
  | checkSettled => exact h
  | sleep | dropTicket | dropCaller => exact ⟨h.outcome, h.status⟩

theorem run (h : x.Settled o) (as : List (Act P)) : (x.run as).Settled o := by
  induction as generalizing x with
  | nil => exact h
  | cons a as ih => exact ih (h.act a)

theorem answer?_complete (h : x.Settled o) (o' : Outcome P) :
    x.answer? (.complete o') ≠ some true := by
  rw [Ne, Exchange.answer?_complete, outcome?, h.outcome]
  simp

end Settled

theorem sees?_poll : x.sees? .poll = if x.callerWaits then x.outcome? else none := by
  simp only [sees?, poll]
  split
  · split
    · next o ho => exact ho.symm
    · next ho => exact ho.symm
  · rfl

theorem callerWaits_poll : (x.act .poll).callerWaits = (x.callerWaits && x.outcome?.isNone) := by
  simp only [act, poll]
  split
  · next hc =>
    split
    · next o ho => simp [dropCaller, ho]
    · next ho => simp [hc, ho]
  · next hc => simp [hc]

theorem callerWaits_act (hp : a ≠ .poll) (hd : a ≠ .dropCaller) :
    (x.act a).callerWaits = x.callerWaits := by
  cases a with
  | poll => exact absurd rfl hp
  | dropCaller => exact absurd rfl hd
  | advance next =>
    simp only [act]
    split
    · unfold advance
      split <;> rfl
    · rfl
  | complete | incrementRetries =>
    simp only [act]
    split <;> rfl
  | checkSettled | sleep | dropTicket => rfl

theorem sees?_of_ne (hp : a ≠ .poll) : x.sees? a = none := by
  cases a with
  | poll => exact absurd rfl hp
  | _ => rfl

theorem seen_run (q : P.Request) (as : List (Act P)) :
    (start q).seen as = [] ∧ (.dropCaller ∉ as → ((start q).run as).callerWaits = true) ∨
      ∃ o, (start q).seen as = [o] ∧ verdict? as = some o ∧
        ((start q).run as).callerWaits = false := by
  induction as using List.reverseRecOn with
  | nil => exact .inl ⟨rfl, fun _ ↦ rfl⟩
  | append_singleton as a ih =>
    have hstays (hd : .dropCaller ∉ as ++ [a]) : .dropCaller ∉ as :=
      fun h ↦ hd (List.mem_append.2 (.inl h))
    rw [seen_concat, run_concat, verdict?_concat]
    by_cases hp : a = .poll
    · subst hp
      rw [sees?_poll, callerWaits_poll, outcome?_start]
      rcases ih with ⟨hseen, hwaits⟩ | ⟨o, hseen, hv, hwaits⟩
      · cases hc : ((start q).run as).callerWaits with
        | false =>
          refine .inl ⟨by simp [hseen], fun hd ↦ ?_⟩
          cases hc.symm.trans (hwaits (hstays hd))
        | true =>
          cases hv : verdict? as with
          | none => exact .inl ⟨by simp [hseen], fun _ ↦ rfl⟩
          | some o => exact .inr ⟨o, by simp [hseen], rfl, rfl⟩
      · exact .inr ⟨o, by simp [hseen, hwaits], by rw [hv, Option.some_or], by rw [hwaits]; rfl⟩
    · rw [sees?_of_ne a hp, Option.toList_none, List.append_nil]
      by_cases hd : a = .dropCaller
      · subst hd
        rcases ih with ⟨hseen, -⟩ | ⟨o, hseen, hv, -⟩
        · exact .inl ⟨hseen, fun hd ↦ absurd (List.mem_append.2 (.inr (.head _))) hd⟩
        · exact .inr ⟨o, hseen, by rw [hv, Option.some_or], rfl⟩
      · rw [callerWaits_act a hp hd]
        rcases ih with ⟨hseen, hwaits⟩ | ⟨o, hseen, hv, hwaits⟩
        · exact .inl ⟨hseen, fun hd ↦ hwaits (hstays hd)⟩
        · exact .inr ⟨o, hseen, by rw [hv, Option.some_or], hwaits⟩

/-- A caller who stays and looks in the end has seen the verdict, and has seen it once. -/
theorem seen_of_stays (q : P.Request) {as : List (Act P)} (hd : .dropCaller ∉ as) :
    (start q).seen (as ++ [.poll]) = (verdict? as).toList := by
  rw [seen_concat, sees?_poll, outcome?_start]
  rcases seen_run q as with ⟨hseen, hwaits⟩ | ⟨o, hseen, hv, hwaits⟩
  · rw [hseen, if_pos (hwaits hd), List.nil_append]
  · rw [hseen, hv, hwaits]
    rfl

theorem verdict?_eq_none : verdict? as = none ↔ ∀ a ∈ as, a.decision? = none :=
  List.findSome?_eq_none_iff

/-- Whatever is done with a ticket, in any order: the first completion succeeds if the ticket is
still there, and no other does; from then on the ticket is done for good. Nothing but a completion
or the end of the ticket decides what the caller hears, and a caller who stays hears the first
decision once. -/
theorem settles_exactly_once (q : P.Request) (as : List (Act P)) :
    let x := (start q).run as
    (∀ o, x.answer? (.complete o) = some true ↔ ∀ a ∈ as, a.decision? = none) ∧
      (∀ o after, x.answer? (.complete o) = some true →
        let y := (start q).run (as ++ .complete o :: after)
        y.ticket.outcome = some o ∧ y.ticket.status = .done ∧
          (∀ next, y.answer? (.advance next) ≠ some true ∧ y.act (.advance next) = y) ∧
          ∀ o', y.answer? (.complete o') ≠ some true) ∧
      (∀ a, a.decision? = none → (x.act a).outcome? = x.outcome?) ∧
      x.outcome? = verdict? as ∧
      x.sees? .poll = (if x.callerWaits then verdict? as else none) ∧
      ((start q).seen as = [] ∨ ∃ o, (start q).seen as = [o] ∧ verdict? as = some o) ∧
      (.dropCaller ∉ as → (start q).seen (as ++ [.poll]) = (verdict? as).toList) := by
  intro x
  have hx : x.outcome? = verdict? as := outcome?_start q as
  refine ⟨fun o ↦ ?_, fun o after ho ↦ ?_, fun a ha ↦ ?_, hx, ?_, ?_, seen_of_stays q⟩
  · rw [answer?_complete, hx, verdict?_eq_none]
  · have hs := (settled_complete (answer?_complete.1 ho) o).run after
    rw [run_append]
    exact ⟨hs.outcome, hs.status, fun next ↦ ⟨hs.answer?_advance next, hs.act_advance next⟩,
      hs.answer?_complete⟩
  · rw [outcome?_act, ha, Option.or_none]
  · rw [sees?_poll, hx]
  · exact (seen_run q as).imp And.left fun ⟨o, hseen, hv, _⟩ ↦ ⟨o, hseen, hv⟩

/-- A ticket can be done without an outcome, and is settled all the same. -/
theorem settles_after_done :
    let q : Plain.Message := ⟨.ping, none, ""⟩
    let as : List (Act Plain.protocol) := [.advance .done, .poll]
    let y := (start q).run (as ++ .complete (.error .noRuntime) :: [.complete (.error .closed)])
    ((start q).run as).ticket.status = .done ∧ ((start q).run as).outcome? = none ∧
      y.ticket.outcome = some (.error .noRuntime) ∧
      (start q).seen (as ++ [.poll]) = [] := by
  intro q as
  obtain ⟨-, hfirst, -, -, -, -, hseen⟩ := settles_exactly_once (P := Plain.protocol) q as
  refine ⟨rfl, rfl, (hfirst (.error .noRuntime) [.complete (.error .closed)] rfl).1, ?_⟩
  exact hseen (by simp [as])

end GameServers.Exchange
