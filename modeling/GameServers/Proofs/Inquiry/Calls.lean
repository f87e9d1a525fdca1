import GameServers.Inquiry.Calls
import GameServers.Proofs.Client.Asking

namespace GameServers.Inquiry

def Pending.kind : Pending → Kind
  | info => .info
  | challenge .. => .challenge
  | players => .players
  | rules => .rules

def Expects (p : Pending) (q : Request) : Prop := q.kind = p.kind

theorem turn_ask {q q' : Request} {p p' : Pending} {events : List (Event protocol)}
    (h : (Call.ask q p events).turn = .ask q' p') (he : Expects p q) : Expects p' q' := by
  injection h with hq hp
  rw [← hq, ← hp]
  exact he

theorem client_asksFor : client.AsksFor Expects where
  begin {_ call _ _ _} h := by
    match call with
    | .info _ => exact turn_ask h rfl
    | .challenge _ _ => exact turn_ask h rfl
    | .players _ none => exact turn_ask h rfl
    | .players _ (some _) => exact turn_ask h rfl
    | .rules _ none => exact turn_ask h rfl
    | .rules _ (some _) => exact turn_ask h rfl
  resume {pending outcome _ _ _} h := by
    simp only [Call.resume] at h
    split at h
    · cases h
    · split at h
      · cases h
      · cases h
      · cases h
      · split at h
        · cases h
        · exact turn_ask h rfl
        · exact turn_ask h rfl
      · cases h

theorem answerKind?_eq (k : Kind) : protocol.answerKind? k = some k := by
  cases k <;> rfl

/-- The only way to the complaint is a payload of another kind. -/
theorem resume_ne_unexpected {p : Pending} {r : Response} (h : r.kind = p.kind) :
    Call.resume p (.ok r) ≠ Call.unexpected r := by
  obtain ⟨server, payload⟩ := r
  intro hu
  have ht := congrArg Move.turn hu
  cases p with
  | info =>
    cases payload with
    | info _ => cases ht
    | _ => cases h
  | players =>
    cases payload with
    | players _ => cases ht
    | _ => cases h
  | rules =>
    cases payload with
    | rules _ => cases ht
    | _ => cases h
  | challenge a next =>
    cases payload with
    | challenge n => rcases next with _ | _ | _ <;> cases ht
    | _ => cases h

/-- No cross-talk, in any run of a courier over any of the protocols: a request is settled only by
a response of the kind that answers it, from the address and port that it was sent to, and with its
number where messages are numbered. So in no run of the client does a call that goes on with a
response find one of another kind. -/
theorem responses_fit_their_requests :
    (Courier.NoCrossTalk protocol ∧ Courier.NoCrossTalk Console.protocol ∧
      Courier.NoCrossTalk Directory.protocol ∧ Courier.NoCrossTalk Plain.protocol) ∧
    ∀ (config : Config) (net : Network) (as : List (World.Act client)) (i : Nat)
      (ticket : Except Failure Nat) (p : Pending) (r : Response),
      ((launch config net).perform as).calls[i]? = some (.waiting ticket p) →
        ((launch config net).perform as).courier.outcomeOf? ticket = some (.ok r) →
          Call.resume p (.ok r) ≠ Call.unexpected r := by
  refine ⟨⟨Courier.noCrossTalk tellsApart, Courier.noCrossTalk Console.tellsApart,
    Courier.noCrossTalk Directory.tellsApart, Courier.noCrossTalk Plain.tellsApart⟩, ?_⟩
  intro config net as i ticket p r hi ho
  have hw : World.Asking Expects ((launch config net).perform as) :=
    (World.Asking.of_make rfl rfl).perform client_asksFor as
  obtain ⟨q, hq, ha⟩ := hw.answers tellsApart hi ho
  refine resume_ne_unexpected ?_
  have hk := ha.kind
  rw [answerKind?_eq] at hk
  exact (Option.some.inj hk).symm.trans hq

theorem challenge_fits_its_request :
    let home : SocketAddress := .v6 ⟨0, 0, 0, 0, 0, 0, 0, 1⟩ 1 0 0
    let as : List (World.Act client) := [.start (.challenge home .rules), .task .worker,
      .signal (.delivery (.ok ⟨home, .challenge 7⟩))]
    let w := (launch {} { up := false }).perform as
    let m := (Courier.make {} : Courier Plain.protocol).run
      [.send Courier.ping true, .work, .accept (.ok Courier.ping)]
    (∃ r, w.courier.outcomeOf? (.ok 0) = some (.ok r) ∧
      Call.resume (.challenge home none) (.ok r) ≠ Call.unexpected r) ∧
    m.outcome? 0 = some (.ok Courier.ping) ∧
      ∃ t, m.desk.tickets[0]? = some t ∧ Answers Plain.protocol t.request Courier.ping := by
  intro home as w m
  obtain ⟨⟨-, -, -, hplain⟩, hcalls⟩ := responses_fit_their_requests
  have hok : (w.courier.outcomeOf? (.ok 0)).any Except.isOk = true := by decide +kernel
  have hping : m.outcome? 0 = some (.ok Courier.ping) := by decide +kernel
  refine ⟨?_, hping, hplain {} _ 0 Courier.ping hping⟩
  obtain ⟨o, ho, hr⟩ := Option.any_eq_true _ _ |>.1 hok
  cases o with
  | error e => cases hr
  | ok r => exact ⟨r, ho, hcalls {} { up := false } as 0 (.ok 0) _ r rfl ho⟩

end GameServers.Inquiry
