import GameServers.Bytes
import GameServers.Failure

namespace GameServers

/-- Kinds of messages, which kind answers which, where a message goes to or comes from, and its wire
format. -/
structure Protocol where
  Kind : Type
  Request : Type
  Response : Type
  kindEq : DecidableEq Kind
  /-- The kind as session ids and messages show it. -/
  kindText : Kind → String
  /-- Each kind of request that is answered, with the kind of its answer. -/
  answers : List (Kind × Kind)
  requestKind : Request → Kind
  responseKind : Response → Kind
  recipient : Request → Option SocketAddress
  sender : Response → Option SocketAddress
  /-- The number that tells apart the exchanges with one server, where there is one. -/
  requestNumber : Request → Option Int32
  responseNumber : Response → Option Int32
  requestText : Request → String
  responseText : Response → String
  encode : Request → Except Failure Bytes
  decode : Bytes → SocketAddress → Except Failure Response

instance (P : Protocol) : DecidableEq P.Kind := P.kindEq

namespace Protocol

variable (P : Protocol)

def answerKind? (k : P.Kind) : Option P.Kind :=
  (P.answers.find? fun p ↦ p.1 = k).map Prod.snd

end Protocol

inductive Envelope (P : Protocol)
  | request (r : P.Request)
  | response (r : P.Response)

namespace Envelope

variable {P : Protocol}

def kind : Envelope P → P.Kind
  | request r => P.requestKind r
  | response r => P.responseKind r

def number : Envelope P → Option Int32
  | request r => P.requestNumber r
  | response r => P.responseNumber r

def remote : Envelope P → Option SocketAddress
  | request r => P.recipient r
  | response r => P.sender r

def describe : Envelope P → String
  | request r => Text.tuple "Request" [P.requestText r]
  | response r => Text.tuple "Response" [P.responseText r]

/-- The kind of answer that the message is, or waits for. -/
def answerKind : Envelope P → Except Failure P.Kind
  | request r => match P.answerKind? (P.requestKind r) with
    | some k => .ok k
    | none => .error (.unmappedRequest (P.kindText (P.requestKind r)))
  | response r => .ok (P.responseKind r)

def baseId (m : Envelope P) : Except Failure String := do
  let kind ← m.answerKind
  match m.remote with
  | none => .error (.unresolvedAddress m.describe)
  | some a =>
    .ok (P.kindText kind ++ ":" ++ String.ofList a.ip.chars ++ ":" ++ Nat.repr a.port.toNat)

/-- The id under which a request waits, or that an answer looks for. -/
def sessionId (m : Envelope P) : Except Failure SessionId := do
  let base ← m.baseId
  match m.number with
  | none => .ok (SessionId.ofText base)
  | some n => .ok (SessionId.ofText (base ++ ":" ++ intText n))

end Envelope

end GameServers
