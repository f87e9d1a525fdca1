import GameServers.SessionId

namespace GameServers

structure Session where
  id : SessionId
  /-- Place in the order of all registrations. -/
  index : Nat
  ticket : Nat
  registeredAt : Nat
  deriving DecidableEq, Repr

/-- All sessions under one id, oldest first. -/
structure Bucket where
  id : SessionId
  sessions : List Session
  deriving DecidableEq, Repr

/-- Sessions of requests that wait for an answer, filed by their ids. Several sessions may share an
id; they are kept in the order of their registration. -/
structure Registry where
  /-- In the order of their ids. -/
  buckets : List Bucket := []
  deriving DecidableEq, Repr

namespace Registry

def entries (r : Registry) : List Session := r.buckets.flatMap Bucket.sessions

def size (r : Registry) : Nat := r.entries.length

def bucket (r : Registry) (id : SessionId) : List Session :=
  match r.buckets.find? (·.id = id) with
  | some b => b.sessions
  | none => []

def oldest? (r : Registry) (id : SessionId) : Option Session := (r.bucket id).head?

def find? (r : Registry) (id : SessionId) (index : Nat) : Option Session :=
  (r.bucket id).find? (·.index = index)

/-- Puts the newest session at the end of its bucket. -/
def fileIn (s : Session) : List Bucket → List Bucket
  | [] => [⟨s.id, [s]⟩]
  | b :: bs =>
    if b.id = s.id then { b with sessions := b.sessions ++ [s] } :: bs
    else if s.id.le b.id then ⟨s.id, [s]⟩ :: b :: bs
    else b :: fileIn s bs

def file (r : Registry) (s : Session) : Registry := ⟨fileIn s r.buckets⟩

def Bucket.without (b : Bucket) (index : Nat) : Option Bucket :=
  match b.sessions.filter (·.index ≠ index) with
  | [] => none
  | rest => some { b with sessions := rest }

def remove (r : Registry) (s : Session) : Registry :=
  ⟨r.buckets.filterMap fun b ↦ if b.id = s.id then Bucket.without b s.index else some b⟩

end Registry

end GameServers
