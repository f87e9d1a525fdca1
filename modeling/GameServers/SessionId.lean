namespace GameServers

/-- The key under which a request waits for its answer. It holds upper-case letters only, so that
the id of a request and the id of its answer are the same text. -/
structure SessionId where
  text : String
  deriving DecidableEq, Repr, Hashable

namespace SessionId

/-- Letters of ASCII are put in upper case; other characters stay as they are. -/
def ofText (s : String) : SessionId := ⟨s.map Char.toUpper⟩

def describe (id : SessionId) : String := "SessionId(" ++ id.text ++ ")"

/-- Ids are listed in the order of their bytes. -/
def le (a b : SessionId) : Bool := decide (a.text ≤ b.text)

end SessionId

end GameServers
