import GameServers.Directory.Page

namespace GameServers.Directory

/-- A listing that waits for a page. -/
structure Listing where
  found : List Endpoint := []
  seed : Endpoint := terminator
  /-- How often the present page was asked for again. -/
  attempts : Nat := 0
  deriving DecidableEq, Repr

namespace Listing

/-- Each page's last address is the seed of the next page, until a page ends in the terminator or in
its own seed, or is empty. -/
inductive Next
  | ask (l : Listing)
  | done (found : List Endpoint)
  deriving DecidableEq, Repr

/-- The addresses of a page that count as found: a directory may repeat the seed. -/
def fresh (l : Listing) (servers : List Endpoint) : List Endpoint :=
  servers.filter fun s ↦ s ≠ l.seed ∧ s ≠ terminator

def onPage (l : Listing) (servers : List Endpoint) : Next :=
  let found := l.found ++ l.fresh servers
  match servers.getLast? with
  | none => .done found
  | some last =>
    if last ≠ terminator ∧ last ≠ l.seed then .ask { found, seed := last } else .done found

/-- Asks for the same page again, at most `retries` times; then what was found stands. -/
def onTimeout (retries : Nat) (l : Listing) : Next :=
  if l.attempts < retries then .ask { l with attempts := l.attempts + 1 } else .done l.found

end Listing

end GameServers.Directory
