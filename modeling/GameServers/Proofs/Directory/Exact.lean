import GameServers.Proofs.Directory.Lateness
import GameServers.Proofs.Directory.Losses
import Mathlib.Data.Bool.Count

namespace GameServers.Directory

open World (Act)

variable {servers page : List Endpoint} {master : SocketAddress} {k size : Nat}

/-- How many pages hold all servers: no page is left out, not even the first one of no servers. -/
def pageCount (servers : List Endpoint) (size : Nat) : Nat :=
  max 1 ((servers.length + size - 1) / size)

theorem lt_pageCount (hsize : 0 < size) (h : size * k + size < servers.length) :
    k + 1 < pageCount servers size := by
  have hle : k + 2 ≤ (servers.length + size - 1) / size := by
    rw [Nat.le_div_iff_mul_le hsize, Nat.add_mul, Nat.mul_comm k size]
    omega
  exact lt_of_lt_of_le (by omega) (hle.trans (le_max_right _ _))

theorem eq_pageCount (hsize : 0 < size) (hk : k < pageCount servers size)
    (h : servers.length ≤ size * k + size) : k + 1 = pageCount servers size := by
  have hlt : (servers.length + size - 1) / size < k + 2 := by
    rw [Nat.div_lt_iff_lt_mul hsize, Nat.add_mul, Nat.mul_comm k size]
    omega
  have hle : pageCount servers size ≤ k + 1 := max_le (by omega) (by omega)
  omega

theorem length_le_pageCount (hsize : 0 < size) : servers.length ≤ size * pageCount servers size := by
  have hlt : (servers.length + size - 1) / size < pageCount servers size + 1 :=
    Nat.lt_succ_of_le (le_max_right _ _)
  rw [Nat.div_lt_iff_lt_mul hsize, Nat.add_mul, Nat.mul_comm _ size] at hlt
  omega

/-- Each page but the last brings the next servers, and the last one ends the listing. -/
theorem stages_of_pages (master : SocketAddress) (hn : (terminator :: servers).Nodup) (hsize : 0 < size) :
    Stages (fun q r ↦ q.master = master ∧ IsAnswered servers size master q r)
      (fun k l ↦ l.At servers (size * k) ∧ k < pageCount servers size)
      (fun k found ↦ found = servers ∧ k = pageCount servers size) where
  start := ⟨.start servers, Nat.lt_of_lt_of_le Nat.one_pos (le_max_left _ _)⟩
  again _ h := ⟨⟨h.1.found, h.1.seed⟩, h.2⟩
  page {k p r} h hr := by
    have hp : IsPage servers size p.listing.seed r.servers := hr.2 hr.1
    rcases Nat.lt_or_ge (size * k + size) servers.length with hlt | hge
    · obtain ⟨l, hl, hat, -⟩ := h.1.onPage_of_lt hn hsize hp hlt
      rw [hl]
      exact ⟨hat, lt_pageCount hsize hlt⟩
    · rw [h.1.onPage_of_le hn hp hge]
      exact ⟨rfl, eq_pageCount hsize h.2 hge⟩

def Returns (w : World client) (i : Nat) (found : List Endpoint) : Prop :=
  w.calls[i]? = some (.over ⟨.ok found, found⟩)

/-- If no page comes while the call waits for another one, and nothing happens to its requests but
that answers are lost, then what the call finds are the servers of the pages that came. It returns
them when it gives up. Otherwise it gets page by page until it has them all, and has then asked once
for each page and once more for each answer that was lost; before that, it can always go on. -/
theorem listing_is_exact (servers : List Endpoint) (hn : servers.Nodup) (hT : terminator ∉ servers)
    (size : Nat) (hsize : 0 < size) (config : Config) (retries : Nat) (net : Network)
    (before after : List (Act client)) (call : Call) (master : SocketAddress)
    (hopen : ∀ a ∈ before, a ≠ .close)
    (hsolo : Solo ((launch config retries net).perform before) call master after)
    (hpages : World.InTime (IsAnswered servers size master) (launch config retries net)
      (before ++ .start call :: after)) :
    let w := (launch config retries net).perform before
    let w' := (launch config retries net).perform (before ++ .start call :: after)
    let i := w.calls.length
    let bs := answered (World.resumptions i (w.act (.start call)) after)
    let part := servers.take (size * bs.count true)
    let asked := w.requests.length
    heardIn i (w.act (.start call)) after = part ∧
      (GivesUp retries bs → Returns w' i part ∧ w'.requests.length = asked + bs.length) ∧
      (¬ GivesUp retries bs → bs.count true ≤ pageCount servers size ∧
        (bs.count true = pageCount servers size → part = servers ∧ Returns w' i servers ∧
          w'.requests.length = asked + pageCount servers size + bs.count false) ∧
        (bs.count true < pageCount servers size → ∃ p : Pending, p.master = master ∧
          w'.Shows i (.ask p.request p) ∧ w'.GoesOn i p.request p)) := by
  intro w w' i bs part asked
  have hs := stages_of_pages master (List.nodup_cons.2 ⟨hT, hn⟩) hsize
  obtain ⟨turn, hstands, hmaster, hshows, hfound, hreq, hgo⟩ := listing_stands hs hopen hsolo hpages
  have hbs : bs.length = (World.resumptions i (w.act (.start call)) after).length :=
    List.length_map _
  have hlen : w'.requests.length = asked + bs.length + turn.request?.toList.length := by
    rw [hreq, hbs, Nat.add_assoc]
  cases hstands with
  | asks q p hl ha hg =>
    obtain ⟨rfl, hp⟩ := hmaster
    refine ⟨hfound.symm.trans hl.1.found, fun h ↦ absurd h hg, fun _ ↦ ⟨hl.2.le, fun h ↦ ?_, fun _ ↦ ?_⟩⟩
    · exact absurd h hl.2.ne
    · exact ⟨p, hp, hshows, hgo _ p rfl⟩
  | ends found hd ha hg =>
    obtain ⟨rfl, hcount⟩ := hd
    have hpart : part = found :=
      List.take_of_length_le (hcount ▸ length_le_pageCount hsize)
    refine ⟨hfound.symm.trans hpart.symm, fun h ↦ absurd h hg, fun _ ↦ ⟨hcount.le, fun _ ↦ ?_, fun h ↦ ?_⟩⟩
    · refine ⟨hpart, hshows, ?_⟩
      have hsum : bs.count true + bs.count false = bs.length := List.count_true_add_count_false bs
      rw [hlen, ← hsum, hcount, ← Nat.add_assoc]
      rfl
    · exact absurd hcount h.ne
  | gaveUp l cs hl hbs hcs hg =>
    have hpart : l.found = part := hl.1.found
    refine ⟨hfound.symm.trans hpart, fun _ ↦ ⟨hpart ▸ hshows, hlen⟩, fun h ↦ absurd hg h⟩

theorem answered_of_punctual :
    let w := (launch {} 0 network).perform []
    answered (World.resumptions w.calls.length (w.act (.start listAll)) punctual) =
      [true, true] := by
  cbv

theorem solo_of_punctual : Solo ((launch {} 0 network).perform []) listAll home punctual where
  located := rfl
  idle i ticket p hi := by cases hi
  continues := by simp [punctual, World.Act.Continues, pageComes]
  fair x hx := by
    have hmem : x.outcome.isOk ∈ answered _ := List.mem_map_of_mem hx
    have hall : x.outcome.isOk ∈ [true, true] := answered_of_punctual ▸ hmem
    exact isFair_of_isOk (by simpa using hall)

theorem pattern_of_three (retries : Nat) (bs : List Bool)
    (hasks : ∀ n < bs.length, ¬ GivesUp retries (bs.take n) ∧ (bs.take n).count true < 2) :
    let w := (launch {} retries network).perform []
    ∃ as, Solo w listAll home as ∧
      World.InTime (IsAnswered three 2 home) (launch {} retries network)
        ([] ++ .start listAll :: as) ∧
      answered (World.resumptions w.calls.length (w.act (.start listAll)) as) = bs := by
  have hs := stages_of_pages home (show (terminator :: three).Nodup by decide) (Nat.succ_pos 1)
  have hG (p : Pending) (_ : p.master = home) :
      ∃ page, IsAnswered three 2 home p.request ⟨home, page⟩ := ⟨_, fun _ ↦ .inr rfl⟩
  have hopen (n : Nat) (hn : n < bs.length) : ¬ GivesUp retries (bs.take n) ∧
      ∀ found, ¬ (found = three ∧ (bs.take n).count true = pageCount three 2) :=
    ⟨(hasks n hn).1, fun _ hd ↦ (hasks n hn).2.ne hd.2⟩
  have hnone : ∀ a ∈ ([] : List (Act client)), a ≠ .close := by simp
  have hhome : locate ((launch {} retries network).perform []).net listAll.source = .ok home := rfl
  have hidle : ((launch {} retries network).perform []).Idle := fun i ticket p hi ↦ by cases hi
  obtain ⟨as, hsolo, hin, hanswered, -⟩ := pattern_occurs hs hG hnone hhome hidle trivial bs hopen
  exact ⟨as, hsolo, hin, hanswered⟩

/-- No answer is lost in the first listing. In the second one an answer is lost before each page, and
the third one gives up after the first page. -/
theorem listing_is_exact_for_three :
    let w (retries : Nat) := (launch {} retries network).perform []
    let lost (retries : Nat) (as : List (Act client)) :=
      answered (World.resumptions (w retries).calls.length ((w retries).act (.start listAll)) as)
    let returns (retries : Nat) (as : List (Act client)) (found : List Endpoint) (asked : Nat) :=
      let w' := (launch {} retries network).perform ([] ++ .start listAll :: as)
      heardIn (w retries).calls.length ((w retries).act (.start listAll)) as = found ∧
        Returns w' (w retries).calls.length found ∧
        w'.requests.length = (w retries).requests.length + asked
    (lost 0 punctual = [true, true] ∧ returns 0 punctual three (2 + 0)) ∧
      (∃ as, lost 1 as = [false, true, false, true] ∧ returns 1 as three (2 + 2)) ∧
      ∃ as, lost 1 as = [true, false, false] ∧ returns 1 as (three.take 2) 3 := by
  intro w lost returns
  refine ⟨?_, ?_, ?_⟩
  · have hbs := answered_of_punctual
    obtain ⟨hheard, -, hexact⟩ := listing_is_exact three (by decide) (by decide) 2 (by decide) {} 0
      network [] punctual listAll home (by simp) solo_of_punctual
      (isAnswered_of_gives gives_of_punctual)
    rw [hbs] at hheard hexact
    obtain ⟨-, hreturns, hasked⟩ := (hexact (by decide)).2.1 (by decide)
    exact ⟨hbs, hheard, hreturns, hasked⟩
  · obtain ⟨as, hsolo, hin, hbs⟩ := pattern_of_three 1 [false, true, false, true] (by decide)
    obtain ⟨hheard, -, hexact⟩ := listing_is_exact three (by decide) (by decide) 2 (by decide) {} 1
      network [] as listAll home (by simp) hsolo hin
    rw [hbs] at hheard hexact
    obtain ⟨-, hreturns, hasked⟩ := (hexact (by decide)).2.1 (by decide)
    exact ⟨as, hbs, hheard, hreturns, hasked⟩
  · obtain ⟨as, hsolo, hin, hbs⟩ := pattern_of_three 1 [true, false, false] (by decide)
    obtain ⟨hheard, hgaveUp, -⟩ := listing_is_exact three (by decide) (by decide) 2 (by decide) {} 1
      network [] as listAll home (by simp) hsolo hin
    rw [hbs] at hheard hgaveUp
    obtain ⟨hreturns, hasked⟩ := hgaveUp (by decide)
    exact ⟨as, hbs, hheard, hreturns, hasked⟩

end GameServers.Directory
