import GameServers.Proofs.Directory.Exact
import Mathlib.Data.Fintype.Pigeonhole

namespace GameServers.Directory

open World (Act)

variable {f : Endpoint → List Endpoint} {j k n : Nat} {s : Endpoint}

def next? (f : Endpoint → List Endpoint) (seed : Endpoint) : Option Endpoint :=
  match (f seed).getLast? with
  | none => none
  | some last => if last ≠ terminator ∧ last ≠ seed then some last else none

def seedAt (f : Endpoint → List Endpoint) : Nat → Option Endpoint
  | 0 => some terminator
  | k + 1 => (seedAt f k).bind (next? f)

/-- A page is the last one, and none before it is. -/
def EndsAt (f : Endpoint → List Endpoint) (n : Nat) : Prop :=
  seedAt f n = none ∧ ∀ k < n, seedAt f k ≠ none

def ComesBack (f : Endpoint → List Endpoint) : Prop :=
  ∃ j k s, j < k ∧ seedAt f j = some s ∧ seedAt f k = some s

theorem seedAt_add (h : seedAt f j = seedAt f k) (m : Nat) : seedAt f (j + m) = seedAt f (k + m) := by
  induction m with
  | zero => exact h
  | succ m ih => exact congrArg (·.bind (next? f)) ih

theorem seedAt_eq_none_of_le (h : seedAt f j = none) (hle : j ≤ k) : seedAt f k = none := by
  induction hle with
  | refl => exact h
  | step hle ih => rw [seedAt, ih]; rfl

theorem EndsAt.lt_of_some (h : EndsAt f n) (hk : seedAt f k = some s) : k < n := by
  by_contra hle
  cases hk.symm.trans (seedAt_eq_none_of_le h.1 (by omega))

theorem EndsAt.unique (h : EndsAt f n) (h' : EndsAt f k) : n = k := by
  apply le_antisymm
  · by_contra hlt
    exact h.2 k (by omega) h'.1
  · by_contra hlt
    exact h'.2 n (by omega) h.1

theorem ComesBack.seedAt_ne_none (h : ComesBack f) (m : Nat) : seedAt f m ≠ none := by
  intro hm
  obtain ⟨j, k, s, hlt, hj, hk⟩ := h
  -- The seeds repeat with a period of `k - j`, so that `s` comes back however late.
  have hround (t : Nat) : seedAt f (j + t * (k - j)) = some s := by
    induction t with
    | zero => simpa using hj
    | succ t ih =>
      have hperiod := seedAt_add (hj.trans hk.symm) (t * (k - j))
      have hsum : j + (t + 1) * (k - j) = k + t * (k - j) := by
        rw [Nat.add_mul, Nat.one_mul]
        omega
      rw [hsum, ← hperiod, ih]
  have hle : m ≤ j + m * (k - j) := by
    have : m * 1 ≤ m * (k - j) := Nat.mul_le_mul_left m (by omega)
    omega
  have hnone := seedAt_eq_none_of_le hm hle
  rw [hround m] at hnone
  cases hnone

def number (e : Endpoint) : Nat :=
  (((e.ip.a.toNat * 256 + e.ip.b.toNat) * 256 + e.ip.c.toNat) * 256 + e.ip.d.toNat) * 65536 +
    e.port.toNat

theorem number_lt (e : Endpoint) : number e < 2 ^ 48 := by
  have ha := e.ip.a.toNat_lt
  have hb := e.ip.b.toNat_lt
  have hc := e.ip.c.toNat_lt
  have hd := e.ip.d.toNat_lt
  have hp := e.port.toNat_lt
  unfold number
  omega

theorem number_injective {e e' : Endpoint} (h : number e = number e') : e = e' := by
  obtain ⟨⟨a, b, c, d⟩, p⟩ := e
  obtain ⟨⟨a', b', c', d'⟩, p'⟩ := e'
  simp only [number] at h
  have hp := p.toNat_lt
  have hp' := p'.toNat_lt
  have hb := b.toNat_lt
  have hb' := b'.toNat_lt
  have hc := c.toNat_lt
  have hc' := c'.toNat_lt
  have hd := d.toNat_lt
  have hd' := d'.toNat_lt
  obtain rfl : p = p' := UInt16.toNat_inj.1 (by omega)
  obtain rfl : d = d' := UInt8.toNat_inj.1 (by omega)
  obtain rfl : c = c' := UInt8.toNat_inj.1 (by omega)
  obtain rfl : b = b' := UInt8.toNat_inj.1 (by omega)
  obtain rfl : a = a' := UInt8.toNat_inj.1 (by omega)
  rfl

theorem endsAt_of_not_comesBack (h : ¬ ComesBack f) : ∃ n ≤ 2 ^ 48, EndsAt f n := by
  have hnone : ∃ n ≤ 2 ^ 48, seedAt f n = none := by
    by_contra hall
    -- More seeds than addresses, so two of them are the same.
    have hsome (k : Fin (2 ^ 48 + 1)) : ∃ s, seedAt f k = some s := by
      refine Option.ne_none_iff_exists'.1 fun hk ↦ hall ⟨k, ?_, hk⟩
      have := k.isLt
      omega
    choose g hg using hsome
    obtain ⟨x, y, hxy, he⟩ := Fintype.exists_ne_map_eq_of_card_lt
      (fun k ↦ (⟨number (g k), number_lt (g k)⟩ : Fin (2 ^ 48))) (by simp)
    have hsame : g x = g y := number_injective (congrArg Fin.val he)
    rcases lt_or_gt_of_ne (Fin.val_ne_of_ne hxy) with hlt | hgt
    · exact h ⟨x, y, g x, hlt, hg x, hsame ▸ hg y⟩
    · exact h ⟨y, x, g y, hgt, hg y, hsame ▸ hg x⟩
  obtain ⟨n, hle, hn⟩ := hnone
  have hex : ∃ n, seedAt f n = none := ⟨n, hn⟩
  exact ⟨Nat.find hex, (Nat.find_min' hex hn).trans hle, Nat.find_spec hex, fun k ↦ Nat.find_min hex⟩

variable {master : SocketAddress}

theorem next?_of_onPage (l : Listing) : match l.onPage (f l.seed) with
    | .ask l' => next? f l.seed = some l'.seed
    | .done _ => next? f l.seed = none := by
  unfold next?
  simp only [Listing.onPage]
  cases (f l.seed).getLast? with
  | none => rfl
  | some last =>
    by_cases h : last ≠ terminator ∧ last ≠ l.seed
    · simp only [if_pos h]
    · simp only [if_neg h]

theorem stages_of_seeds (f : Endpoint → List Endpoint) (master : SocketAddress) :
    Stages (fun q r ↦ q.master = master ∧ Gives f master q r)
      (fun k l ↦ seedAt f k = some l.seed) (fun n _ ↦ EndsAt f n) where
  start := rfl
  again _ h := h
  page {k p r} h hr := by
    have hpage : r.servers = f p.listing.seed := hr.2 hr.1
    have hnext := next?_of_onPage (f := f) p.listing
    have hseed : seedAt f (k + 1) = next? f p.listing.seed := by
      rw [seedAt, h]
      rfl
    rw [hpage]
    cases hp : p.listing.onPage (f p.listing.seed) with
    | ask l =>
      rw [hp] at hnext
      exact hseed.trans hnext
    | done found =>
      rw [hp] at hnext
      refine ⟨hseed.trans hnext, fun j hj hn ↦ ?_⟩
      cases h.symm.trans (seedAt_eq_none_of_le hn (by omega))

/-- Where a listing stands with its seeds. -/
abbrev SeedStands (f : Endpoint → List Endpoint) (retries : Nat) (bs : List Bool)
    (turn : Turn protocol Pending Result) : Prop :=
  Stands retries (fun k l ↦ seedAt f k = some l.seed) (fun n _ ↦ EndsAt f n) bs turn

variable {retries : Nat} {bs : List Bool} {turn : Turn protocol Pending Result}

/-- A listing whose seeds never end does not end before it gives up. -/
theorem SeedStands.asks (h : SeedStands f retries bs turn) (hall : ∀ n, seedAt f n ≠ none)
    (hg : ¬ GivesUp retries bs) :
    ∃ q p, turn = .ask q p ∧ seedAt f (bs.count true) = some p.listing.seed := by
  cases h with
  | asks q p hl => exact ⟨q, p, rfl, hl⟩
  | ends found hd => exact absurd hd.1 (hall _)
  | gaveUp l cs hl hbs hcs hgu => exact absurd hgu hg

theorem SeedStands.count_cases (h : SeedStands f retries bs turn) (hn : EndsAt f n) :
    bs.count true < n ∨ bs.count true = n ∧ ∃ found, turn = .answer ⟨.ok found, found⟩ := by
  cases h with
  | asks q p hl => exact .inl (hn.lt_of_some hl)
  | ends found hd => exact .inr ⟨hd.unique hn, found, rfl⟩
  | gaveUp l cs hl => exact .inl (hn.lt_of_some hl)

theorem SeedStands.length_le (h : SeedStands f retries bs turn) (hn : EndsAt f n) :
    bs.length + turn.request?.toList.length ≤ (retries + 1) * n := by
  have hmul {k : Nat} (hk : k < n) : (retries + 1) * k + (retries + 1) ≤ (retries + 1) * n :=
    Nat.mul_le_mul_left (retries + 1) hk
  cases h with
  | asks q p hl ha hg =>
    have hle := Directory.length_le hg
    have hlost := lostLately_le hg
    have hbound := hmul (hn.lt_of_some hl)
    change bs.length + 1 ≤ _
    omega
  | ends found hd ha hg =>
    have hle := Directory.length_le hg
    rw [hd.unique hn, ha] at hle
    exact hle
  | gaveUp l cs hl hbs hcs hg =>
    have hle := Directory.length_le hcs
    have hlost := lostLately_le hcs
    have hcount : bs.count true = cs.count true := by simp [hbs]
    have hlen : bs.length = cs.length + 1 := by simp [hbs]
    have hbound := hmul (hn.lt_of_some hl)
    rw [hcount] at hbound
    change bs.length + 0 ≤ _
    omega

/-- A listing whose requests are answered with the pages for their seeds, if at all, has returned or
can go on. It returns when it gives up. If no seed comes back, it makes a bounded number of requests
and returns with the page of the last seed; if one does, it does not return before it gives up. -/
theorem listing_ends_unless_seed_returns (f : Endpoint → List Endpoint) (config : Config)
    (retries : Nat) (net : Network) (before after : List (Act client)) (call : Call)
    (master : SocketAddress) (hopen : ∀ a ∈ before, a ≠ .close)
    (hsolo : Solo ((launch config retries net).perform before) call master after)
    (hpages : World.InTime (Gives f master) (launch config retries net)
      (before ++ .start call :: after)) :
    let w := (launch config retries net).perform before
    let w' := (launch config retries net).perform (before ++ .start call :: after)
    let i := w.calls.length
    let bs := answered (World.resumptions i (w.act (.start call)) after)
    ((∃ found, Returns w' i found) ∨ ∃ p : Pending, p.master = master ∧
        w'.Shows i (.ask p.request p) ∧ w'.GoesOn i p.request p) ∧
      (GivesUp retries bs → ∃ found, Returns w' i found) ∧
      (¬ ComesBack f → ∃ n ≤ 2 ^ 48, EndsAt f n ∧ bs.count true ≤ n ∧
        w'.requests.length ≤ w.requests.length + (retries + 1) * n ∧
        (bs.count true = n → ∃ found, Returns w' i found)) ∧
      (ComesBack f → ¬ GivesUp retries bs → ∀ result, w'.calls[i]? ≠ some (.over result)) := by
  intro w w' i bs
  obtain ⟨turn, hstands, hmaster, hshows, -, hreq, hgo⟩ :=
    listing_stands (stages_of_seeds f master) hopen hsolo hpages
  have hstands : SeedStands f retries bs turn := hstands
  refine ⟨?_, fun hg ↦ ?_, fun hb ↦ ?_, fun hb hg result hover ↦ ?_⟩
  · cases hstands with
    | asks q p =>
      obtain ⟨rfl, hp⟩ := hmaster
      exact .inr ⟨p, hp, hshows, hgo _ p rfl⟩
    | ends found => exact .inl ⟨found, hshows⟩
    | gaveUp l => exact .inl ⟨l.found, hshows⟩
  · cases hstands with
    | asks q p hl ha hn => exact absurd hg hn
    | ends found hd ha hn => exact absurd hg hn
    | gaveUp l => exact ⟨l.found, hshows⟩
  · obtain ⟨n, hle, hn⟩ := endsAt_of_not_comesBack hb
    have hbound : w'.requests.length ≤ w.requests.length + (retries + 1) * n := by
      have hbs : bs.length = (World.resumptions i (w.act (.start call)) after).length :=
        List.length_map _
      rw [hreq, ← hbs]
      exact Nat.add_le_add_left (hstands.length_le hn) _
    rcases hstands.count_cases hn with hlt | ⟨heq, found, rfl⟩
    · exact ⟨n, hle, hn, hlt.le, hbound, fun h ↦ absurd h hlt.ne⟩
    · exact ⟨n, hle, hn, heq.le, hbound, fun _ ↦ ⟨found, hshows⟩⟩
  · obtain ⟨q, p, rfl, -⟩ := hstands.asks hb.seedAt_ne_none hg
    obtain ⟨ticket, hi, -⟩ := hshows
    cases hi.symm.trans hover

theorem endsAt_pageOfThree : EndsAt pageOfThree 2 := ⟨rfl, by decide⟩

theorem listing_ends_with_three :
    let w := (launch {} 0 network).perform []
    let w' := (launch {} 0 network).perform ([] ++ .start listAll :: punctual)
    ¬ ComesBack pageOfThree ∧ w'.requests.length ≤ w.requests.length + (0 + 1) * 2 ∧
      ∃ found, Returns w' w.calls.length found := by
  intro w w'
  have hback : ¬ ComesBack pageOfThree := fun h ↦ h.seedAt_ne_none 2 endsAt_pageOfThree.1
  obtain ⟨-, -, hends, -⟩ := listing_ends_unless_seed_returns pageOfThree {} 0 network [] punctual
    listAll home (by simp) solo_of_punctual gives_of_punctual
  obtain ⟨n, -, hn, -, hbound, hreturns⟩ := hends hback
  obtain rfl := hn.unique endsAt_pageOfThree
  exact ⟨hback, hbound, hreturns (congrArg (List.count true) answered_of_punctual)⟩

def rounds (f : Endpoint → List Endpoint) (master : SocketAddress) (i : Nat) :
    Nat → List (Act client)
  | 0 => []
  | n + 1 => rounds f master i n ++
    World.round (c := client) i ⟨master, f ((seedAt f n).getD terminator)⟩

theorem rounds_go (f : Endpoint → List Endpoint) (config : Config) (retries : Nat) (net : Network)
    (before : List (Act client)) (call : Call) (master : SocketAddress) (hopen : ∀ a ∈ before, a ≠ .close)
    (hm : locate ((launch config retries net).perform before).net call.source = .ok master)
    (hidle : ((launch config retries net).perform before).Idle)
    (hall : ∀ n, seedAt f n ≠ none)
    (hbefore : World.InTime (Gives f master) (launch config retries net) before) (n : Nat) :
    let w := (launch config retries net).perform before
    let as := rounds f master w.calls.length n
    Solo w call master as ∧
      World.InTime (Gives f master) (launch config retries net) (before ++ .start call :: as) ∧
      answered (World.resumptions w.calls.length (w.act (.start call)) as) = List.replicate n true ∧
      ((w.act (.start call)).perform as).Rests w.calls.length := by
  intro w
  have hw : World.Open Expects w := (launch_open config retries net).perform client_asksFor hopen
  -- Between two rounds the call rests: its request is new, and the next page is its first answer.
  induction n with
  | zero =>
    refine ⟨⟨hm, hidle, by simp [rounds], by simp [rounds, World.resumptions]⟩, ?_, rfl,
      hw.rests_start client_asksFor hidle call⟩
    exact (World.eachArrival_append _ _).2 ⟨hbefore, by simp [World.arrivals], trivial⟩
  | succ n ih =>
    intro as
    obtain ⟨hsolo, hin, hanswered, hrests⟩ := ih
    let k := (w.act (.start call)).perform (rounds f master w.calls.length n)
    have hk : (launch config retries net).perform
        (before ++ .start call :: rounds f master w.calls.length n) = k := by
      rw [World.perform, List.foldl_append]
      rfl
    obtain ⟨turn, hstands, hmaster, hshows, -, -, -⟩ :=
      listing_stands (stages_of_seeds f master) hopen hsolo hin
    rw [hanswered] at hstands
    obtain ⟨q, p, rfl, hseed⟩ := SeedStands.asks hstands hall not_givesUp_replicate
    obtain ⟨rfl, rfl⟩ := hmaster
    rw [List.count_replicate_self] at hseed
    rw [hk] at hshows
    obtain ⟨r, hr⟩ : ∃ r : Response, r = ⟨p.master, f p.listing.seed⟩ := ⟨_, rfl⟩
    have has : as = rounds f p.master w.calls.length n ++
        World.round (c := client) w.calls.length r := by
      change rounds f p.master w.calls.length n ++ _ = _
      rw [hseed, hr]
      rfl
    obtain ⟨hres, hsolo', hrests'⟩ := hsolo.page hw hshows hrests _ hr
    rw [has]
    refine ⟨hsolo', ?_, ?_, hrests'⟩
    · rw [← List.cons_append, ← List.append_assoc]
      refine (World.eachArrival_append _ _).2 ⟨hin, ?_⟩
      rw [hk]
      exact (hsolo.alone hw).1.inTime_round hshows client_asksFor
        fun _ ↦ congrArg Response.servers hr
    · rw [hres, answered_concat, hanswered]
      exact List.replicate_succ'.symm

/-- A directory that after the first seed goes round between two servers. -/
def circle (seed : Endpoint) : List Endpoint :=
  if seed = ⟨⟨10, 0, 0, 1⟩, 1⟩ then [⟨⟨10, 0, 0, 2⟩, 2⟩] else [⟨⟨10, 0, 0, 1⟩, 1⟩]

theorem circle_comesBack : ComesBack circle :=
  ⟨1, 3, ⟨⟨10, 0, 0, 1⟩, 1⟩, by decide, by decide, by decide⟩

/-- Here every request is answered at once with the page for its seed, and there is no end of
requests. -/
theorem circle_goes_round : ∃ run : Nat → List (Act client), ∀ n,
    let w := launch {} 0 network
    let w' := w.perform (.start listAll :: run n)
    run n <+: run (n + 1) ∧ World.InTime (Gives circle home) w (.start listAll :: run n) ∧
      answered (World.resumptions 0 (w.act (.start listAll)) (run n)) = List.replicate n true ∧
      w'.requests.length = n + 1 ∧ ∀ result, w'.calls[0]? ≠ some (.over result) := by
  refine ⟨rounds circle home 0, fun n ↦ ?_⟩
  intro w w'
  obtain ⟨hsolo, hin, hanswered, -⟩ := rounds_go circle {} 0 network [] listAll home (by simp) rfl
    (fun i ticket p hi ↦ by cases hi) circle_comesBack.seedAt_ne_none trivial n
  obtain ⟨turn, hstands, -, hshows, -, hreq, -⟩ :=
    listing_stands (stages_of_seeds circle home) (by simp) hsolo hin
  rw [hanswered] at hstands
  obtain ⟨q, p, rfl, -⟩ := SeedStands.asks hstands circle_comesBack.seedAt_ne_none
    not_givesUp_replicate
  refine ⟨List.prefix_append _ _, hin, hanswered, ?_, fun result hover ↦ ?_⟩
  · have hbs := congrArg List.length hanswered
    rw [answered, List.length_map, List.length_replicate] at hbs
    exact hreq.trans (by rw [hbs]; exact Nat.zero_add _)
  · obtain ⟨ticket, hi, -⟩ := hshows
    cases hi.symm.trans hover

end GameServers.Directory
