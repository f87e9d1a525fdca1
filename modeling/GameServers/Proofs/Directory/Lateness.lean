import GameServers.Proofs.Directory.Calls
import Mathlib

namespace GameServers

namespace World

variable {c : Client}

instance decidableEachArrival (H : World c → c.P.Response → Prop) [∀ w r, Decidable (H w r)] :
    (w : World c) → (as : List (Act c)) → Decidable (EachArrival H w as)
  | _, [] => isTrue trivial
  | w, a :: as =>
    have : Decidable (EachArrival H (w.act a) as) := decidableEachArrival H (w.act a) as
    inferInstanceAs (Decidable (_ ∧ _))

end World

namespace Directory

open World (Act)

def Brings (servers : List Endpoint) (r : Response) : Prop :=
  ∃ size seed, seed ∈ terminator :: servers ∧ IsPage servers size seed r.servers

def IsFrom (servers : List Endpoint) (master : SocketAddress) (r : Response) : Prop :=
  r.master.ip = master.ip → r.master.port = master.port → Brings servers r

def Gets (servers : List Endpoint) (master : SocketAddress) (q : Request) (r : Response) : Prop :=
  q.master = master → Brings servers r

/-- The answer to a request is the page that it asks for. -/
def IsAnswered (servers : List Endpoint) (size : Nat) (master : SocketAddress) (q : Request)
    (r : Response) : Prop :=
  q.master = master → IsPage servers size q.seed r.servers

/-- The answer to a request is the page that a directory has for its seed. -/
def Gives (f : Endpoint → List Endpoint) (master : SocketAddress) (q : Request) (r : Response) :
    Prop :=
  q.master = master → r.servers = f q.seed

/-- The page that a request to a directory asks for, whatever its size. -/
def Fits (servers : List Endpoint) (master : SocketAddress) (q : Request) (r : Response) : Prop :=
  q.master = master → ∃ size, 0 < size ∧ IsPage servers size q.seed r.servers

/-- A call has found some servers so far, or has returned them. -/
def Lists (w : World client) (i : Nat) (found : List Endpoint) : Prop :=
  match w.calls[i]? with
  | some (.waiting _ p) => p.listing.found = found
  | some (.over result) =>
    result.found = found ∧ ∀ servers, result.servers = .ok servers → servers = found
  | _ => False

variable {servers found : List Endpoint} {master : SocketAddress} {w : World client} {i : Nat}
  {first turn : Turn protocol Pending Result} {xs : List (Resumption client)}

theorem lists_of_shows (h : w.Shows i turn) (hb : BelongsTo master turn) :
    Lists w i (foundAt turn) := by
  unfold Lists
  cases turn with
  | ask q p =>
    obtain ⟨ticket, hi, -⟩ := h
    rw [hi]
    rfl
  | answer result =>
    have hi : w.calls[i]? = some (.over result) := h
    rw [hi]
    exact ⟨rfl, hb⟩

theorem subset_of_page {l : Listing} {page : List Endpoint} {size : Nat} {seed : Endpoint}
    (hl : ∀ e ∈ l.found, e ∈ servers) (hs : seed ∈ terminator :: servers)
    (hp : IsPage servers size seed page) : ∀ e ∈ (l.onPage page).found, e ∈ servers := by
  intro e he
  rw [Listing.found_onPage] at he
  rcases List.mem_append.1 he with he | he
  · exact hl e he
  · obtain ⟨hpage, -, hT⟩ := Listing.mem_fresh.1 he
    exact (List.mem_cons.1 (hp.subset hs hpage)).resolve_left hT

theorem subset_course
    (h : client.Course (Gets servers master) first xs turn)
    (hf : BelongsTo master first) (hfound : ∀ e ∈ foundAt first, e ∈ servers) :
    ∀ e ∈ foundAt turn, e ∈ servers := by
  induction h with
  | begun => exact hfound
  | goOn x h hx ih =>
    obtain ⟨rfl, hm⟩ := belongsTo_course h hf
    have ih : ∀ e ∈ x.pending.listing.found, e ∈ servers := ih
    rcases turn_move_cases x with ⟨r, ho, ht⟩ | ⟨id, elapsed, -, ht⟩ | ⟨e, -, ht⟩
    · obtain ⟨size, seed, hs, hp⟩ := hx r ho hm
      rw [ht, foundAt_turn]
      exact subset_of_page ih hs hp
    · rw [ht, foundAt_turn, Listing.found_onTimeout]
      exact ih
    · rw [ht]
      exact ih

/-- The listing stands somewhere in the list, or has come to an end with a part of it. -/
def OnTrack (servers : List Endpoint) : Turn protocol Pending Result → Prop
  | .ask _ p => ∃ k, p.listing.At servers k
  | .answer result => result.found <+: servers

theorem OnTrack.foundAt_isPrefix (h : OnTrack servers turn) : foundAt turn <+: servers := by
  cases turn with
  | ask q p =>
    obtain ⟨k, hk⟩ := h
    change p.listing.found <+: servers
    rw [hk.found]
    exact List.take_prefix k servers
  | answer result => exact h

theorem onTrack_onPage {p : Pending} {page : List Endpoint} {k size : Nat}
    (hn : (terminator :: servers).Nodup) (hk : p.listing.At servers k) (hsize : 0 < size)
    (hp : IsPage servers size p.listing.seed page) :
    OnTrack servers (p.turn (p.listing.onPage page)) := by
  rcases Nat.lt_or_ge (k + size) servers.length with hlt | hge
  · obtain ⟨l, hl, hat, -⟩ := hk.onPage_of_lt hn hsize hp hlt
    rw [hl]
    exact ⟨k + size, hat⟩
  · rw [hk.onPage_of_le hn hp hge]
    exact List.prefix_refl servers

theorem onTrack_onTimeout {p : Pending} {k : Nat} (hk : p.listing.At servers k) (retries : Nat) :
    OnTrack servers (p.turn (p.listing.onTimeout retries)) := by
  unfold Listing.onTimeout
  split
  · exact ⟨k, hk.found, hk.seed⟩
  · change p.listing.found <+: servers
    rw [hk.found]
    exact List.take_prefix k servers

/-- Each page that fits its request brings the next servers. -/
theorem onTrack_course (hn : (terminator :: servers).Nodup)
    (h : client.Course (Fits servers master) first xs turn) (hf : BelongsTo master first)
    (hfirst : OnTrack servers first) : OnTrack servers turn := by
  induction h with
  | begun => exact hfirst
  | goOn x h hx ih =>
    obtain ⟨rfl, hm⟩ := belongsTo_course h hf
    obtain ⟨k, hk⟩ := ih
    rcases turn_move_cases x with ⟨r, ho, ht⟩ | ⟨id, elapsed, -, ht⟩ | ⟨e, -, ht⟩
    · obtain ⟨size, hsize, hp⟩ := hx r ho hm
      rw [ht]
      exact onTrack_onPage hn hk hsize hp
    · rw [ht]
      exact onTrack_onTimeout hk _
    · rw [ht]
      change x.pending.listing.found <+: servers
      rw [hk.found]
      exact List.take_prefix k servers

theorem master_eq {q : Request} {r : Response} (h : Answers protocol q r) (hq : q.master = master) :
    r.master.ip = master.ip ∧ r.master.port = master.port := by
  obtain ⟨a, b, ha, hb, hip, hport⟩ := h.address
  obtain rfl : q.master = a := Option.some.inj ha
  obtain rfl : r.master = b := Option.some.inj hb
  rw [← hq]
  exact ⟨hip.symm, hport.symm⟩

def home : SocketAddress := .v4 ⟨127, 0, 0, 1⟩ 7

def network : Network := { up := true, servers := [{ kind := .datagram, port := 7 }] }

def listAll : Call := ⟨.address home, .all, ""⟩

def three : List Endpoint := [⟨⟨10, 0, 0, 1⟩, 1⟩, ⟨⟨10, 0, 0, 2⟩, 2⟩, ⟨⟨10, 0, 0, 3⟩, 3⟩]

/-- Its pages are two servers long, with the seed at the start. -/
def pageOfThree (seed : Endpoint) : List Endpoint := seed :: answer three 2 seed

def pageComes (seed : Endpoint) : Act client := .signal (.delivery (.ok ⟨home, pageOfThree seed⟩))

/-- If all that comes from a directory are its pages, then a call finds only servers of that
directory, and returns what its caller heard of. If moreover no page comes while the call waits for
another one, it finds the first servers of the directory, in order. -/
theorem listing_keeps_to_directory (servers : List Endpoint) (hn : servers.Nodup)
    (hT : terminator ∉ servers) (config : Config) (retries : Nat) (net : Network)
    (before after : List (Act client)) (call : Call) (master : SocketAddress)
    (hm : locate ((launch config retries net).perform before).net call.source = .ok master)
    (hpages : World.EachArrival (fun _ ↦ IsFrom servers master) (launch config retries net)
      (before ++ .start call :: after)) :
    let w := (launch config retries net).perform before
    let found := heardIn w.calls.length (w.act (.start call)) after
    Lists ((launch config retries net).perform (before ++ .start call :: after)) w.calls.length
        found ∧
      (∀ e ∈ found, e ∈ servers) ∧
      (World.InTime (Fits servers master) (launch config retries net)
        (before ++ .start call :: after) → found <+: servers) := by
  intro w found
  have hn' : (terminator :: servers).Nodup := List.nodup_cons.2 ⟨hT, hn⟩
  have hgets : World.InTime (Gets servers master) (launch config retries net)
      (before ++ .start call :: after) := by
    refine hpages.mono fun k r hr q _ ha hq ↦ ?_
    obtain ⟨hip, hport⟩ := master_eq ha hq
    exact hr hip hport
  obtain ⟨p, turn, hp, hl, -, hcourse, hshows, (hfound : foundAt turn = found)⟩ :=
    listing_course hm hgets
  refine ⟨hfound ▸ lists_of_shows hshows (belongsTo_course hcourse ⟨rfl, hp⟩), ?_, fun hin ↦ ?_⟩
  · rw [← hfound]
    refine subset_course hcourse ⟨rfl, hp⟩ fun e he ↦ ?_
    have hnone : e ∈ p.listing.found := he
    rw [hl] at hnone
    cases hnone
  · obtain ⟨p, turn, hp, hl, -, hcourse, -, (hfound : foundAt turn = found)⟩ :=
      listing_course hm hin
    rw [← hfound]
    exact (onTrack_course hn' hcourse ⟨rfl, hp⟩ ⟨0, hl ▸ .start servers⟩).foundAt_isPrefix

/-- Both pages come in time; the first of them comes twice. -/
def punctual : List (Act client) :=
  [.task .worker, pageComes terminator, pageComes terminator, .task (.call 0), .task .worker,
    pageComes ⟨⟨10, 0, 0, 2⟩, 2⟩, .task (.call 0)]

theorem heard_of_punctual :
    heardIn 0 ((launch {} 0 network).act (.start listAll)) punctual = three := by
  cbv

theorem gives_of_eachArrival {retries : Nat} {as : List (Act client)}
    (h : World.EachArrival (fun (k : World client) r ↦ ∀ t ∈ k.courier.desk.tickets,
      t.outcome.isNone → (r : Response).servers = pageOfThree (t.request : Request).seed)
      (launch {} retries network) as) :
    World.InTime (Gives pageOfThree home) (launch {} retries network) as := by
  refine h.mono fun k r hk q hq _ _ ↦ ?_
  obtain ⟨t, ht, rfl, ho⟩ := hq
  exact hk t ht (by simp [ho])

theorem gives_of_punctual : World.InTime (Gives pageOfThree home) (launch {} 0 network)
    ([] ++ .start listAll :: punctual) := gives_of_eachArrival (of_decide_eq_true (by cbv))

theorem isAnswered_of_gives {as : List (Act client)}
    (h : World.InTime (Gives pageOfThree home) w as) : World.InTime (IsAnswered three 2 home) w as :=
  h.mono fun _ _ hg q hq ha hm ↦ .inr (hg q hq ha hm)

theorem listing_keeps_to_three :
    let as := [] ++ .start listAll :: punctual
    let w := (launch {} 0 network).perform []
    let found := heardIn w.calls.length (w.act (.start listAll)) punctual
    Lists ((launch {} 0 network).perform as) w.calls.length found ∧ found <+: three ∧
      found = three := by
  intro as w found
  have hpages : World.EachArrival (fun _ r ↦ ∃ seed ∈ terminator :: three,
      IsPage three 2 seed (r : Response).servers) (launch {} 0 network) as :=
    of_decide_eq_true (by cbv)
  have hfrom : World.EachArrival (fun _ ↦ IsFrom three home) (launch {} 0 network) as := by
    refine hpages.mono fun _ r h _ _ ↦ ?_
    obtain ⟨seed, hs, hp⟩ := h
    exact ⟨2, seed, hs, hp⟩
  have hin : World.InTime (Fits three home) (launch {} 0 network) as :=
    (isAnswered_of_gives gives_of_punctual).mono fun _ _ h q hq ha hm ↦ ⟨2, by decide, h q hq ha hm⟩
  obtain ⟨hlists, -, hprefix⟩ := listing_keeps_to_directory three (by decide) (by decide) {} 0
    network [] punctual listAll home rfl hfrom
  exact ⟨hlists, hprefix hin, heard_of_punctual⟩

/-- The first page comes again, after the call has gone on to the second one. -/
def late : List (Act client) :=
  [.start listAll, .task .worker, .task (.write 0), .turn, .task (.write 0), pageComes terminator,
    .task (.call 0), .task .worker, .task (.write 1), pageComes terminator, .task (.call 0)]

/-- Pages carry no mark of the request that they answer. Here each page that comes is the one after
the seed of a request that was made, and yet a server is listed twice and another is not listed. -/
theorem late_page_repeats_server :
    let w := launch {} 0 network
    let found := three.take 2 ++ three.take 1
    World.EachArrival (fun (k : World client) r ↦ ∃ t ∈ k.courier.desk.tickets,
        (r : Response) = ⟨(t.request : Request).master,
          t.request.seed :: answer three 2 t.request.seed⟩) w late ∧
      (w.perform late).calls[0]? = some (.over ⟨.ok found, found⟩) ∧
      heardIn 0 w late = found ∧ ¬ found <+: three := by
  intro w found
  exact ⟨of_decide_eq_true (by cbv), by cbv, by cbv, by decide⟩

end Directory

end GameServers
