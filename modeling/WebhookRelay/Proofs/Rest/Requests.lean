import WebhookRelay.Rest.Hooks

/-!
# Requests on record

`Peer.recorded` is the other side with a record of the requests that reach it and of its replies, and
`HookClient.listWithin` is a listing that has no result until it is over.

What becomes of a request is said once (`HookClient.send_of_obstacle`, `HookClient.send_of_sendable`),
and so is what a reply is good for (`Listing.pageIn`). A round of a listing then goes one of four ways:
its request cannot be sent, the reply has no page in it, the page is the last, or it leads on to
another (`Listing.run_of_obstacle`, `run_of_error`, `run_of_last`, `run_of_more`).
-/

namespace WebhookRelay.Rest

variable {σ : Type}

/-- The other side, with a record of the requests that reach it and of the replies to them. -/
def Peer.recorded (peer : Peer σ) : Peer (σ × List (Request × Reply)) := fun r s =>
  ((peer r s.1).1, (peer r s.1).2, s.2 ++ [(r, (peer r s.1).1)])

@[simp] theorem Peer.state_recorded (peer : Peer σ) (r : Request)
    (s : σ × List (Request × Reply)) :
    (peer.recorded r s).2 = ((peer r s.1).2, s.2 ++ [(r, (peer r s.1).1)]) := rfl

/-- What a server sees of the URL of a request: all but the fragment. -/
def Request.address (r : Request) : Url := { r.url with fragment := none }

/-- The other side, if it has an answer to each of some addresses and says of any other that there is
nothing. -/
def Peer.serving (pages : List (Url × Answer)) : Peer Unit := fun r s =>
  (.answer ((pages.lookup r.address).getD { status := 404 }), s)

/-! ## One request -/

namespace HookClient

/-- What a client takes the reply to a request for. -/
def taken (r : Request) : Reply → Except Failure Answer
  | .answer a => accept (.ok a)
  | .silence => .error (outage (.late r.url))
  | .hangUp => .error (outage (.unreachable r.url))

variable (peer : Peer σ) {r : Request} (s : σ)

/-- A request that cannot be sent does not reach the other side. -/
theorem send_of_obstacle {o : Outage} (h : r.obstacle? = some o) :
    send peer r s = (.error (outage o), s) := by
  simp only [send, exchange, h]
  rfl

theorem send_of_sendable (h : r.obstacle? = none) :
    send peer r s = (taken r (peer r s).1, (peer r s).2) := by
  simp only [send, exchange, h]
  rcases peer r s with ⟨_ | _ | _, t⟩ <;> rfl

/-- A record changes nothing of what becomes of a request. -/
theorem send_recorded (r : Request) (log : List (Request × Reply)) :
    ∃ log', send peer.recorded r (s, log) = ((send peer r s).1, (send peer r s).2, log') := by
  rcases h : r.obstacle? with _ | o
  · rw [send_of_sendable peer s h, send_of_sendable peer.recorded (s, log) h]
    exact ⟨_, rfl⟩
  · rw [send_of_obstacle peer s h, send_of_obstacle peer.recorded (s, log) h]
    exact ⟨_, rfl⟩

theorem taken_eq_ok_iff {reply : Reply} {a : Answer} :
    taken r reply = .ok a ↔ reply = .answer a ∧ a.isSuccess = true := by
  cases reply with
  | answer b =>
    simp only [taken, accept, Reply.answer.injEq]
    split
    · next hb =>
      constructor
      · rintro ⟨⟩
        exact ⟨rfl, hb⟩
      · rintro ⟨rfl, -⟩
        rfl
    · next hb =>
      refine iff_of_false nofun ?_
      rintro ⟨rfl, ha⟩
      exact hb ha
  | silence | hangUp => exact iff_of_false nofun nofun

end HookClient

/-! ## One round of a listing -/

namespace Listing

/-- The page in the reply to a request: the next page that it names, and the hooks on it. -/
def pageIn (r : Request) (reply : Reply) : Except Failure (Option Url × List Hook) := do
  let a ← HookClient.taken r reply
  let next ← nextPage a
  return (next, ← HookClient.decode Hook.listOfDoc a)

/-- The next page, if it is on the server that the listing keeps to. -/
def onward? (origin : Option Url.Origin) (next : Option Url) : Option Url :=
  next.filter fun url => url.origin?.isSome && url.origin? = origin

theorem onward?_eq_some_iff {origin : Option Url.Origin} {next : Option Url} {url : Url} :
    onward? origin next = some url ↔
      next = some url ∧ url.origin?.isSome = true ∧ url.origin? = origin := by
  simp [onward?, Option.filter_eq_some_iff]

/-- A reply with a page in it is an answer that reports success, has no link that cannot be read, and
lists hooks. -/
theorem pageIn_eq_ok_iff {r : Request} {reply : Reply} {next : Option Url} {hooks : List Hook} :
    pageIn r reply = .ok (next, hooks) ↔ ∃ a, reply = .answer a ∧ a.isSuccess = true ∧
      nextPage a = .ok next ∧ HookClient.decode Hook.listOfDoc a = .ok hooks := by
  simp only [pageIn, Json.bind_eq_ok_iff, HookClient.taken_eq_ok_iff, pure, Except.pure,
    Except.ok.injEq, Prod.mk.injEq]
  constructor
  · rintro ⟨a, ⟨hreply, hsuccess⟩, next, hn, hooks, hd, rfl, rfl⟩
    exact ⟨a, hreply, hsuccess, hn, hd⟩
  · rintro ⟨a, hreply, hsuccess, hn, hd⟩
    exact ⟨a, ⟨hreply, hsuccess⟩, next, hn, hooks, hd, rfl, rfl⟩

/-- What becomes of a listing depends on the page that came in and on where it leads. -/
theorem advance_taken (l : Listing) (r : Request) (reply : Reply) :
    l.advance (HookClient.taken r reply) =
      match pageIn r reply with
      | .error e => .over (.error e)
      | .ok (next, hooks) =>
        match onward? l.origin next with
        | none => .over (.ok (l.hooks ++ hooks))
        | some url => .more { l with next := url, hooks := l.hooks ++ hooks } := by
  rw [advance, ← pageIn]
  rcases pageIn r reply with e | ⟨next | url, hooks⟩
  · rfl
  · rfl
  · simp only [onward?, Option.filter_some]
    split <;> rfl

variable {l : Listing} {peer : Peer σ} {s : σ} {next : Option Url} {hooks : List Hook}

/-- A round sends one request, and the listing is over or goes on from what came of it. -/
theorem run_succ (l : Listing) (peer : Peer σ) (s : σ) (n : Nat) :
    l.run peer (n + 1) s =
      match l.advance (HookClient.send peer l.request s).1 with
      | .over result => (some result, (HookClient.send peer l.request s).2)
      | .more l' => l'.run peer n (HookClient.send peer l.request s).2 := rfl

theorem run_of_obstacle {o : Outage} (h : l.request.obstacle? = some o) (n : Nat) :
    l.run peer (n + 1) s = (some (.error (HookClient.outage o)), s) := by
  rw [run_succ, HookClient.send_of_obstacle peer s h]
  rfl

theorem run_of_error {e : Failure} (hs : l.request.obstacle? = none)
    (h : pageIn l.request (peer l.request s).1 = .error e) (n : Nat) :
    l.run peer (n + 1) s = (some (.error e), (peer l.request s).2) := by
  rw [run_succ, HookClient.send_of_sendable peer s hs, advance_taken, h]

theorem run_of_last (hs : l.request.obstacle? = none)
    (h : pageIn l.request (peer l.request s).1 = .ok (next, hooks))
    (hn : onward? l.origin next = none) (n : Nat) :
    l.run peer (n + 1) s = (some (.ok (l.hooks ++ hooks)), (peer l.request s).2) := by
  rw [run_succ, HookClient.send_of_sendable peer s hs, advance_taken, h]
  dsimp only
  rw [hn]

theorem run_of_more {url : Url} (hs : l.request.obstacle? = none)
    (h : pageIn l.request (peer l.request s).1 = .ok (next, hooks))
    (hn : onward? l.origin next = some url) (n : Nat) :
    l.run peer (n + 1) s =
      run peer n { l with next := url, hooks := l.hooks ++ hooks } (peer l.request s).2 := by
  rw [run_succ, HookClient.send_of_sendable peer s hs, advance_taken, h]
  dsimp only
  rw [hn]

/-- A record changes nothing of what becomes of a listing. -/
theorem run_recorded (peer : Peer σ) (rounds : Nat) (l : Listing) (s : σ)
    (log : List (Request × Reply)) :
    (l.run peer.recorded rounds (s, log)).1 = (l.run peer rounds s).1 := by
  induction rounds generalizing l s log with
  | zero => rfl
  | succ n ih =>
    obtain ⟨log', hsend⟩ := HookClient.send_recorded peer s l.request log
    rw [run_succ, run_succ, hsend]
    dsimp only
    rcases l.advance (HookClient.send peer l.request s).1 with result | l'
    · rfl
    · exact ih l' _ log'

/-- More rounds change nothing of a listing that is over. -/
theorem run_of_le {m n : Nat} (hmn : m ≤ n) {l : Listing} {s s' : σ}
    {result : Except Failure (List Hook)} (h : l.run peer m s = (some result, s')) :
    l.run peer n s = (some result, s') := by
  induction m generalizing n l s with
  | zero => cases h
  | succ m ih =>
    obtain ⟨n, rfl⟩ : ∃ k, n = k + 1 := Nat.exists_eq_add_one.mpr (Nat.zero_lt_of_lt hmn)
    rw [run_succ] at h ⊢
    split at h
    · exact h
    · exact ih (Nat.le_of_succ_le_succ hmn) h

end Listing

/-! ## Listings without an end -/

/-- Lists the hooks on a repository, with no result if they come on more pages than given. -/
def HookClient.listWithin (c : HookClient) (peer : Peer σ) (pages : Nat) (repo : RepoName) (s : σ) :
    Option (Except Failure (List Hook)) × σ :=
  match Listing.start c repo with
  | .error e => (some (.error e), s)
  | .ok l => l.run peer pages s

/-- A listing that begins with the URL of the hooks on a repository. -/
def Listing.begun (c : HookClient) (url : Url) : Listing where
  client := c
  origin := url.origin?
  next := url.addToQuery pageSize

section

variable {c : HookClient} {peer : Peer σ} {repo : RepoName} {url : Url}

theorem HookClient.listWithin_of_error {e : Failure} (h : c.url repo none = .error e) (pages : Nat)
    (s : σ) : c.listWithin peer pages repo s = (some (.error e), s) := by
  rw [listWithin, Listing.start, h]
  rfl

theorem HookClient.listWithin_of_url (h : c.url repo none = .ok url) (pages : Nat) (s : σ) :
    c.listWithin peer pages repo s = (Listing.begun c url).run peer pages s := by
  rw [listWithin, Listing.start, h]
  rfl

end

theorem HookClient.listWithin_recorded (c : HookClient) (peer : Peer σ) (pages : Nat)
    (repo : RepoName) (s : σ) (log : List (Request × Reply)) :
    (c.listWithin peer.recorded pages repo (s, log)).1 = (c.listWithin peer pages repo s).1 := by
  rw [listWithin, listWithin]
  rcases Listing.start c repo with e | l
  · rfl
  · exact l.run_recorded peer pages s log

theorem HookClient.listWithin_of_le {c : HookClient} {peer : Peer σ} {m n : Nat} (hmn : m ≤ n)
    {repo : RepoName} {s s' : σ} {result : Except Failure (List Hook)}
    (h : c.listWithin peer m repo s = (some result, s')) :
    c.listWithin peer n repo s = (some result, s') := by
  rw [listWithin] at h ⊢
  split at h
  · exact h
  · exact Listing.run_of_le hmn h

theorem HookClient.list_eq (c : HookClient) (peer : Peer σ) (pages : Nat) (repo : RepoName) (s : σ) :
    c.list peer pages repo s =
      ((c.listWithin peer pages repo s).1.getD (.error (.transport "Too many pages")),
        (c.listWithin peer pages repo s).2) := by
  rw [list, listWithin]
  rcases Listing.start c repo with e | l
  · rfl
  · dsimp only
    rcases l.run peer pages s with ⟨_ | result, s'⟩ <;> rfl

end WebhookRelay.Rest
