import WebhookRelay.Proofs.Memory.Hazards
import WebhookRelay.Proofs.Rest.Requests
import WebhookRelay.Proofs.Sync.Phases
import WebhookRelay.Server

/-!
# Pages of a listing

A listing that is over has either fetched every page, one from where the one before leads, and its
result is what is on them in order; or it has come to a request that cannot be sent or a reply that
has no page in it, and its result is that failure and nothing of the pages before
(`HookClient.listed_in_pages`). So what is made of the hooks does not depend on how they came on pages.

`Page` is a page together with what makes it one, `Trail` says that pages were fetched one after the
other, and `Listing.Stands` is how a listing may stand after some rounds: the pages so far are a trail,
and they are the record of its requests (`Listing.stands_run`, by induction on the rounds, with
`Stands.cons` for one more page in front).
-/

namespace WebhookRelay.Rest

open Listing

variable {σ : Type} {c : HookClient} {origin : Option Url.Origin}

/-! ## Pages -/

/-- A page of a listing, as a client has fetched it. -/
structure Page (c : HookClient) where
  /-- where it was fetched from -/
  url : Url
  answer : Answer
  /-- the next page, if it names one -/
  next : Option Url
  /-- the hooks on it -/
  hooks : List Hook
  sent : (c.request "GET" url none).obstacle? = none
  success : answer.isSuccess = true
  names : nextPage answer = .ok next
  holds : HookClient.decode Hook.listOfDoc answer = .ok hooks

/-- The request for a page, and the reply with the page in it. -/
def Page.exchange (p : Page c) : Request × Reply := (c.request "GET" p.url none, .answer p.answer)

theorem Page.pageIn_exchange (p : Page c) :
    pageIn p.exchange.1 p.exchange.2 = .ok (p.next, p.hooks) :=
  pageIn_eq_ok_iff.mpr ⟨p.answer, rfl, p.success, p.names, p.holds⟩

/-- Whether pages were fetched one after the other, the first from a URL and each other one from where
the one before leads, as long as that is on one server; and where the next page is, if there is one. -/
inductive Trail (c : HookClient) (origin : Option Url.Origin) :
    Url → List (Page c) → Option Url → Prop where
  /-- no page has been fetched -/
  | start (url : Url) : Trail c origin url [] (some url)
  /-- the last page leads on to none -/
  | last (p : Page c) (h : onward? origin p.next = none) : Trail c origin p.url [p] none
  /-- a page leads on to another -/
  | page (p : Page c) {url : Url} {ps : List (Page c)} {next : Option Url}
      (h : onward? origin p.next = some url) (ht : Trail c origin url ps next) :
      Trail c origin p.url (p :: ps) next

namespace Listing

/-- How a listing may stand after at most some rounds: its result, if it is over, and the record of its
requests. -/
inductive Stands (l : Listing) (rounds : Nat) :
    Option (Except Failure (List Hook)) → List (Request × Reply) → Prop where
  /-- every page has been fetched -/
  | whole {ps : List (Page l.client)} (ht : Trail l.client l.origin l.next ps none) :
      Stands l rounds (some (.ok (l.hooks ++ ps.flatMap (·.hooks)))) (ps.map (·.exchange))
  /-- the request for a page cannot be sent -/
  | unsent {ps : List (Page l.client)} {url : Url} {o : Outage}
      (ht : Trail l.client l.origin l.next ps (some url))
      (ho : (l.client.request "GET" url none).obstacle? = some o) :
      Stands l rounds (some (.error (HookClient.outage o))) (ps.map (·.exchange))
  /-- a reply has no page in it -/
  | broken {ps : List (Page l.client)} {url : Url} {reply : Reply} {e : Failure}
      (ht : Trail l.client l.origin l.next ps (some url))
      (hs : (l.client.request "GET" url none).obstacle? = none)
      (he : pageIn (l.client.request "GET" url none) reply = .error e) :
      Stands l rounds (some (.error e))
        (ps.map (·.exchange) ++ [(l.client.request "GET" url none, reply)])
  /-- there are more pages -/
  | underWay {ps : List (Page l.client)} {url : Url}
      (ht : Trail l.client l.origin l.next ps (some url)) (hn : ps.length = rounds) :
      Stands l rounds none (ps.map (·.exchange))

/-- A page in front is one more page. -/
theorem Stands.cons {l : Listing} {rounds : Nat} {result : Option (Except Failure (List Hook))}
    {record : List (Request × Reply)} (p : Page l.client) {url : Url} (hp : p.url = l.next)
    (hn : onward? l.origin p.next = some url)
    (h : Stands { l with next := url, hooks := l.hooks ++ p.hooks } rounds result record) :
    Stands l (rounds + 1) result (p.exchange :: record) := by
  have hfront {ps : List (Page l.client)} {next : Option Url}
      (ht : Trail l.client l.origin url ps next) :
      Trail l.client l.origin l.next (p :: ps) next := hp ▸ .page p hn ht
  cases h with
  | whole ht =>
    rw [List.append_assoc]
    exact .whole (hfront ht)
  | unsent ht ho => exact .unsent (hfront ht) ho
  | broken ht hs he => exact .broken (hfront ht) hs he
  | underWay ht hn => exact .underWay (hfront ht) (congrArg Nat.succ hn)

/-- After some rounds the pages so far are a trail, and they are the record of the requests. -/
theorem stands_run (peer : Peer σ) (rounds : Nat) (l : Listing) (s : σ)
    (log : List (Request × Reply)) :
    ∃ record, (l.run peer.recorded rounds (s, log)).2.2 = log ++ record ∧
      l.Stands rounds (l.run peer.recorded rounds (s, log)).1 record := by
  induction rounds generalizing l s log with
  | zero => exact ⟨[], (List.append_nil log).symm, .underWay (.start l.next) rfl⟩
  | succ n ih =>
    rcases ho : l.request.obstacle? with _ | o
    · rcases hp : pageIn l.request (peer.recorded l.request (s, log)).1 with e | ⟨next, hooks⟩
      · rw [run_of_error ho hp]
        exact ⟨_, rfl, .broken (.start l.next) ho hp⟩
      · obtain ⟨a, hreply, hsuccess, hnames, hholds⟩ := pageIn_eq_ok_iff.mp hp
        let p : Page l.client := ⟨l.next, a, next, hooks, ho, hsuccess, hnames, hholds⟩
        have hexchange : (l.request, (peer l.request s).1) = p.exchange :=
          congrArg (l.request, ·) hreply
        rcases hn : onward? l.origin next with _ | url
        · rw [run_of_last ho hp hn]
          refine ⟨[p.exchange], congrArg (log ++ [·]) hexchange, ?_⟩
          have hwhole : l.Stands (n + 1) (some (.ok (l.hooks ++ [p].flatMap (·.hooks))))
              ([p].map (·.exchange)) := .whole (.last p hn)
          rwa [List.flatMap_singleton] at hwhole
        · rw [run_of_more ho hp hn]
          obtain ⟨record, hlog, hstands⟩ := ih { l with next := url, hooks := l.hooks ++ hooks }
            (peer l.request s).2 (log ++ [(l.request, (peer l.request s).1)])
          refine ⟨p.exchange :: record, ?_, .cons p rfl hn hstands⟩
          rw [Peer.state_recorded, hlog, hexchange, List.append_assoc]
          rfl
    · rw [run_of_obstacle ho]
      exact ⟨[], (List.append_nil log).symm, .unsent (.start l.next) ho⟩

end Listing

/-! ## What a listing comes to -/

namespace HookClient

/-- A listing starts with the first page, and keeps to the server that this page is on. -/
theorem stands_listWithin {peer : Peer σ} {n : Nat} {repo : RepoName} {s s' : σ} {url : Url}
    {result : Option (Except Failure (List Hook))} {record : List (Request × Reply)}
    (hurl : c.url repo none = .ok url)
    (h : c.listWithin peer.recorded n repo (s, []) = (result, s', record)) :
    (begun c url).Stands n result record := by
  obtain ⟨record', hlog, hstands⟩ := stands_run peer n (begun c url) s []
  rw [listWithin_of_url hurl] at h
  rw [h] at hlog hstands
  rwa [show record = record' from hlog]

/-- Why a listing of the hooks on a repository failed, given the record of its requests: there is no
URL for it, or after some pages a request cannot be sent, or a reply has no page in it. -/
inductive Fails (c : HookClient) (repo : RepoName) : Failure → List (Request × Reply) → Prop where
  | misconfigured {e : Failure} (h : c.url repo none = .error e) : Fails c repo e []
  | unsent {url last : Url} {ps : List (Page c)} {o : Outage} (h : c.url repo none = .ok url)
      (ht : Trail c url.origin? (url.addToQuery pageSize) ps (some last))
      (ho : (c.request "GET" last none).obstacle? = some o) :
      Fails c repo (outage o) (ps.map (·.exchange))
  | broken {url last : Url} {ps : List (Page c)} {reply : Reply} {e : Failure}
      (h : c.url repo none = .ok url)
      (ht : Trail c url.origin? (url.addToQuery pageSize) ps (some last))
      (he : pageIn (c.request "GET" last none) reply = .error e) :
      Fails c repo e (ps.map (·.exchange) ++ [(c.request "GET" last none, reply)])

variable {peer : Peer σ} {n : Nat} {repo : RepoName} {s s' : σ} {hooks : List Hook} {e : Failure}
  {result : Except Failure (List Hook)} {record : List (Request × Reply)}

/-- A listing that ends well has fetched all pages, and lists what is on them. -/
theorem pages_of_ok
    (h : c.listWithin peer.recorded n repo (s, []) = (some (.ok hooks), s', record)) :
    ∃ url ps, c.url repo none = .ok url ∧
      Trail c url.origin? (url.addToQuery pageSize) ps none ∧
      record = ps.map (·.exchange) ∧ hooks = ps.flatMap (·.hooks) := by
  rcases hurl : c.url repo none with e | url
  · rw [listWithin_of_error hurl] at h
    cases h
  · generalize hresult : some (Except.ok hooks) = result at h
    cases stands_listWithin hurl h with
    | whole ht =>
      cases hresult
      exact ⟨url, _, rfl, ht, rfl, rfl⟩
    | unsent | broken | underWay => cases hresult

/-- A listing that fails does so for a reason. -/
theorem fails_of_error
    (h : c.listWithin peer.recorded n repo (s, []) = (some (.error e), s', record)) :
    c.Fails repo e record := by
  rcases hurl : c.url repo none with e' | url
  · rw [listWithin_of_error hurl] at h
    cases h
    exact .misconfigured hurl
  · generalize hresult : some (Except.error e) = result at h
    cases stands_listWithin hurl h with
    | unsent ht ho =>
      cases hresult
      exact .unsent hurl ht ho
    | broken ht hs he =>
      cases hresult
      exact .broken hurl ht he
    | whole | underWay => cases hresult

/-- A reply without a page in it ends a listing, and is what the listing fails with. -/
theorem error_of_mem
    (h : c.listWithin peer.recorded n repo (s, []) = (some result, s', record))
    {x : Request × Reply} (hx : x ∈ record) (he : pageIn x.1 x.2 = .error e) :
    result = .error e := by
  have hpage {ps : List (Page c)} (hm : x ∈ ps.map (·.exchange)) : False := by
    obtain ⟨p, -, rfl⟩ := List.mem_map.mp hm
    exact nomatch p.pageIn_exchange.symm.trans he
  rcases result with e' | hooks
  · cases fails_of_error h with
    | misconfigured => cases hx
    | unsent => exact (hpage hx).elim
    | broken _ _ he' =>
      rcases List.mem_append.mp hx with hm | hm
      · exact (hpage hm).elim
      · obtain rfl := List.mem_singleton.mp hm
        cases he'.symm.trans he
        rfl
  · obtain ⟨url, ps, -, -, rfl, -⟩ := pages_of_ok h
    exact (hpage hx).elim

end HookClient

/-! ## What is made of the hooks -/

/-- The calls that remove the hook of a service from a repository, once the hooks there are listed: the
first hook for the service is deleted, if there is one. -/
def removalCalls (client : String) (repo : RepoName) (service : Service) (hooks : List Hook) :
    List (Call String) :=
  .listHooks client repo ::
    ((hooks.find? fun h => h.callbackUrl? = some service.callbackUrl).map fun h =>
      .deleteHook client repo h.id).toList

/-- A removal makes calls that depend on the hooks listed, and on nothing else of the listing. -/
theorem calls_of_runs_uninstall {τ : Type} {conduct : Program.Conduct String τ} {t t' : τ}
    {service : Service} {credentials : Credentials String} {client : String} {repo : RepoName}
    {hooks : List Hook} {trace : List (Exchange String)} {removed : Except Failure UInt64}
    (hr : Program.Runs conduct (service.uninstall credentials repo) t trace removed t')
    (hclient : service.client? credentials = some client)
    (hl : ∀ reply t₁, conduct (.listHooks client repo) t reply t₁ → reply = .ok hooks) :
    trace.map (·.call) = removalCalls client repo service hooks := by
  cases Service.runs_uninstall hr with
  | nobody hnone => cases hnone.symm.trans hclient
  | notListed hc hlist =>
    obtain rfl := Option.some.inj (hc.symm.trans hclient)
    cases hl _ _ hlist
  | notFound hc hlist hf =>
    obtain rfl := Option.some.inj (hc.symm.trans hclient)
    cases hl _ _ hlist
    rw [removalCalls, hf]
    rfl
  | found hc hlist hf =>
    obtain rfl := Option.some.inj (hc.symm.trans hclient)
    cases hl _ _ hlist
    rw [removalCalls, hf]
    rfl

/-- **A listing loses nothing and repeats nothing.** Of a listing that is over there is a record of
its requests and the replies. If it ended well, the pages were fetched one after the other, the first
from the URL of the hooks and each other one from where the one before leads on the same server; the
record is that of these pages, and the result is what is on them in order. If it failed, it is for one
of the reasons there are (`HookClient.Fails`), and a reply in the record that has no page in it is what
it failed with. And what is called for to remove the hook of a service depends on the hooks in order,
however they came on pages. -/
theorem HookClient.listed_in_pages {peer : Peer σ} {n : Nat} {repo : RepoName} {s s' : σ}
    {result : Except Failure (List Hook)} {record : List (Request × Reply)}
    (h : c.listWithin peer.recorded n repo (s, []) = (some result, s', record)) :
    (∀ hooks, result = .ok hooks → ∃ url ps, c.url repo none = .ok url ∧
      Trail c url.origin? (url.addToQuery pageSize) ps none ∧
      record = ps.map (·.exchange) ∧ hooks = ps.flatMap (·.hooks)) ∧
    (∀ e, result = .error e → c.Fails repo e record) ∧
    (∀ x ∈ record, ∀ e, pageIn x.1 x.2 = .error e → result = .error e) ∧
    (∀ hooks, result = .ok hooks → ∀ settings token, Server.hookClient settings token = c →
      ∀ (service : Service) credentials, service.client? credentials = some token →
        ∀ store sent, ((service.uninstall credentials repo).exchanges
          (Server.answer settings peer n) ⟨store, sent, s⟩).map (·.call) =
            removalCalls token repo service hooks) := by
  refine ⟨?_, ?_, fun x hx e => error_of_mem h hx, ?_⟩
  · rintro hooks rfl
    exact pages_of_ok h
  · rintro e rfl
    exact fails_of_error h
  · rintro hooks rfl settings token rfl service credentials hclient store sent
    refine calls_of_runs_uninstall (Program.runs_run _ _ _) hclient fun reply t₁ hc => ?_
    have hlist : ((Server.hookClient settings token).list peer n repo s).1 = .ok hooks := by
      rw [list_eq, ← listWithin_recorded _ _ _ _ _ [], h]
      rfl
    exact (congrArg Prod.fst hc).symm.trans hlist

/-! ### Hooks on two pages -/

/-- Settings under which the provider is the one of the web. -/
def settings : Settings where
  server := {}
  chat := { homeserverUrl := "http://localhost", user := "bot", accessToken := "t" }
  provider := {}
  tokens := []

/-- The address of a page of the hooks on a repository. -/
def pageOf (repo query : String) : Url where
  scheme := "https".toList
  site := some { host := "api.github.com".toList }
  path := .segments ["repos".toList, "acme".toList, repo.toList, "hooks".toList]
  query := some query.toList

/-- An answer with hooks in it, which names a next page. -/
def leadingTo (next : Url) (hooks : String) : Answer where
  status := 200
  headers := [("Link", Utf8.encode s!"<{next}>; rel=\"next\"")]
  body := Utf8.encode hooks

/-- A hook of somebody else on the first page, and one of the service on the second. -/
def twoPages : Peer Unit := .serving [
  (pageOf "a" "per_page=100", leadingTo (pageOf "a" "per_page=100&page=2") "[\x7b\"id\": 1\x7d]"),
  (pageOf "a" "per_page=100&page=2", ⟨200, [], Utf8.encode
    "[\x7b\"id\": 2, \"config\": \x7b\"url\": \"u\"\x7d\x7d]"⟩)]

/-- The hook on the second page is the one that is deleted. -/
theorem listed_on_two_pages : ∃ hooks, ∃ ps : List (Page (Server.hookClient settings "main")),
    ((Server.hookClient settings "main").listWithin twoPages.recorded 2 ⟨"acme", "a"⟩ ((), [])).1 =
      some (.ok hooks) ∧
    ps.length = 2 ∧ hooks = ps.flatMap (·.hooks) ∧
    (((Memory.watching "svc" "u" []).uninstall Memory.soleUser ⟨"acme", "a"⟩).exchanges
      (Server.answer settings twoPages 2) ⟨∅, 0, ()⟩).map (·.call) =
        [.listHooks "main" ⟨"acme", "a"⟩, .deleteHook "main" ⟨"acme", "a"⟩ 2] := by
  generalize hrun : (Server.hookClient settings "main").listWithin twoPages.recorded 2
    ⟨"acme", "a"⟩ ((), []) = run
  have hok : ((run.1.bind (·.toOption)).bind
      (·.find? fun h => h.callbackUrl? = some "u")).map (·.id) = some 2 := by
    rw [← hrun]
    decide +kernel
  have hlength : run.2.2.length = 2 := by
    rw [← hrun]
    decide +kernel
  obtain ⟨_ | e | hooks, s', record⟩ := run
  · cases hok
  · cases hok
  obtain ⟨hpages, -, -, hcalls⟩ := HookClient.listed_in_pages hrun
  obtain ⟨url, ps, -, -, rfl, hhooks⟩ := hpages hooks rfl
  obtain ⟨hook, hfind, hid⟩ := Option.map_eq_some_iff.mp hok
  have hfirst : (hooks.find? fun h =>
      h.callbackUrl? = some (Memory.watching "svc" "u" []).callbackUrl) = some hook := hfind
  refine ⟨hooks, ps, rfl, by simpa using hlength, hhooks, ?_⟩
  rw [hcalls hooks rfl settings "main" rfl _ _ (by decide), removalCalls, hfirst, Option.map_some, hid]
  rfl

end WebhookRelay.Rest
