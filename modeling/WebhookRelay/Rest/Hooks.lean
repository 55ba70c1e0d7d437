import WebhookRelay.Forms
import WebhookRelay.Rest.Exchange
import WebhookRelay.Rest.Link
import WebhookRelay.Url.Origin

/-!
# The provider's interface

Hooks are listed, created and deleted by requests to the provider, each of which carries the token of
the user it is made for. A listing comes in pages; `Listing` is one that is under way, and
`Listing.advance` says what the answer with a page makes of it.
-/

namespace WebhookRelay.Rest

/-- A client of the provider for one user. -/
structure HookClient where
  /-- the URL below which the interface is found -/
  apiUrl : String
  token : String
  /-- how long to wait for a reply, in milliseconds -/
  timeout : UInt64

namespace HookClient

/-! ## Requests -/

/-- What the client calls itself. -/
def agent : String := "hookbridge/0.1.0"

/-- The URL of the hooks on a repository, or of the one with a number. -/
def url (c : HookClient) (repo : RepoName) (id : Option UInt64) : Except Failure Url :=
  match Url.read c.apiUrl.toList with
  | .error e => .error (.misconfigured s!"Invalid API URL {c.apiUrl}: {e.message}")
  | .ok base =>
    let segments := ["repos", repo.owner, repo.name, "hooks"] ++ (id.map (toString ·.toNat)).toList
    match base.extend (segments.map String.toList) with
    | some url => .ok url
    | none => .error (.misconfigured s!"API URL cannot be a base: {c.apiUrl}")

/-- A request of the client. -/
def request (c : HookClient) (method : String) (url : Url) (body : Option Json.Value) : Request where
  method := method
  url := url.withoutLogin
  headers :=
    loginHeader url ++
      [("authorization", s!"token {c.token}"), ("accept", "application/vnd.github+json"),
        ("user-agent", agent)] ++ (body.map fun _ => ("content-type", "application/json")).toList
  body := body
  timeout := c.timeout

/-! ## Answers -/

/-- What the provider says about a refusal. -/
structure Refusal where
  message : String := ""
  details : List String := []

/-- The fields of one detail of a refusal. -/
def detailFields : List (Json.Field String) :=
  [⟨"message", .defaulted, fun d _ => d.toText⟩]

/-- The fields of a refusal. -/
def refusalFields : List (Json.Field Refusal) :=
  [⟨"message", .defaulted, fun d r => do .ok { r with message := ← d.toText }⟩,
    ⟨"errors", .defaulted, fun d r => do
      .ok { r with details := ← d.toList (Json.record detailFields "") }⟩]

/-- What a body says about a refusal; nothing, if it does not have the right form. -/
def refusalIn (body : Bytes) : Refusal :=
  match Json.decode (Json.record refusalFields {}) body with
  | .ok r => r
  | .error _ => {}

/-- The failure that an outage is. -/
def outage : Outage → Failure
  | .late _ => .transport "Request timeout"
  | o => .transport o.message

/-- The answer, if it is one and reports success. -/
def accept : Except Outage Answer → Except Failure Answer
  | .error o => .error (outage o)
  | .ok a =>
    if a.isSuccess then .ok a
    else
      let refusal := refusalIn a.body
      .error (.refused a.status refusal.message refusal.details)

/-- The value in the body of an answer. -/
def decode {α : Type} (f : Json.Doc → Except Json.Fault α) (a : Answer) : Except Failure α :=
  match Json.decode f a.body with
  | .ok v => .ok v
  | .error _ => .error (.transport "error decoding response body")

variable {σ : Type}

/-- Puts a request to the provider and takes only an answer that reports success. -/
def send (peer : Peer σ) (r : Request) (s : σ) : Except Failure Answer × σ :=
  let (result, s) := exchange peer r s
  (accept result, s)

/-! ## Creating and deleting -/

/-- Creates a hook. -/
def create (c : HookClient) (peer : Peer σ) (repo : RepoName) (spec : HookSpec) (s : σ) :
    Except Failure Hook × σ :=
  match c.url repo none with
  | .error e => (.error e, s)
  | .ok url =>
    let (result, s) := send peer (c.request "POST" url (some spec.toJson)) s
    (result.bind (decode Hook.ofDoc), s)

/-- Deletes the hook of a number. -/
def delete (c : HookClient) (peer : Peer σ) (repo : RepoName) (id : UInt64) (s : σ) :
    Except Failure Unit × σ :=
  match c.url repo (some id) with
  | .error e => (.error e, s)
  | .ok url =>
    let (result, s) := send peer (c.request "DELETE" url none) s
    (result.map fun _ => (), s)

end HookClient

/-! ## Listing -/

/-- A listing that is under way. -/
structure Listing where
  client : HookClient
  /-- the server of the first page, the only one that later pages are fetched from -/
  origin : Option Url.Origin
  /-- the URL of the next page -/
  next : Url
  /-- the hooks on the pages so far -/
  hooks : List Hook := []

namespace Listing

/-- The number of hooks to a page, as it is asked for. -/
def pageSize : List Char := "per_page=100".toList

/-- A listing of the hooks on a repository, before the first page. -/
def start (c : HookClient) (repo : RepoName) : Except Failure Listing :=
  (c.url repo none).map fun url =>
    { client := c, origin := url.origin?, next := url.addToQuery pageSize }

/-- The next request of a listing. -/
def request (l : Listing) : Request := l.client.request "GET" l.next none

/-- The next page that an answer names. -/
def nextPage (a : Answer) : Except Failure (Option Url) :=
  match (a.header? "link").bind nextLink with
  | none => .ok none
  | some target =>
    match Url.read target with
    | .ok url => .ok (some url)
    | .error e => .error (.transport s!"Invalid Link header: {e.message}")

/-- What becomes of a listing. -/
inductive Outcome where
  /-- it is over -/
  | over (result : Except Failure (List Hook))
  /-- there is another page -/
  | more (l : Listing)

/-- Takes in the answer with a page. The token goes to no other server, so a page on another one is
not fetched. -/
def advance (l : Listing) (answer : Except Failure Answer) : Outcome :=
  let page : Except Failure (Option Url × List Hook) := do
    let a ← answer
    -- of a bad link and a bad body, the link is what is reported
    let next ← nextPage a
    return (next, ← HookClient.decode Hook.listOfDoc a)
  match page with
  | .error e => .over (.error e)
  | .ok (next, page) =>
    let hooks := l.hooks ++ page
    match next with
    | none => .over (.ok hooks)
    | some url =>
      if url.origin?.isSome && url.origin? = l.origin then .more { l with next := url, hooks := hooks }
      else .over (.ok hooks)

variable {σ : Type}

/-- Fetches pages, at most as many as given; no result if there are more. -/
def run (peer : Peer σ) : Nat → Listing → σ → Option (Except Failure (List Hook)) × σ
  | 0, _, s => (none, s)
  | pages + 1, l, s =>
    let (answer, s) := HookClient.send peer l.request s
    match l.advance answer with
    | .over result => (some result, s)
    | .more l => run peer pages l s

end Listing

/-- Lists the hooks on a repository, giving up if they come on more pages than given. -/
def HookClient.list {σ : Type} (c : HookClient) (peer : Peer σ) (pages : Nat) (repo : RepoName)
    (s : σ) : Except Failure (List Hook) × σ :=
  match Listing.start c repo with
  | .error e => (.error e, s)
  | .ok l =>
    match l.run peer pages s with
    | (some result, s) => (result, s)
    | (none, s) => (.error (.transport "Too many pages"), s)

end WebhookRelay.Rest
