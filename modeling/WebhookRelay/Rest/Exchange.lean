import WebhookRelay.Failure
import WebhookRelay.Json.Value
import WebhookRelay.Text.Ascii
import WebhookRelay.Text.Base64
import WebhookRelay.Text.Utf8
import WebhookRelay.Url.Basic

/-!
# Requests to other servers

A `Peer` is the other side: it takes a request and its own state to a reply and a new state.
`exchange` puts a request to it, unless the request is one that cannot be sent at all.
-/

namespace WebhookRelay.Rest

/-! ## Requests and replies -/

/-- A request to another server. -/
structure Request where
  method : String
  url : Url
  headers : List (String × String)
  /-- the body, if there is one, as JSON -/
  body : Option Json.Value := none
  /-- how long to wait for the reply, in milliseconds -/
  timeout : UInt64

/-- An answer of another server. -/
structure Answer where
  status : Nat
  headers : List (String × Bytes) := []
  body : Bytes := []

/-- The header that the name and the password in a URL are sent in, which are left out of the URL
then. It comes before all others, and another one of its name does not take its place. -/
def loginHeader (u : Url) : List (String × String) :=
  (u.login?.map fun login =>
    ("authorization", "Basic " ++ String.ofList (Base64.encode (Utf8.encode login)))).toList

/-- What comes of a request. -/
inductive Reply where
  | answer (a : Answer)
  /-- nothing came in time -/
  | silence
  /-- the server could not be reached, or went away -/
  | hangUp

/-- The other side. -/
abbrev Peer (σ : Type) := Request → σ → Reply × σ

/-- Whether an answer reports success. -/
def Answer.isSuccess (a : Answer) : Bool := 200 ≤ a.status && a.status < 300

/-- The first header of a name, if its value can be read as text. -/
def Answer.header? (a : Answer) (name : String) : Option (List Char) :=
  match a.headers.find? fun h => Text.asciiLower h.1 = name with
  | some (_, value) =>
    if value.all fun b => b = 9 || (0x20 ≤ b && b < 0x7F) then
      some (value.map fun b => Char.ofNat b.toNat)
    else none
  | none => none

/-! ## Sending -/

/-- Why a request has no answer. -/
inductive Outage where
  /-- the request cannot be sent; which URL is to blame, if it is the URL -/
  | notSent (url : Option Url)
  /-- nothing came in time from a URL -/
  | late (url : Url)
  /-- the server of a URL could not be reached, or went away -/
  | unreachable (url : Url)

/-- The text of an outage. -/
def Outage.message : Outage → String
  | notSent none => "builder error"
  | notSent (some url) => s!"builder error for url ({url})"
  | late url | unreachable url => s!"error sending request for url ({url})"

/-- Whether a text can be sent as the value of a header. -/
def sendable (value : String) : Bool :=
  value.toList.all fun c => c = '\t' || (0x20 ≤ c.toNat && c.toNat ≠ 0x7F)

/-- How many characters a URL may have that is written into a request. -/
def longestUrl : Nat := 65534

/-- Whether a URL can be written into a request: it is of one of the two schemes of HTTP and not too
long, and its host has no character that is kept out there. -/
def addressable (u : Url) : Bool :=
  (u.scheme = "http".toList || u.scheme = "https".toList) && u.print.length ≤ longestUrl &&
    u.site.all fun s => !s.host.any fun c => ['"', '\x60', '\x7b', '\x7d'].contains c

/-- What keeps a request from being sent: a URL without a host, a header that cannot be written, or
a URL that cannot. -/
def Request.obstacle? (r : Request) : Option Outage :=
  if !r.url.hasHost then some (.notSent (some r.url))
  else if !r.headers.all (sendable ·.2) then some (.notSent none)
  else if !addressable r.url then some (.notSent (some r.url))
  else none

variable {σ : Type}

/-- Puts a request to the other side. -/
def exchange (peer : Peer σ) (r : Request) (s : σ) : Except Outage Answer × σ :=
  match r.obstacle? with
  | some o => (.error o, s)
  | none =>
    match peer r s with
    | (.answer a, s) => (.ok a, s)
    | (.silence, s) => (.error (.late r.url), s)
    | (.hangUp, s) => (.error (.unreachable r.url), s)

end WebhookRelay.Rest
