import WebhookRelay.Url.Read

/-!
# Origins

`Url.origin?` says which server a URL is of, as far as it can be told from others.
-/

namespace WebhookRelay.Url

/-- A server as far as it can be told from others. -/
structure Origin where
  scheme : List Char
  host : List Char
  port : Nat
  deriving DecidableEq

/-- The scheme of URLs that have other URLs in them. -/
def wrapper : List Char := ['b', 'l', 'o', 'b']

/-- The server a URL is of, where at most so many URLs are in one another. -/
def originWithin : Nat → Url → Option Origin
  | 0, _ => none
  | depth + 1, u =>
    if u.scheme = wrapper then
      match read u.path.print with
      | .ok inner => originWithin depth inner
      | .error _ => none
    else
      match defaultPort? u.scheme, u.site with
      | some p, some s => some ⟨u.scheme, s.host, s.port.getD p⟩
      | _, _ => none

/-- The server a URL is of. A URL with another one in it, which is always shorter, is of the server of
that one; URLs of unknown schemes are of none that could be told from others. -/
def origin? (u : Url) : Option Origin := originWithin (u.path.print.length + 1) u

end WebhookRelay.Url
