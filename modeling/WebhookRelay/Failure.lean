/-!
# What can go wrong

One type for every failure the relay reports, each constructor a cause. `Failure.message` is the
text people see, `Failure.status` the HTTP status an answer carries for it.
-/

namespace WebhookRelay

/-- A failure of the relay or of something it talks to. -/
inductive Failure where
  /-- a service or the settings do not make sense -/
  | misconfigured (message : String)
  /-- a text that should be `owner/repo` is not -/
  | malformedRepo (value : String)
  /-- nobody is signed in as `user` in `realm` -/
  | noSession (realm user : String)
  /-- the provider answered with an error status -/
  | refused (status : Nat) (message : String) (details : List String)
  /-- no hook on `repo` reports to `callbackUrl` -/
  | hookNotFound (repo callbackUrl : String)
  /-- the provider could not be reached or understood -/
  | transport (message : String)
  /-- the chat server did not take a join or a message -/
  | chat (room message : String)
  /-- a delivery was turned away -/
  | rejected (status : Nat) (message : String)
  /-- the store did not answer -/
  | storage (message : String)
  /-- a value could not be read from JSON -/
  | unreadable (message : String)
  deriving DecidableEq, Repr

namespace Failure

/-- The text of a failure. -/
def message : Failure → String
  | misconfigured m => s!"Configuration error: {m}"
  | malformedRepo v => s!"Malformed repository identifier: {v}"
  | noSession realm user => s!"User {user} does not have a session with realm {realm}"
  | refused status m _ => s!"Provider rejected request with status {status}: {m}"
  | hookNotFound repo url => s!"Failed to find hook on {repo} with endpoint: {url}"
  | transport m => s!"Transport error: {m}"
  | chat room m => s!"Chat error in room {room}: {m}"
  | rejected status m => s!"Delivery rejected ({status}): {m}"
  | storage m => s!"Storage error: {m}"
  | unreadable m => s!"Serialization error: {m}"

/-- The HTTP status of an answer that reports the failure. -/
def status : Failure → Nat
  | misconfigured _ | malformedRepo _ => 400
  | noSession .. => 403
  | hookNotFound .. => 404
  | rejected status _ => status
  | refused .. | transport _ | chat .. => 502
  | storage _ | unreadable _ => 500

/-- The words by which a provider says that a hook for the same URL is there already. -/
def existsPhrase : String := "already exists"

/-- Whether `word` occurs in `text`. -/
def occursIn (word : List Char) : List Char → Bool
  | [] => word.isEmpty
  | c :: rest => word.isPrefixOf (c :: rest) || occursIn word rest

/-- Whether a provider refused a hook because there is one for the same URL. -/
def isHookExists : Failure → Bool
  | refused 422 _ details => details.any fun d => occursIn existsPhrase.toList d.toList
  | _ => false

end Failure

end WebhookRelay
