import WebhookRelay.Delivery.Notice
import WebhookRelay.Delivery.Request
import WebhookRelay.Signature

/-!
# Verifying deliveries

A request is checked in order: it says what kind of event it is; if there is a secret, it is signed
with it; a ping is done at this point; its body is a payload; the payload names a repository. The
first of these that does not hold is what the request is rejected for.
-/

namespace WebhookRelay.Delivery

/-- An event that was verified. -/
structure Event where
  /-- its kind -/
  kind : String
  /-- the repository, as the payload names it -/
  repo : String
  /-- what rooms are told -/
  message : Message
  /-- the number of the delivery -/
  deliveryId : Option String
  deriving DecidableEq

/-- What a request turned out to be. -/
inductive Verified where
  /-- the provider asks whether anybody listens -/
  | ping
  | event (e : Event)
  deriving DecidableEq

namespace Request

/-- The kind of event a request carries. -/
def eventKind (r : Request) : Except Failure String :=
  match r.header? eventHeader with
  | some kind =>
    if kind.isEmpty then .error (.rejected 400 "Missing event type header") else .ok kind
  | none => .error (.rejected 400 "Missing event type header")

/-- Checks the signature of a request, if there is a secret. -/
def checkSignature (r : Request) : Option String → Except Failure Unit
  | none => .ok ()
  | some secret =>
    match r.header? signatureHeader with
    | none => .error (.rejected 400 "Missing signature header")
    | some header =>
      match Signature.check secret header r.body with
      | .ok () => .ok ()
      | .error .format => .error (.rejected 400 Signature.Fault.format.message)
      | .error .mismatch => .error (.rejected 403 Signature.Fault.mismatch.message)

/-- The event in a request of a kind. -/
def event (r : Request) (kind : String) : Except Failure Event :=
  match Json.decode Payload.ofDoc r.body with
  | .error _ => .error (.rejected 400 "Failed to parse event: not a payload")
  | .ok payload =>
    match payload.repoFullName with
    | none => .error (.rejected 400 "Event has no repository")
    | some repo => .ok ⟨kind, repo, payload.notice kind, r.header? deliveryHeader⟩

/-- Verifies a request. -/
def verify (r : Request) (secret : Option String) : Except Failure Verified := do
  let kind ← r.eventKind
  r.checkSignature secret
  if kind = "ping" then .ok .ping
  else do
    let e ← r.event kind
    .ok (.event e)

end Request

end WebhookRelay.Delivery
