import WebhookRelay.Delivery.Route
import WebhookRelay.Forms
import WebhookRelay.Http.MediaType
import WebhookRelay.Http.Message
import WebhookRelay.Http.Percent
import WebhookRelay.Settings
import WebhookRelay.Sync.Configure

/-!
# The server's routes

There are two: deliveries come in under `/services/hooks/` and the id of a service, and services are
configured under `/admin/configureService`. Both take `POST` only.
-/

namespace WebhookRelay.Http

variable {C : Type}

/-- What a path leads to. -/
inductive Route where
  /-- deliveries to the service of an id, which stands in the path as given -/
  | hooks (id : List Char)
  /-- the configuration of services -/
  | configure
  deriving DecidableEq

/-- What a path leads to, if it leads anywhere. -/
def Route.ofPath (path : List Char) : Option Route :=
  if path = "/admin/configureService".toList then some .configure
  else
    match Text.dropStart? hooksPath.toList path with
    | some id => if id.isEmpty || id.contains '/' then none else some (.hooks id)
    | none => none

/-- A number as a status: one that is none becomes 500. -/
def statusOf (code : Nat) : Nat := if 100 ≤ code && code ≤ 999 then code else 500

/-- The response that reports a failure. -/
def failed (e : Failure) : Response :=
  let status := statusOf e.status
  ⟨status, some (.object [("error", .text e.message), ("code", .number (.ofNat status))])⟩

/-- The response that reports what became of a declaration. -/
def configured (c : Configured) : Response :=
  ⟨200, some (.object [("old", .ofOption Service.toJson c.old), ("new", c.new.toJson),
    ("created", .texts c.prepared.created),
    ("already_existing", .texts c.prepared.alreadyThere),
    ("removed", .texts c.settled.removed), ("failed_removals", .texts c.settled.failed),
    ("pruned", .bool c.settled.pruned)])⟩

/-- Takes in a delivery to the service whose id stands in the path. -/
def deliver (credentials : Credentials C) (id : List Char) (r : Request) : Program C Response :=
  match Utf8.decode? (Percent.decode id) with
  | none => .done ⟨400, none⟩
  | some id =>
    (Delivery.handleFor credentials id r.toDelivery).bind fun response =>
      .done ⟨statusOf response.status, none⟩

/-- The declaration in a request, or the status of a request that holds none. -/
def declaration (r : Request) : Except Nat Service :=
  match r.firstHeader? "content-type" with
  | none => .error 415
  | some declared =>
    if !MediaType.isJson declared then .error 415
    else
      match Json.decode Service.ofRequest r.body with
      | .error .grammar => .error 400
      | .error .shape => .error 422
      | .ok s => .ok s

/-- Has the declaration in a request take effect. -/
def configure (settings : ServerSettings) (credentials : Credentials C) (r : Request) :
    Program C Response :=
  match declaration r with
  | .error status => .done ⟨status, none⟩
  | .ok s =>
    if s.id.isEmpty then .done (failed (.misconfigured "id is required"))
    else
      -- where deliveries go is for the server to say
      (Service.configure credentials { s with callbackUrl := settings.callbackUrl s.id }).bind fun
        | .ok c => .done (configured c)
        | .error e => .done (failed e)

/-- Answers a request. -/
def answer (settings : ServerSettings) (credentials : Credentials C) (r : Request) :
    Program C Response :=
  match Route.ofPath r.path with
  | none => .done ⟨404, none⟩
  | some route =>
    if r.method ≠ "POST" then .done ⟨405, none⟩
    else
      match route with
      | .hooks id => deliver credentials id r
      | .configure => configure settings credentials r

end WebhookRelay.Http
