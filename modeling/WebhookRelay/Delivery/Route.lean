import WebhookRelay.Delivery.Verify
import WebhookRelay.Sync.Install

/-!
# Routing deliveries

A verified event goes to every room that names its repository and wants its kind. If no room names
the repository, the delivery comes from a hook nobody needs any more, and the hook is removed.
-/

namespace WebhookRelay.Delivery

variable {C : Type}

/-- A message that was sent to a room. -/
structure Sent where
  room : String
  result : Except Failure Unit

/-- What was done about a delivery. -/
structure Report where
  /-- the kind of event -/
  event : Option String := none
  /-- the repository -/
  repo : Option String := none
  /-- how many keys of rooms name the repository -/
  matched : Nat := 0
  /-- the messages sent, in order -/
  sent : List Sent := []
  /-- the removal of a hook nobody needs -/
  cleanup : Option (Except Failure UInt64) := none

/-- The rooms that got the message. -/
def Report.notified (r : Report) : List String :=
  (r.sent.filter (·.result.isOk)).map (·.room)

/-- The answer to a delivery. -/
structure Response where
  /-- the HTTP status -/
  status : Nat
  /-- what was done -/
  report : Report := {}

/-- Sends a message to rooms, one after the other, whatever fails. -/
def sendAll (message : Message) (done : List Sent) : List String → Program C (List Sent)
  | [] => .done done
  | room :: rest =>
    .call (.send room message) fun result => sendAll message (done ++ [⟨room, result⟩]) rest

/-- Routes a verified event. -/
def route (credentials : Credentials C) (s : Service) (e : Event) : Program C Response :=
  let bindings := s.bindings e.repo
  let report : Report := { event := some e.kind, repo := some e.repo, matched := bindings.length }
  if bindings.isEmpty then
    -- nobody names the repository, so the hook that sent this is not needed any more
    match RepoName.parse e.repo with
    | .error _ => .done ⟨400, report⟩
    | .ok repo =>
      (s.uninstall credentials repo).bind fun result =>
        .done ⟨200, { report with cleanup := some result }⟩
  else
    (sendAll e.message [] ((bindings.filter (·.2.wants e.kind)).map (·.1))).bind fun sent =>
      .done ⟨200, { report with sent := sent }⟩

/-- Answers a request that is a delivery to a service. -/
def handle (credentials : Credentials C) (s : Service) (r : Request) : Program C Response :=
  match r.verify s.secret with
  | .error e => .done ⟨e.status, {}⟩
  | .ok .ping => .done ⟨200, {}⟩
  | .ok (.event e) => route credentials s e

/-- Answers a request that is a delivery to the service stored under an id. -/
def handleFor (credentials : Credentials C) (id : String) (r : Request) : Program C Response :=
  .call (.load id) fun
    | .ok (some s) => handle credentials s r
    | .ok none => .done ⟨404, {}⟩
    | .error e => .done ⟨e.status, {}⟩

end WebhookRelay.Delivery
