import WebhookRelay.Forms
import WebhookRelay.Rest.Exchange
import WebhookRelay.Settings
import WebhookRelay.Url.Read

/-!
# The chat server's interface

Rooms are joined and messages are sent by requests to the chat server. Each message has a number of
its own, by which the server tells a message that is sent again from a new one.
-/

namespace WebhookRelay.Rest

namespace Chat

/-! ## Requests -/

/-- The URL of an operation. -/
def url (c : ChatSettings) (segments : List String) : Except Failure Url :=
  match Url.read c.homeserverUrl.toList with
  | .error e => .error (.misconfigured s!"Invalid homeserver URL: {e.message}")
  | .ok base =>
    match base.extend ((["_matrix", "client", "v3"] ++ segments).map String.toList) with
    | some url => .ok url
    | none => .error (.misconfigured "Homeserver URL cannot be a base")

/-- The URL by which a room is joined. -/
def joinUrl (c : ChatSettings) (room : String) : Except Failure Url := url c ["join", room]

/-- The URL by which a message is sent, given what tells it from other messages. -/
def sendUrl (c : ChatSettings) (room mark : String) : Except Failure Url :=
  url c ["rooms", room, "send", "m.room.message", mark]

/-- A request to the chat server. -/
def request (c : ChatSettings) (method : String) (url : Url) (body : Json.Value) : Request where
  method := method
  url := url.withoutLogin
  headers :=
    loginHeader url ++
      [("content-type", "application/json"), ("authorization", s!"Bearer {c.accessToken}"),
        ("accept", "*/*")]
  body := some body
  timeout := c.timeout

/-! ## Operations -/

/-- What an answer says about a room. -/
def accept (room : String) : Except Outage Answer → Except Failure Unit
  | .error o => .error (.chat room o.message)
  | .ok a =>
    if a.isSuccess then .ok ()
    else .error (.chat room s!"HTTP {a.status}: {Utf8.decodeLossy a.body}")

variable {σ : Type}

/-- Puts a request about a room to the chat server. -/
def send (c : ChatSettings) (peer : Peer σ) (room method : String) (url : Except Failure Url)
    (body : Json.Value) (s : σ) : Except Failure Unit × σ :=
  match url with
  | .error e => (.error e, s)
  | .ok url =>
    let (result, s) := exchange peer (request c method url body) s
    (accept room result, s)

/-- Joins a room. -/
def join (c : ChatSettings) (peer : Peer σ) (room : String) (s : σ) : Except Failure Unit × σ :=
  send c peer room "POST" (joinUrl c room) (.object []) s

/-- Sends a message to a room. -/
def sendMessage (c : ChatSettings) (peer : Peer σ) (room mark : String) (m : Message) (s : σ) :
    Except Failure Unit × σ :=
  send c peer room "PUT" (sendUrl c room mark) m.toJson s

end Chat

end WebhookRelay.Rest
