import WebhookRelay.Http.Router
import WebhookRelay.Rest.Chat
import WebhookRelay.Rest.Hooks

/-!
# The server

The server keeps services in memory and talks to the provider and the chat server over HTTP.
`Server.answer` answers the calls of a program that way; a client is a user's token.
-/

namespace WebhookRelay

/-- A server at work; `σ` is what the servers it talks to are in. -/
structure Server (σ : Type) where
  store : Table Service := ∅
  /-- how many messages have been sent -/
  sent : Nat := 0
  peer : σ

namespace Server

variable {σ : Type}

/-- The client of the provider for a user. -/
def hookClient (settings : Settings) (token : String) : Rest.HookClient :=
  ⟨settings.provider.apiUrl, token, settings.provider.timeout⟩

/-- Answers a call. A listing may have as many pages as given. -/
def answer (settings : Settings) (peer : Rest.Peer σ) (pages : Nat) :
    Program.Handler String (Server σ)
  | .load id, s => (.ok (s.store.get? id), s)
  | .save service, s => (.ok (), { s with store := s.store.insert service.id service })
  | .forget id, s => (.ok (), { s with store := s.store.erase id })
  | .join room, s =>
    let (reply, p) := Rest.Chat.join settings.chat peer room s.peer
    (reply, { s with peer := p })
  | .send room m, s =>
    let mark := s!"m{s.sent}"
    let (reply, p) := Rest.Chat.sendMessage settings.chat peer room mark m s.peer
    (reply, { s with peer := p, sent := s.sent + 1 })
  | .listHooks token repo, s =>
    let (reply, p) := (hookClient settings token).list peer pages repo s.peer
    (reply, { s with peer := p })
  | .createHook token repo spec, s =>
    let (reply, p) := (hookClient settings token).create peer repo spec s.peer
    (reply, { s with peer := p })
  | .deleteHook token repo id, s =>
    let (reply, p) := (hookClient settings token).delete peer repo id s.peer
    (reply, { s with peer := p })

/-- Answers a request to the server. -/
def respond (settings : Settings) (peer : Rest.Peer σ) (pages : Nat) (r : Http.Request)
    (s : Server σ) : Http.Response × Server σ :=
  (Http.answer settings.server (TokenBook.ofTokens settings.tokens).credentials r).run
    (answer settings peer pages) s

end Server

end WebhookRelay
