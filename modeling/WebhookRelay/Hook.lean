import WebhookRelay.Json.Value
import WebhookRelay.Service

/-!
# Hooks and messages

What is exchanged with the two sides: a `HookSpec` asks the provider for a hook, a `Hook` is one
that is installed, a `Message` goes to a room. A hook belongs to whoever its callback URL names, so
hooks are told apart by `Hook.callbackUrl?` and not by the numbers the provider gives them.
-/

namespace WebhookRelay

/-- A hook to be created. -/
structure HookSpec where
  name : String
  active : Bool
  events : List String
  config : Table String
  deriving DecidableEq

/-- The URL a hook to be created would report to. -/
def HookSpec.url? (s : HookSpec) : Option String := s.config.get? "url"

/-- A hook that is installed on a repository. -/
structure Hook where
  /-- the number the provider gave it -/
  id : UInt64
  name : String := ""
  active : Bool := false
  events : List String := []
  config : Table Json.Value := ∅

/-- The URL a hook reports to, if it is a text. -/
def Hook.callbackUrl? (h : Hook) : Option String := (h.config.get? "url").bind Json.Value.text?

/-- The hook a specification describes, under a number. -/
def HookSpec.install (s : HookSpec) (id : UInt64) : Hook where
  id := id
  name := s.name
  active := s.active
  events := s.events
  config := Table.ofList (s.config.entries.map fun e => (e.1, Json.Value.text e.2))

/-- The kinds of event a hook is created for. -/
def hookEvents : List String :=
  ["push", "pull_request", "issues", "issue_comment", "pull_request_review_comment"]

/-- The hook a service needs on each of its repositories. -/
def Service.hookSpec (s : Service) : HookSpec where
  name := "web"
  active := true
  events := hookEvents
  config :=
    let config := Table.ofList [("content_type", "json"), ("url", s.callbackUrl)]
    match s.secret with
    | some secret => config.insert "secret" secret
    | none => config

/-- A message to a chat room. -/
structure Message where
  msgtype : String
  body : String
  deriving DecidableEq

/-- A message that is not meant for a person to answer. -/
def Message.notice (body : String) : Message := ⟨"m.notice", body⟩

end WebhookRelay
