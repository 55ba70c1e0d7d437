import WebhookRelay.Forms

/-!
# Payloads

The part of a delivery's body that the relay looks at. Everything else in a body is passed over.
-/

namespace WebhookRelay.Delivery

open Json

/-- The repository an event happened in. -/
structure Repository where
  fullName : String
  htmlUrl : Option String := none
  deriving DecidableEq

/-- Who caused an event. -/
structure Account where
  login : String
  deriving DecidableEq

/-- A commit that was pushed. -/
structure Commit where
  id : String
  message : String := ""
  deriving DecidableEq

/-- An issue or a pull request. -/
structure Issue where
  number : UInt64
  title : String := ""
  htmlUrl : Option String := none
  deriving DecidableEq

/-- A comment on an issue or a pull request. -/
structure Comment where
  body : String := ""
  htmlUrl : Option String := none
  deriving DecidableEq

/-- The body of a delivery. -/
structure Payload where
  repository : Option Repository := none
  sender : Option Account := none
  action : Option String := none
  /-- the branch or tag that was pushed to -/
  ref : Option String := none
  commits : List Commit := []
  compare : Option String := none
  issue : Option Issue := none
  pullRequest : Option Issue := none
  comment : Option Comment := none
  deriving DecidableEq

namespace Payload

/-- The name of the repository an event happened in. -/
def repoFullName (p : Payload) : Option String := p.repository.map (·.fullName)

/-- Who caused an event. -/
def senderLogin (p : Payload) : String := (p.sender.map (·.login)).getD "someone"

end Payload

/-! ## JSON forms -/

namespace Repository

/-- The fields of a repository. -/
def fields : List (Json.Field Repository) :=
  [⟨"full_name", .required, fun d r => do .ok { r with fullName := ← d.toText }⟩,
    ⟨"html_url", .optional, fun d r => do .ok { r with htmlUrl := ← d.toOption Doc.toText }⟩]

/-- Reads a repository. -/
def ofDoc (d : Doc) : Except Fault Repository := record fields ⟨"", none⟩ d

/-- Writes a repository. -/
def toJson (r : Repository) : Value :=
  .object [("full_name", .text r.fullName), ("html_url", .ofOption .text r.htmlUrl)]

end Repository

namespace Account

/-- The fields of an account. -/
def fields : List (Json.Field Account) :=
  [⟨"login", .required, fun d a => do .ok { a with login := ← d.toText }⟩]

/-- Reads an account. -/
def ofDoc (d : Doc) : Except Fault Account := record fields ⟨""⟩ d

/-- Writes an account. -/
def toJson (a : Account) : Value := .object [("login", .text a.login)]

end Account

namespace Commit

/-- The fields of a commit. -/
def fields : List (Json.Field Commit) :=
  [⟨"id", .required, fun d c => do .ok { c with id := ← d.toText }⟩,
    ⟨"message", .defaulted, fun d c => do .ok { c with message := ← d.toText }⟩]

/-- Reads a commit. -/
def ofDoc (d : Doc) : Except Fault Commit := record fields ⟨"", ""⟩ d

/-- Writes a commit. -/
def toJson (c : Commit) : Value := .object [("id", .text c.id), ("message", .text c.message)]

end Commit

namespace Issue

/-- The fields of an issue. -/
def fields : List (Json.Field Issue) :=
  [⟨"number", .required, fun d i => do .ok { i with number := ← d.toUInt64 }⟩,
    ⟨"title", .defaulted, fun d i => do .ok { i with title := ← d.toText }⟩,
    ⟨"html_url", .optional, fun d i => do .ok { i with htmlUrl := ← d.toOption Doc.toText }⟩]

/-- Reads an issue. -/
def ofDoc (d : Doc) : Except Fault Issue := record fields ⟨0, "", none⟩ d

/-- Writes an issue. -/
def toJson (i : Issue) : Value :=
  .object [("number", .number (.ofNat i.number.toNat)), ("title", .text i.title),
    ("html_url", .ofOption .text i.htmlUrl)]

end Issue

namespace Comment

/-- The fields of a comment. -/
def fields : List (Json.Field Comment) :=
  [⟨"body", .defaulted, fun d c => do .ok { c with body := ← d.toText }⟩,
    ⟨"html_url", .optional, fun d c => do .ok { c with htmlUrl := ← d.toOption Doc.toText }⟩]

/-- Reads a comment. -/
def ofDoc (d : Doc) : Except Fault Comment := record fields ⟨"", none⟩ d

/-- Writes a comment. -/
def toJson (c : Comment) : Value :=
  .object [("body", .text c.body), ("html_url", .ofOption .text c.htmlUrl)]

end Comment

namespace Payload

/-- The fields of a payload. -/
def fields : List (Json.Field Payload) :=
  [⟨"repository", .optional, fun d p => do
      .ok { p with repository := ← d.toOption Repository.ofDoc }⟩,
    ⟨"sender", .optional, fun d p => do .ok { p with sender := ← d.toOption Account.ofDoc }⟩,
    ⟨"action", .optional, fun d p => do .ok { p with action := ← d.toOption Doc.toText }⟩,
    ⟨"ref", .optional, fun d p => do .ok { p with ref := ← d.toOption Doc.toText }⟩,
    ⟨"commits", .defaulted, fun d p => do .ok { p with commits := ← d.toList Commit.ofDoc }⟩,
    ⟨"compare", .optional, fun d p => do .ok { p with compare := ← d.toOption Doc.toText }⟩,
    ⟨"issue", .optional, fun d p => do .ok { p with issue := ← d.toOption Issue.ofDoc }⟩,
    ⟨"pull_request", .optional, fun d p => do
      .ok { p with pullRequest := ← d.toOption Issue.ofDoc }⟩,
    ⟨"comment", .optional, fun d p => do .ok { p with comment := ← d.toOption Comment.ofDoc }⟩]

/-- Reads a payload. -/
def ofDoc (d : Doc) : Except Fault Payload := record fields {} d

/-- Writes a payload. -/
def toJson (p : Payload) : Value :=
  .object [("repository", .ofOption Repository.toJson p.repository),
    ("sender", .ofOption Account.toJson p.sender), ("action", .ofOption .text p.action),
    ("ref", .ofOption .text p.ref), ("commits", .array (p.commits.map Commit.toJson)),
    ("compare", .ofOption .text p.compare), ("issue", .ofOption Issue.toJson p.issue),
    ("pull_request", .ofOption Issue.toJson p.pullRequest),
    ("comment", .ofOption Comment.toJson p.comment)]

end Payload

end WebhookRelay.Delivery
