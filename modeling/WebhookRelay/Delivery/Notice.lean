import WebhookRelay.Delivery.Payload
import WebhookRelay.Text.Split

/-!
# Notices

The message that a room gets about an event: one line that says who did what where, and for a push
up to three commits, each by the start of its id and the first line of its message.
-/

namespace WebhookRelay.Delivery

/-- What stands before the name of a branch in the full name of its ref. -/
def branchStart : String := "refs/heads/"

/-- A text without `start` at its beginning, as often as it stands there; `n` bounds how often. -/
def dropStarts (start : List Char) : Nat → List Char → List Char
  | 0, text => text
  | n + 1, text =>
    match Text.dropStart? start text with
    | some rest => dropStarts start n rest
    | none => text

/-- The branch a ref names. -/
def branchOf (ref : String) : String :=
  String.ofList (dropStarts branchStart.toList ref.toList.length ref.toList)

/-- The first line of a text, without the end of the line. -/
def firstLine (text : String) : String :=
  match Text.cutAtFirst '\n' text.toList with
  | none => text
  | some (line, _) =>
    String.ofList (if line.getLast? = some '\r' then line.dropLast else line)

/-- How many commits a notice lists. -/
def listedCommits : Nat := 3

/-- How many characters of a commit's id a notice shows. -/
def shownOfId : Nat := 7

namespace Payload

/-- The line for one commit. -/
def commitLine (c : Commit) : String :=
  s!"\n{String.ofList (c.id.toList.take shownOfId)}: {firstLine c.message}"

/-- The first line of a notice about a push. -/
def pushHeadline (p : Payload) (repo sender : String) : String :=
  let count := p.commits.length
  let noun := if count = 1 then "commit" else "commits"
  let branch := (p.ref.map branchOf).getD "?"
  let link := (p.compare.map fun url => s!": {url}").getD ""
  s!"[{repo}] {sender} pushed {count} {noun} to {branch}{link}"

/-- The line that says how many commits are not listed. -/
def moreLine (p : Payload) : String :=
  let count := p.commits.length
  if listedCommits < count then s!"\n... and {count - listedCommits} more" else ""

/-- The notice about a push. -/
def pushNotice (p : Payload) (repo sender : String) : String :=
  p.pushHeadline repo sender ++ String.join ((p.commits.take listedCommits).map commitLine) ++
    p.moreLine

/-- How an issue or a pull request is referred to. -/
def describe (i : Issue) : String :=
  match i.htmlUrl with
  | some url => s!"#{i.number}: {i.title} - {url}"
  | none => s!"#{i.number}: {i.title}"

/-- The text of the notice about an event. -/
def noticeText (p : Payload) (event : String) : String :=
  let repo := p.repoFullName.getD "unknown/unknown"
  let sender := p.senderLogin
  let action := p.action.getD "updated"
  let other := s!"[{repo}] {sender} triggered {event}"
  let about (subject : Option Issue) (deed : String) : String :=
    match subject with
    | some i => s!"[{repo}] {sender} {deed} {describe i}"
    | none => other
  match event with
  | "push" => p.pushNotice repo sender
  | "pull_request" => about p.pullRequest s!"{action} pull request"
  | "issues" => about p.issue s!"{action} issue"
  | "issue_comment" => about p.issue "commented on"
  | "pull_request_review_comment" => about p.pullRequest "reviewed pull request"
  | _ => other

/-- The notice about an event. -/
def notice (p : Payload) (event : String) : Message := .notice (p.noticeText event)

end Payload

end WebhookRelay.Delivery
