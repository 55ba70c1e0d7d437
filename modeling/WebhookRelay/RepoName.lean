import WebhookRelay.Failure
import WebhookRelay.Text.Ascii
import WebhookRelay.Text.Split

/-!
# Repository names

A repository is written `owner/name`. `RepoName.parse` takes exactly the texts with one slash and
something on each side of it.
-/

namespace WebhookRelay

/-- A repository of an owner. -/
structure RepoName where
  /-- whose repository it is -/
  owner : String
  /-- what it is called -/
  name : String
  deriving DecidableEq, Repr

namespace RepoName

/-- The repository as it is written. -/
def fullName (r : RepoName) : String := r.owner ++ "/" ++ r.name

instance : ToString RepoName := ⟨fullName⟩

/-- Reads `owner/name`. -/
def parse (text : String) : Except Failure RepoName :=
  match Text.pieces '/' text.toList with
  | [owner, name] =>
    if owner.isEmpty || name.isEmpty then .error (.malformedRepo text)
    else .ok ⟨String.ofList owner, String.ofList name⟩
  | _ => .error (.malformedRepo text)

/-- Whether a text names a repository. -/
def wellFormed (text : String) : Bool := (parse text).isOk

/-- The name under which a repository is kept: providers do not tell the case of ASCII letters
apart. -/
def key (r : RepoName) : String := Text.asciiLower r.fullName

end RepoName

end WebhookRelay
