import WebhookRelay.NameSet
import WebhookRelay.RepoName
import WebhookRelay.Table

/-!
# Services: who wants to hear about what

A `Service` declares which chat rooms want which events of which repositories, where the provider
is to report them, and as whom the relay acts. What follows from a declaration alone is here: the
repositories it needs hooks on (`Service.repos`), the change from one declaration to the next
(`RepoChange.between`) and the rooms an event goes to (`Service.bindings`).

Repository keys are compared without regard to ASCII case, and keys that do not name a repository
take no part in `Service.repos`.
-/

namespace WebhookRelay

/-- What a room wants to hear of one repository. -/
structure Watch where
  /-- the kinds of event -/
  events : NameSet := ∅
  deriving DecidableEq

/-- Whether events of a kind are wanted. -/
def Watch.wants (w : Watch) (event : String) : Bool := event ∈ w.events

/-- A chat room and the repositories it watches. -/
structure Room where
  /-- the repositories as they were written, each with what is wanted of it -/
  repos : Table Watch := ∅
  deriving DecidableEq

/-- One declared service. -/
structure Service where
  /-- the name it is stored under -/
  id : String
  /-- where the provider reports events -/
  callbackUrl : String
  /-- the realm whose provider is used -/
  realm : String := ""
  /-- the user the relay acts as -/
  user : String := ""
  /-- the secret deliveries are signed with; empty for none -/
  secretToken : String := ""
  /-- the rooms -/
  rooms : Table Room := ∅
  deriving DecidableEq

namespace Service

/-- The secret deliveries are signed with, if there is one. -/
def secret (s : Service) : Option String :=
  if s.secretToken.isEmpty then none else some s.secretToken

/-- The service with a room added, unless it is there. -/
def addRoom (s : Service) (room : String) : Service :=
  { s with rooms := s.rooms.alter room (·.getD {}) }

/-- The service in which `room` watches `repo` for the given events. -/
def bind (s : Service) (room repo : String) (events : List String) : Service :=
  { s with rooms := s.rooms.alter room fun r =>
      { repos := (r.getD {}).repos.insert repo ⟨NameSet.ofList events⟩ } }

/-- Every repository key of every room, as written. -/
def repoKeys (s : Service) : List String := s.rooms.entries.flatMap fun e => e.2.repos.keys

/-- The repositories a service needs hooks on, in lower case. -/
def repos (s : Service) : NameSet :=
  NameSet.ofList ((s.repoKeys.filter RepoName.wellFormed).map Text.asciiLower)

/-- The repositories of a service that may be absent. -/
def reposOf : Option Service → NameSet
  | none => ∅
  | some s => s.repos

/-- The rooms that name a repository, once for each key that does, with what they want of it. -/
def bindings (s : Service) (repo : String) : List (String × Watch) :=
  s.rooms.entries.flatMap fun (room, r) =>
    (r.repos.entries.filter fun e => Text.asciiLower e.1 = Text.asciiLower repo).map fun e =>
      (room, e.2)

end Service

/-! ## The change between two declarations -/

/-- Which repositories gain a hook and which lose theirs. -/
structure RepoChange where
  /-- needed now and not before -/
  added : NameSet
  /-- needed before and not now -/
  removed : NameSet
  deriving DecidableEq

namespace RepoChange

/-- The change from a set of repositories to another. -/
def between (old new : NameSet) : RepoChange := ⟨new.diff old, old.diff new⟩

/-- Whether nothing changes. -/
def isEmpty (c : RepoChange) : Bool := c.added.isEmpty && c.removed.isEmpty

end RepoChange

end WebhookRelay
