import WebhookRelay.Hook

/-!
# A provider in memory

It keeps hooks per repository, refuses a second hook for one URL, and records every call. Names of
repositories do not tell ASCII case apart. A repository can be made to fail: calls for it are
recorded and change nothing.
-/

namespace WebhookRelay.Memory

/-- A call as the provider records it. -/
inductive Recorded where
  | list (repo : String)
  | create (repo : String)
  | delete (repo : String) (id : UInt64)
  deriving DecidableEq

/-- Whether a call is a deletion. -/
def Recorded.isDelete : Recorded → Bool
  | delete .. => true
  | _ => false

/-- A provider. -/
structure Provider where
  /-- the hooks of each repository, oldest first -/
  installed : Table (List Hook) := ∅
  /-- the number the next hook gets -/
  nextId : UInt64 := 1
  /-- the calls so far -/
  calls : List Recorded := []
  /-- the repositories that fail -/
  failing : NameSet := ∅

namespace Provider

instance : Inhabited Provider := ⟨{}⟩

/-- The hooks on a repository. -/
def hooksOn (p : Provider) (repo : String) : List Hook :=
  (p.installed.get? (Text.asciiLower repo)).getD []

/-- The provider with other hooks on a repository. -/
def setHooks (p : Provider) (repo : String) (hooks : List Hook) : Provider :=
  { p with installed := p.installed.insert (Text.asciiLower repo) hooks }

/-- Makes a repository fail. -/
def fail (p : Provider) (repo : String) : Provider :=
  { p with failing := p.failing.insert (Text.asciiLower repo) }

/-- Puts a hook on a repository behind everybody's back; also gives its number. -/
def insertHook (p : Provider) (repo : String) (config : Table Json.Value) : UInt64 × Provider :=
  let hook : Hook := { id := p.nextId, name := "web", active := true, config := config }
  (p.nextId, { p.setHooks repo (p.hooksOn repo ++ [hook]) with nextId := p.nextId + 1 })

/-- Takes every hook off a repository. -/
def clear (p : Provider) (repo : String) : Provider :=
  { p with installed := p.installed.erase (Text.asciiLower repo) }

/-- Records a call, which fails if its repository does. -/
def record (p : Provider) (repo : String) (call : Recorded) : Except Failure Unit × Provider :=
  (if Text.asciiLower repo ∈ p.failing then
      .error (.refused 500 s!"Simulated failure for {repo}" [])
    else .ok (),
    { p with calls := p.calls ++ [call] })

/-- Lists the hooks on a repository. -/
def list (p : Provider) (repo : RepoName) : Except Failure (List Hook) × Provider :=
  match p.record repo.fullName (.list repo.fullName) with
  | (.error e, p) => (.error e, p)
  | (.ok (), p) => (.ok (p.hooksOn repo.fullName), p)

/-- What a second hook for one URL is refused with. -/
def duplicate : Failure :=
  .refused 422 "Validation Failed" ["Hook already exists on this repository"]

/-- Creates a hook, unless there is one that reports to the same URL. -/
def create (p : Provider) (repo : RepoName) (spec : HookSpec) : Except Failure Hook × Provider :=
  match p.record repo.fullName (.create repo.fullName) with
  | (.error e, p) => (.error e, p)
  | (.ok (), p) =>
    let hooks := p.hooksOn repo.fullName
    if hooks.any fun h => h.callbackUrl? = spec.url? then (.error duplicate, p)
    else
      let hook := spec.install p.nextId
      (.ok hook, { p.setHooks repo.fullName (hooks ++ [hook]) with nextId := p.nextId + 1 })

/-- Deletes the hook of a number. -/
def delete (p : Provider) (repo : RepoName) (id : UInt64) : Except Failure Unit × Provider :=
  match p.record repo.fullName (.delete repo.fullName id) with
  | (.error e, p) => (.error e, p)
  | (.ok (), p) =>
    let hooks := p.hooksOn repo.fullName
    let left := hooks.filter (·.id ≠ id)
    -- if nothing was taken out, there was no such hook
    if left.length = hooks.length then (.error (.refused 404 "Not Found" []), p)
    else (.ok (), p.setHooks repo.fullName left)

end Provider

end WebhookRelay.Memory
