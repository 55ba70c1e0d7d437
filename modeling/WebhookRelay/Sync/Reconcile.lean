import WebhookRelay.Sync.Install

/-!
# From one declaration of a service to the next

The hooks of a service follow its declaration in two phases. `prepare` creates hooks on the
repositories that are new and joins the rooms; it stops at the first failure. `settle` removes the
hooks that are no longer needed and forgets a service that needs none at all; it never fails, and
what it could not remove is reported.
-/

namespace WebhookRelay.Reconcile

variable {C : Type}

/-! ## Phase 1 -/

/-- What the first phase did. -/
structure Prepared where
  /-- the repositories a hook was created on -/
  created : List String := []
  /-- the repositories a hook was on already -/
  alreadyThere : List String := []
  /-- the rooms that were joined -/
  joined : List String := []
  /-- the repositories the second phase is to take the hook from -/
  pending : List String := []
  deriving DecidableEq

/-- Installs the hook of a service on repositories, one after the other. -/
def installAll (s : Service) (client : C) (report : Prepared) :
    List String → Program C (Except Failure Prepared)
  | [] => .done (.ok report)
  | repo :: rest =>
    (s.install client repo).onSuccess fun
      | .created => installAll s client { report with created := report.created ++ [repo] } rest
      | .alreadyThere =>
        installAll s client { report with alreadyThere := report.alreadyThere ++ [repo] } rest

/-- Joins rooms, one after the other. -/
def joinAll (report : Prepared) : List String → Program C (Except Failure Prepared)
  | [] => .done (.ok report)
  | room :: rest =>
    .call (.join room) fun
      | .ok () => joinAll { report with joined := report.joined ++ [room] } rest
      | .error e => .done (.error e)

/-- The client that a service is set up with. -/
def clientFor (credentials : Credentials C) (s : Service) : Except Failure C :=
  if s.realm.isEmpty || s.user.isEmpty then
    .error (.misconfigured "realm_id and user_id are required")
  else
    match credentials.realmType s.realm with
    | none => .error (.misconfigured s!"Unknown realm {s.realm}")
    | some kind =>
      if kind ≠ githubRealm then
        .error (.misconfigured s!"Realm is of type '{kind}', not '{githubRealm}'")
      else
        match credentials.client s.realm s.user with
        | none => .error (.noSession s.realm s.user)
        | some client => .ok client

/-- The repositories that gain a hook and those that lose theirs. -/
def change (new : Service) (old : Option Service) : RepoChange :=
  .between (Service.reposOf old) new.repos

/-- The first phase. -/
def prepare (credentials : Credentials C) (new : Service) (old : Option Service) :
    Program C (Except Failure Prepared) :=
  match clientFor credentials new with
  | .error e => .done (.error e)
  | .ok client =>
    let change := change new old
    -- a declaration without repositories makes sense only if it takes hooks away
    if new.repos.isEmpty && change.removed.isEmpty then
      .done (.error (.misconfigured "No webhooks specified"))
    else
      (installAll new client { pending := change.removed.toList } change.added.toList).onSuccess
        fun report => joinAll report new.rooms.keys

/-! ## Phase 2 -/

/-- The removal of a hook from a repository. -/
structure Removal where
  repo : String
  /-- the number the hook had, or why it was not removed -/
  result : Except Failure UInt64

/-- What the second phase did. -/
structure Settled where
  /-- the removals, in order -/
  removals : List Removal
  /-- whether the service was forgotten -/
  pruned : Bool

namespace Settled

/-- The repositories whose hook was removed. -/
def removed (s : Settled) : List String := (s.removals.filter (·.result.isOk)).map (·.repo)

/-- The repositories whose hook could not be removed. -/
def failed (s : Settled) : List String := (s.removals.filter (!·.result.isOk)).map (·.repo)

end Settled

/-- Removes the hook of a service from a repository given by its full name. -/
def uninstallNamed (credentials : Credentials C) (s : Service) (repo : String) :
    Program C (Except Failure UInt64) :=
  match RepoName.parse repo with
  | .ok name => s.uninstall credentials name
  | .error e => .done (.error e)

/-- Removes the hook of a service from repositories, one after the other, whatever fails. -/
def uninstallAll (credentials : Credentials C) (s : Service) (done : List Removal) :
    List String → Program C (List Removal)
  | [] => .done done
  | repo :: rest =>
    (uninstallNamed credentials s repo).bind fun result =>
      uninstallAll credentials s (done ++ [⟨repo, result⟩]) rest

/-- The second phase. -/
def settle (credentials : Credentials C) (new : Service) (old : Option Service) :
    Program C Settled :=
  (uninstallAll credentials new [] (change new old).removed.toList).bind fun removals =>
    if new.repos.isEmpty then
      .call (.forget new.id) fun reply => .done ⟨removals, reply.isOk⟩
    else .done ⟨removals, false⟩

end WebhookRelay.Reconcile
