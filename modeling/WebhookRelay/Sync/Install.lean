import WebhookRelay.Program

/-!
# Installing and removing one hook

A hook is recognised by its callback URL and not by its number, which the relay never stores; so
creating a hook that is there is no failure, and a hook that somebody created anew is still found.
-/

namespace WebhookRelay

variable {C : Type}

/-- How it came that a hook is there. -/
inductive Installed where
  | created
  | alreadyThere
  deriving DecidableEq, Repr

namespace Service

/-- Installs the hook of a service on a repository. -/
def install (s : Service) (client : C) (repo : String) :
    Program C (Except Failure Installed) :=
  match RepoName.parse repo with
  | .error e => .done (.error e)
  | .ok name =>
    .call (.createHook client name s.hookSpec) fun
      | .ok _ => .done (.ok .created)
      | .error e => .done (if e.isHookExists then .ok .alreadyThere else .error e)

/-- Removes the first hook of a service from a repository and tells its number. -/
def uninstall (s : Service) (credentials : Credentials C) (repo : RepoName) :
    Program C (Except Failure UInt64) :=
  match credentials.client s.realm s.user with
  | none => .done (.error (.noSession s.realm s.user))
  | some client =>
    .call (.listHooks client repo) fun
      | .error e => .done (.error e)
      | .ok hooks =>
        match hooks.find? fun h => h.callbackUrl? = some s.callbackUrl with
        | none => .done (.error (.hookNotFound repo.fullName s.callbackUrl))
        | some hook =>
          .call (.deleteHook client repo hook.id) fun
            | .ok () => .done (.ok hook.id)
            | .error e => .done (.error e)

end Service

end WebhookRelay
