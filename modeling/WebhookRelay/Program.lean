import WebhookRelay.Hook

/-!
# Programs: what the relay asks of others

The relay has four collaborators: a store of services, a chat server, providers with hooks on
repositories, and the credentials that say who is signed in where. The first three can fail and
change things, and each request to them is a `Call`. A `Program` is a tree of calls, each with what
is done for every answer; so what a program does, and in which order, is data, and where the answers
come from is left open. `Program.run` takes them from a handler with a state.

Credentials only ever answer, so they are passed as functions (`Credentials`).

The kind of client that credentials hand out is a parameter `C` throughout.
-/

namespace WebhookRelay

/-- A request to a collaborator. -/
inductive Call (C : Type) where
  /-- look up the service stored under an id -/
  | load (id : String)
  /-- store a service under its id -/
  | save (service : Service)
  /-- forget the service stored under an id -/
  | forget (id : String)
  /-- join a room -/
  | join (room : String)
  /-- send a message to a room -/
  | send (room : String) (message : Message)
  /-- list the hooks on a repository -/
  | listHooks (client : C) (repo : RepoName)
  /-- create a hook on a repository -/
  | createHook (client : C) (repo : RepoName) (spec : HookSpec)
  /-- delete a hook from a repository -/
  | deleteHook (client : C) (repo : RepoName) (id : UInt64)

/-- What a call is answered with when it succeeds. -/
abbrev Call.Answer {C : Type} : Call C → Type
  | load _ => Option Service
  | listHooks .. => List Hook
  | createHook .. => Hook
  | save _ | forget _ | join _ | send .. | deleteHook .. => Unit

/-- What comes back from a call. -/
abbrev Call.Reply {C : Type} (c : Call C) : Type := Except Failure c.Answer

/-- A program that ends in a value of type `α`. -/
inductive Program (C : Type) (α : Type) : Type where
  /-- end with a value -/
  | done (a : α)
  /-- make a call and go on with its reply -/
  | call (c : Call C) (next : c.Reply → Program C α)

namespace Program

variable {C α β γ σ : Type}

/-- Goes on with the value a program ends in. -/
protected def bind : Program C α → (α → Program C β) → Program C β
  | done a, f => f a
  | call c next, f => call c fun reply => (next reply).bind f

instance : Monad (Program C) where
  pure := done
  bind := Program.bind

/-- One call by itself. -/
def ask (c : Call C) : Program C c.Reply := call c done

/-- Goes on with a success and ends with a failure. -/
def onSuccess (p : Program C (Except Failure α)) (f : α → Program C (Except Failure β)) :
    Program C (Except Failure β) :=
  p.bind fun
    | .ok a => f a
    | .error e => done (.error e)

@[simp] theorem done_bind (a : α) (f : α → Program C β) : (done a).bind f = f a := rfl

@[simp] theorem bind_done (p : Program C α) : p.bind done = p := by
  induction p with
  | done a => rfl
  | call c next ih => exact congrArg (call c) (funext ih)

theorem bind_assoc (p : Program C α) (f : α → Program C β) (g : β → Program C γ) :
    (p.bind f).bind g = p.bind fun a => (f a).bind g := by
  induction p with
  | done a => rfl
  | call c next ih => exact congrArg (call c) (funext ih)

instance : LawfulMonad (Program C) :=
  LawfulMonad.mk' (Program C) bind_done (fun _ _ => rfl) bind_assoc

/-! ### Running -/

/-- Where the answers come from: a reply to each call, and the state after it. -/
abbrev Handler (C σ : Type) := (c : Call C) → σ → c.Reply × σ

/-- Runs a program. -/
def run (handler : Handler C σ) : Program C α → σ → α × σ
  | done a, s => (a, s)
  | call c next, s =>
    let (reply, s) := handler c s
    run handler (next reply) s

@[simp] theorem run_done (handler : Handler C σ) (a : α) (s : σ) :
    run handler (done a) s = (a, s) := rfl

@[simp] theorem run_call (handler : Handler C σ) (c : Call C) (next : c.Reply → Program C α)
    (s : σ) :
    run handler (call c next) s = run handler (next (handler c s).1) (handler c s).2 := rfl

/-- Running in sequence is running one after the other. -/
theorem run_bind (handler : Handler C σ) (p : Program C α) (f : α → Program C β) (s : σ) :
    run handler (p.bind f) s = run handler (f (run handler p s).1) (run handler p s).2 := by
  induction p generalizing s with
  | done a => rfl
  | call c next ih => exact ih _ _

end Program

/-! ## Credentials -/

/-- Who is signed in where. -/
structure Credentials (C : Type) where
  /-- the kind of a realm, if the realm is known -/
  realmType : String → Option String
  /-- the client of a user in a realm, if the user is signed in -/
  client : String → String → Option C

/-- The kind of realm that the relay can work with. -/
def githubRealm : String := "github"

end WebhookRelay
