import WebhookRelay.Memory.Provider
import WebhookRelay.Program

/-!
# A world in memory

A store, a chat server and any number of named providers, which together answer every call of a
program (`World.answer`). `Rehearsal.answer` puts faults in front: a call that is struck by one is
answered with the fault and does not reach the world.
-/

namespace WebhookRelay.Memory

/-! ## The world -/

/-- A chat server that records what is sent. -/
structure Chat where
  /-- the rooms joined, in order -/
  joined : List String := []
  /-- the messages sent, in order -/
  sent : List (String × Message) := []
  /-- the rooms that fail -/
  failing : NameSet := ∅

namespace Chat

/-- Whether a room takes joins and messages. -/
def admits (c : Chat) (room : String) : Except Failure Unit :=
  if room ∈ c.failing then .error (.chat room "Simulated failure") else .ok ()

/-- Joins a room. -/
def join (c : Chat) (room : String) : Except Failure Unit × Chat :=
  match c.admits room with
  | .error e => (.error e, c)
  | .ok () => (.ok (), { c with joined := c.joined ++ [room] })

/-- Sends a message to a room. -/
def send (c : Chat) (room : String) (m : Message) : Except Failure Unit × Chat :=
  match c.admits room with
  | .error e => (.error e, c)
  | .ok () => (.ok (), { c with sent := c.sent ++ [(room, m)] })

end Chat

/-- A store, a chat server and providers, each under a name. -/
structure World where
  store : Table Service := ∅
  chat : Chat := {}
  providers : Table Provider := ∅

namespace World

/-- The provider of a name. -/
def provider (w : World) (name : String) : Provider := (w.providers.get? name).getD {}

/-- The world with another provider under a name. -/
def setProvider (w : World) (name : String) (p : Provider) : World :=
  { w with providers := w.providers.insert name p }

/-- Answers a call. A client is the name of a provider. -/
def answer : Program.Handler String World
  | .load id, w => (.ok (w.store.get? id), w)
  | .save s, w => (.ok (), { w with store := w.store.insert s.id s })
  | .forget id, w => (.ok (), { w with store := w.store.erase id })
  | .join room, w =>
    let (reply, chat) := w.chat.join room
    (reply, { w with chat := chat })
  | .send room m, w =>
    let (reply, chat) := w.chat.send room m
    (reply, { w with chat := chat })
  | .listHooks client repo, w =>
    let (reply, p) := (w.provider client).list repo
    (reply, w.setProvider client p)
  | .createHook client repo spec, w =>
    let (reply, p) := (w.provider client).create repo spec
    (reply, w.setProvider client p)
  | .deleteHook client repo id, w =>
    let (reply, p) := (w.provider client).delete repo id
    (reply, w.setProvider client p)

end World

/-! ## Faults -/

/-- What a call does, in one word. -/
def method {C : Type} : Call C → String
  | .load _ => "get"
  | .save _ => "put"
  | .forget _ => "delete"
  | .join _ => "join"
  | .send .. => "send"
  | .listHooks .. => "list"
  | .createHook .. => "create"
  | .deleteHook .. => "delete"

/-- The calls to a provider that are answered with a failure. -/
structure ProviderFault where
  /-- the name of the provider -/
  provider : String
  /-- what the calls do -/
  method : String
  /-- the repository, in lower case -/
  repo : String
  /-- what they are answered with -/
  failure : Failure

/-- Faults that strike calls before they reach the world. -/
structure Faults where
  /-- the operations of the store that fail -/
  store : List String := []
  /-- the faults of providers, newest first -/
  providers : List ProviderFault := []

namespace Faults

/-- The fault that strikes calls to a provider. -/
def ofProvider (f : Faults) (provider method repo : String) : Option Failure :=
  (f.providers.find? fun p =>
    p.provider = provider ∧ p.method = method ∧ p.repo = Text.asciiLower repo).map (·.failure)

/-- The fault that strikes an operation of the store. -/
def ofStore (f : Faults) (op : String) : Option Failure :=
  if f.store.contains op then some (.storage s!"{op} failed") else none

/-- The fault that strikes a call, if one does. -/
def strike (f : Faults) (c : Call String) : Option Failure :=
  match c with
  | .load _ | .save _ | .forget _ => f.ofStore (method c)
  | .join _ | .send .. => none
  | .listHooks client repo | .createHook client repo _ | .deleteHook client repo _ =>
    f.ofProvider client (method c) repo.fullName

/-- The faults without those of a method and repository of a provider. -/
def heal (f : Faults) (provider method repo : String) : Faults :=
  { f with providers := f.providers.filter fun p =>
      ¬(p.provider = provider ∧ p.method = method ∧ p.repo = Text.asciiLower repo) }

/-- The faults with one more for a provider, in place of the one that was there. -/
def add (f : Faults) (provider method repo : String) (e : Failure) : Faults :=
  let f := f.heal provider method repo
  { f with providers := ⟨provider, method, Text.asciiLower repo, e⟩ :: f.providers }

end Faults

/-- A world with faults in front of it and a record of all calls. -/
structure Rehearsal where
  world : World := {}
  faults : Faults := {}
  /-- the calls so far, in order -/
  log : List (Call String) := []

/-- Answers a call, unless a fault strikes it. -/
def Rehearsal.answer : Program.Handler String Rehearsal := fun c r =>
  let r := { r with log := r.log ++ [c] }
  match r.faults.strike c with
  | some e => (.error e, r)
  | none =>
    let (reply, world) := World.answer c r.world
    (reply, { r with world := world })

end WebhookRelay.Memory
