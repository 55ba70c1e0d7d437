import WebhookRelay.Table

/-!
# Taking turns

Declarations of one id take effect one at a time. Each id that somebody is concerned with has a lock,
which all calls for the id share; a call enters, waits until it holds the lock, and leaves. Whoever
leaves takes the lock out of the table if nobody else refers to it.

A lock is a number, and no number is given out twice, so that two locks for one id could be told
apart. A call that gives up waiting does so in two moments, since others may come in between: first
it lets go of the lock, then it leaves. `Turns.step` is what each step of a call does.
-/

namespace WebhookRelay

/-- How far a call that is concerned with an id has come. -/
inductive Stage where
  /-- it refers to the lock and waits for it -/
  | waits
  /-- it holds the lock -/
  | holds
  /-- it has given up waiting and let go of the lock -/
  | gone
  deriving DecidableEq

/-- A call that has entered and not left. -/
structure Visit where
  /-- the call -/
  call : Nat
  /-- the id it is for -/
  id : String
  /-- the lock that was the id's when it entered -/
  lock : Nat
  stage : Stage
  deriving DecidableEq

namespace Visit

/-- Whether a call refers to a lock. -/
def refersTo (lock : Nat) (v : Visit) : Bool := v.lock = lock ∧ v.stage ≠ .gone

/-- Whether a call holds a lock. -/
def holdsLock (lock : Nat) (v : Visit) : Bool := v.lock = lock ∧ v.stage = .holds

/-- The visit of a call at another stage; other visits are left alone. -/
def moved (call : Nat) (stage : Stage) (v : Visit) : Visit :=
  if v.call = call then { v with stage := stage } else v

end Visit

/-- The locks, and the calls that are concerned with them. -/
structure Turns where
  /-- the lock of each id -/
  locks : Table Nat := ∅
  visits : List Visit := []
  /-- the number of the next new lock -/
  next : Nat := 0

/-- A step of a call. -/
inductive Turns.Step where
  /-- a call for an id asks for the lock -/
  | enter (call : Nat) (id : String)
  /-- a call gets the lock -/
  | acquire (call : Nat)
  /-- a call that waits lets go of the lock, and is still to finish -/
  | letGo (call : Nat)
  /-- a call gives up waiting, all at once -/
  | cancel (call : Nat)
  /-- a call that does not wait is over -/
  | finish (call : Nat)
  deriving DecidableEq

namespace Turns

/-- The visit of a call. -/
def visit? (t : Turns) (call : Nat) : Option Visit := t.visits.find? (·.call = call)

/-- Whether some call holds a lock. -/
def isHeld (t : Turns) (lock : Nat) : Bool := t.visits.any (Visit.holdsLock lock)

/-- How often a lock is referred to: by the table, and by calls. -/
def references (t : Turns) (lock : Nat) : Nat :=
  t.locks.entries.countP (·.2 = lock) + t.visits.countP (Visit.refersTo lock)

/-- Takes out the lock of an id if nothing but the table refers to it. -/
def tidy (t : Turns) (id : String) : Turns :=
  match t.locks.get? id with
  | some lock => if t.references lock = 1 then { t with locks := t.locks.erase id } else t
  | none => t

/-- Ends a visit. -/
def leave (t : Turns) (v : Visit) : Turns :=
  { t with visits := t.visits.filter (·.call ≠ v.call) }.tidy v.id

/-- Lets a call refer to the lock of an id, which is made if it is not there. -/
def enter (t : Turns) (call : Nat) (id : String) : Turns :=
  match t.locks.get? id with
  | some lock => { t with visits := ⟨call, id, lock, .waits⟩ :: t.visits }
  | none =>
    -- a new lock, which nobody has held before
    { locks := t.locks.insert id t.next, visits := ⟨call, id, t.next, .waits⟩ :: t.visits,
      next := t.next + 1 }

/-- Brings a call to another stage. -/
def move (t : Turns) (call : Nat) (stage : Stage) : Turns :=
  { t with visits := t.visits.map (Visit.moved call stage) }

/-- What a step does, if it can be taken. -/
def step (t : Turns) : Step → Option Turns
  | .enter call id => if (t.visit? call).isSome then none else some (t.enter call id)
  | .acquire call =>
    ((t.visit? call).filter fun v => v.stage = .waits ∧ ¬t.isHeld v.lock).map fun _ =>
      t.move call .holds
  | .letGo call => ((t.visit? call).filter (·.stage = .waits)).map fun _ => t.move call .gone
  | .cancel call => ((t.visit? call).filter (·.stage = .waits)).map t.leave
  | .finish call => ((t.visit? call).filter (·.stage ≠ .waits)).map t.leave

/-- What steps do one after the other, if all can be taken. -/
def steps (t : Turns) (ss : List Step) : Option Turns := ss.foldlM step t

end Turns

end WebhookRelay
