import WebhookRelay.Json.Document
import WebhookRelay.Table

/-!
# Decoding documents

A decoder takes a `Doc` to a value of a type of its own and goes through the document in the order
of its text, so the fault it reports is the first one there.

`record` decodes structures from a list of `Field`s. A structure may be written as an object, in
which names that are no field are passed over and a field may not be given twice, or as an array of
its fields in order.

`keep` takes a value as it is. An object may be the envelope of another document that is written out
in a text, which then counts in its place.
-/

namespace WebhookRelay.Json

/-- Why a document could not be decoded. -/
inductive Fault where
  /-- it is not JSON -/
  | grammar
  /-- it is JSON of another shape -/
  | shape
  deriving DecidableEq, Repr

/-- A success in sequence is a success of the one and then of the other. -/
theorem bind_eq_ok_iff {ε α β : Type} {x : Except ε α} {f : α → Except ε β} {b : β} :
    (x >>= f) = .ok b ↔ ∃ a, x = .ok a ∧ f a = .ok b := by
  cases x with
  | error e => exact iff_of_false nofun nofun
  | ok a =>
    constructor
    · intro h
      exact ⟨a, rfl, h⟩
    · rintro ⟨_, ⟨⟩, h⟩
      exact h

namespace Doc

/-- The fault of a value that is of another kind than was wanted. A scalar is read to its end
before its kind counts. -/
def mismatch : Doc → Fault
  | .missing | .text none | .number none => .grammar
  | _ => .shape

/-- Passes over a value. -/
def skip (d : Doc) : Except Fault Unit := if d.intact then .ok () else .error .grammar

/-- A text. -/
def toText : Doc → Except Fault String
  | .text (some s) => .ok s
  | d => .error d.mismatch

/-- A truth value. -/
def toBool : Doc → Except Fault Bool
  | .bool b => .ok b
  | d => .error d.mismatch

/-- A natural number below `2 ^ 64`. -/
def toUInt64 : Doc → Except Fault UInt64
  | .number (some n) =>
    match n.toUInt64? with
    | some v => .ok v
    | none => .error .shape
  | d => .error d.mismatch

/-- A value that may be `null`. -/
def toOption {α : Type} (f : Doc → Except Fault α) : Doc → Except Fault (Option α)
  | .null => .ok none
  | d => (f d).map some

/-- The items of an array. -/
def toList {α : Type} (f : Doc → Except Fault α) : Doc → Except Fault (List α)
  | .array items closed => do
    let out ← items.mapM f
    if closed then .ok out else .error .grammar
  | d => .error d.mismatch

/-- The name of a member. -/
def nameOf : Option String → Except Fault String
  | some name => .ok name
  | none => .error .grammar

/-- Puts a decoded member into a table. -/
def putMember {α : Type} (f : Doc → Except Fault α) (t : Table α) (m : Option String × Doc) :
    Except Fault (Table α) := do
  let name ← nameOf m.1
  let v ← f m.2
  .ok (t.insert name v)

/-- The members of an object; a later one replaces an earlier one of the same name. -/
def toTable {α : Type} (f : Doc → Except Fault α) : Doc → Except Fault (Table α)
  | .object members closed => do
    let t ← members.foldlM (putMember f) ∅
    if closed then .ok t else .error .grammar
  | d => .error d.mismatch

end Doc

/-- Decodes a whole document. -/
def Document.decode {α : Type} (f : Doc → Except Fault α) (d : Document) : Except Fault α := do
  let a ← f d.root
  if d.followed then .error .grammar else .ok a

/-- Decodes a sequence of bytes. -/
def decode {α : Type} (f : Doc → Except Fault α) (bytes : Bytes) : Except Fault α :=
  (Document.ofBytes bytes).decode f

/-! ## Values that are kept -/

namespace Doc

/-- The name that marks an object as a document written out in a text. -/
def rawMark : String := "$serde_json::private::RawValue"

/-- How many containers of a document may be open at a time where values are kept. -/
def nesting : Nat := 127

/-- A value to be kept as it is, in which at most so many containers may be open at a time. An object
whose first name is `rawMark` stands for what `written` makes of the text there, and may hold nothing
else. -/
def keepWith (written : String → Except Fault Value) : Nat → Doc → Except Fault Value
  | _, .null => .ok .null
  | _, .bool b => .ok (.bool b)
  | _, .number (some n) => .ok (.number n)
  | _, .text (some s) => .ok (.text s)
  | room + 1, .array items closed => do
    let out ← items.mapM (keepWith written room)
    if closed then .ok (.array out) else .error .grammar
  | room + 1, .object members closed =>
    if members.head?.bind (·.1) = some rawMark then
      match members, closed with
      | [(_, .text (some s))], true => written s
      | _, _ => .error .shape
    else do
      let t ← members.foldlM (putMember (keepWith written room)) ∅
      if closed then .ok (.object t.entries) else .error .grammar
  | _, _ => .error .grammar

/-- The value of a document written out in a text. The fuel bounds how many documents are written
inside one another, each of which is shorter than the text around it. -/
def written : Nat → String → Except Fault Value
  | 0, _ => .error .grammar
  | fuel + 1, s => (Document.read (s.toList.map some)).decode (keepWith (written fuel) nesting)

/-- A value to be kept as it is, in which at most `room` containers may be open at a time. -/
def keep (room : Nat) (d : Doc) : Except Fault Value :=
  keepWith (fun s => written (s.length + 1) s) room d

end Doc

/-! ## Structures -/

/-- What it means for a field not to be there. -/
inductive Absence where
  /-- it is a fault -/
  | required
  /-- in an object the field has no value, in an array it is a fault -/
  | optional
  /-- the field has its default value -/
  | defaulted
  deriving DecidableEq

/-- A field of a structure. -/
structure Field (ρ : Type) where
  /-- its name in JSON -/
  name : String
  /-- what its absence means -/
  absence : Absence
  /-- decodes a value into the structure -/
  read : Doc → ρ → Except Fault ρ

namespace Record

variable {ρ : Type}

/-- Takes in a member, given the names of the fields that have been read. -/
def member (fields : List (Field ρ)) (s : ρ × List String) (m : Option String × Doc) :
    Except Fault (ρ × List String) := do
  let name ← Doc.nameOf m.1
  match fields.find? (·.name = name) with
  | none => do m.2.skip; .ok s
  | some f =>
    if name ∈ s.2 then .error .shape
    else do
      let r ← f.read m.2 s.1
      .ok (r, name :: s.2)

/-- Takes in the items of an array as fields in order. -/
def positional : List (Field ρ) → List Doc → Bool → ρ → Except Fault ρ
  | f :: fs, item :: items, closed, r => do positional fs items closed (← f.read item r)
  | f :: fs, [], closed, r =>
    if !closed then .error .grammar
    else if f.absence = .defaulted then positional fs [] closed r
    else .error .shape
  | [], [], true, r => .ok r
  -- what is too much stands where the end of the array should be
  | [], _, _, _ => .error .grammar

end Record

/-- Decodes a structure, starting from one that holds the defaults. -/
def record {ρ : Type} (fields : List (Field ρ)) (start : ρ) : Doc → Except Fault ρ
  | .object members closed => do
    let (r, seen) ← members.foldlM (Record.member fields) (start, [])
    -- that a field is missing is known only at the end of the object
    if !closed then .error .grammar
    else if fields.any fun f => f.absence = .required && f.name ∉ seen then .error .shape
    else .ok r
  | .array items closed => Record.positional fields items closed start
  | d => .error d.mismatch

end WebhookRelay.Json
