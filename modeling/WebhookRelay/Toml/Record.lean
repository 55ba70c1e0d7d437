import WebhookRelay.Table
import WebhookRelay.Toml.Value

/-!
# Structures in settings files

A structure is written as a table with its fields as keys, or as a list of its fields in order. Keys
that are no fields are passed over.
-/

namespace WebhookRelay.Toml

/-! ## Values of fields -/

/-- The text a value is. A date or time counts as its text. -/
def Value.toText : Value → Option String
  | text s => some s
  | moment m => some (String.ofList m.print)
  | _ => none

/-- The number a value is, if it is below a bound. -/
def Value.toNatBelow (bound : Nat) : Value → Option Nat
  | integer n => if 0 ≤ n ∧ n < bound then some n.toNat else none
  | _ => none

/-! ## Structures -/

/-- A field of a structure. -/
structure Field (ρ : Type) where
  /-- its key -/
  name : String
  /-- whether it may be left out -/
  defaulted : Bool
  /-- takes a value into the structure -/
  read : Value → ρ → Option ρ

variable {ρ : Type}

/-- Takes in the entries of a table. -/
def named (entries : List (String × Value)) (fields : List (Field ρ)) (start : ρ) : Option ρ :=
  fields.foldlM (fun r f =>
    match Entries.find? f.name entries with
    | some v => f.read v r
    | none => if f.defaulted then some r else none) start

/-- Takes in the items of a list as fields in order. -/
def positional : List (Field ρ) → List Value → ρ → Option ρ
  | f :: fs, v :: vs, r => (f.read v r).bind (positional fs vs)
  | f :: fs, [], r => if f.defaulted then positional fs [] r else none
  | [], [], r => some r
  | [], _ :: _, _ => none

/-- Reads a structure, starting from one that holds the defaults. -/
def record (fields : List (Field ρ)) (start : ρ) : Value → Option ρ
  | .table entries => named entries fields start
  | .array items => positional fields items start
  | _ => none

end WebhookRelay.Toml
