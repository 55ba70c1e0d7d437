import WebhookRelay.Toml.Moment

/-!
# Values of settings files

What can stand under a key. A number with a point or an exponent keeps its decimal digits.
-/

namespace WebhookRelay.Toml

/-- A number that is not written as an integer. -/
inductive Real where
  /-- the number `digits · 10 ^ scale`, with a sign -/
  | decimal (negative : Bool) (digits : Nat) (scale : Int)
  /-- an infinity, with a sign -/
  | infinite (negative : Bool)
  /-- no number at all -/
  | undefined
  deriving DecidableEq, Repr

/-- A value. -/
inductive Value where
  | text (s : String)
  | integer (n : Int)
  | real (x : Real)
  | bool (b : Bool)
  | moment (m : Moment)
  | array (items : List Value)
  | table (entries : List (String × Value))

/-- The entries of a value, which only a table has. -/
def Value.entries : Value → List (String × Value)
  | table entries => entries
  | _ => []

end WebhookRelay.Toml
