import WebhookRelay.Json.Double

/-!
# JSON values

A `Value` is a JSON document as it is kept and written. Members of an object stand in the order in
which they were first given.
-/

namespace WebhookRelay.Json

/-! ## Numbers -/

/-- A number of JSON. -/
inductive Number where
  /-- a whole number that a word of 64 bits holds -/
  | whole (n : Int)
  /-- any other number, in double precision -/
  | real (negative : Bool) (x : Double)
  deriving DecidableEq, Repr

namespace Number

/-- A natural number. -/
def ofNat (n : Nat) : Number := whole n

/-- The number that is written as a sign and digits, the digits spelling a number below `2 ^ 64`. A
minus sign leaves room down to `-2 ^ 63`, and there is no whole number `-0`. -/
def ofDigits (negative : Bool) (digits : Nat) : Number :=
  if negative then
    if 0 < digits && digits ≤ Nat.pow 2 63 then whole (-(digits : Int)) else real true (.ofNat digits)
  else whole digits

/-- The value of a number that is written as a natural number below `2 ^ 64`. -/
def toUInt64? : Number → Option UInt64
  | whole n => if 0 ≤ n && n < UInt64.size then some (UInt64.ofNat n.toNat) else none
  | real .. => none

end Number

/-! ## Values -/

/-- A JSON value. -/
inductive Value where
  | null
  | bool (b : Bool)
  | number (n : Number)
  | text (s : String)
  | array (items : List Value)
  | object (members : List (String × Value))

namespace Value

instance : Inhabited Value := ⟨null⟩

/-- A list of texts. -/
def texts (l : List String) : Value := array (l.map text)

/-- A value that may be absent, absence being `null`. -/
def ofOption {α : Type} (f : α → Value) : Option α → Value
  | none => null
  | some a => f a

/-- The text that a value is, if it is one. -/
def text? : Value → Option String
  | text s => some s
  | _ => none

end Value

end WebhookRelay.Json
