import WebhookRelay.Text.Hex
import WebhookRelay.Toml.Reader
import WebhookRelay.Toml.Value

/-!
# Numbers, dates and times

What begins with a digit or a sign. Digits may be grouped by underscores; a decimal number has no
zeros in front. Integers have 64 bits, and a number that is rounded to infinity is refused unless it
is negative.
-/

namespace WebhookRelay.Toml

open Reader

/-! ## Digits -/

/-- The value of a decimal digit. -/
def decimalDigit (c : Char) : Option Nat := if c.isDigit then some (c.toNat - 0x30) else none

/-- The value of an octal digit. -/
def octalDigit (c : Char) : Option Nat := (decimalDigit c).filter (· < 8)

/-- The value of a binary digit. -/
def binaryDigit (c : Char) : Option Nat := (decimalDigit c).filter (· < 2)

/-- Digits, single underscores between which are left out. -/
def digits (digit : Char → Option Nat) : Reader (List Nat) := do
  let first ← oneAs digit
  let rest ← many (oneAs digit <|> char '_' *> oneAs digit)
  return first :: rest

/-- The digits of a decimal number, which are a single zero or do not begin with one. -/
def wholeDigits : Reader (List Nat) := (do char '0'; return [0]) <|> digits decimalDigit

/-- The number that digits spell. -/
def ofDigits (base : Nat) (ds : List Nat) : Nat := ds.foldl (fun n d => base * n + d) 0

/-- A sign; whether it is a minus. -/
def sign : Reader Bool := (do char '-'; return true) <|> (do char '+'; return false)

/-- A sign that may be left out; whether it is a minus. -/
def sign? : Reader Bool := sign <|> pure false

/-- A number with a sign. -/
def signed (negative : Bool) (n : Nat) : Int := if negative then -(n : Int) else n

/-! ## Integers -/

/-- Whether a number fits into 64 bits. -/
def fits (n : Int) : Bool := -Nat.pow 2 63 ≤ n && n < Nat.pow 2 63

/-- Digits of a base behind a zero and a letter. -/
def based (letter : Char) (base : Nat) (digit : Char → Option Nat) : Reader Int := do
  word ['0', letter]
  return ofDigits base (← digits digit)

/-- A decimal integer. -/
def decimalInteger : Reader Int := do
  let negative ← sign?
  return signed negative (ofDigits 10 (← wholeDigits))

/-- An integer. -/
def integer : Reader Int := do
  let n ← based 'x' 16 Hex.value? <|> based 'o' 8 octalDigit <|> based 'b' 2 binaryDigit <|>
    decimalInteger
  if fits n then return n else failure

/-! ## Numbers with a point or an exponent -/

/-- The least number that is rounded to infinity in double precision: half a unit in the last place
above the greatest number there is. -/
def infinityBound : Nat := Nat.pow 2 1024 - Nat.pow 2 970

/-- Whether `digits · 10 ^ scale`, where so many digits were written, is rounded to infinity. -/
def overflows (written digits : Nat) (scale : Int) : Bool :=
  if digits = 0 then false
  else if 310 < scale then true
  else if written + scale ≤ 300 then false
  else if 0 ≤ scale then infinityBound ≤ digits * Nat.pow 10 scale.toNat
  else infinityBound * Nat.pow 10 (-scale).toNat ≤ digits

/-- The digits behind a point. -/
def fraction : Reader (List Nat) := char '.' *> digits decimalDigit

/-- An exponent. -/
def exponent : Reader Int := do
  char 'e' <|> char 'E'
  let negative ← sign?
  return signed negative (ofDigits 10 (← digits decimalDigit))

/-- A number with a point, an exponent, or both. -/
def decimal : Reader Real := do
  let negative ← sign?
  let whole ← wholeDigits
  let (places, power) ←
    -- without a point or an exponent it is an integer, and not read here
    (do return ([], ← exponent)) <|> (do return (← fraction, (← optional exponent).getD 0))
  let all := whole ++ places
  let n := ofDigits 10 all
  let scale := power - places.length
  if !negative && overflows all.length n scale then failure else return .decimal negative n scale

/-- An infinity, or no number at all. -/
def special : Reader Real := do
  let negative ← sign?
  (do word ['i', 'n', 'f']; return .infinite negative) <|> (do word ['n', 'a', 'n']; return .undefined)

/-- A number that is not an integer. -/
def real : Reader Real := decimal <|> special

/-! ## Dates and times -/

/-- A number of so many digits. -/
def fixed : Nat → Nat → Reader Nat
  | 0, n => pure n
  | width + 1, n => do
    let d ← oneAs decimalDigit
    fixed width (10 * n + d)

/-- A day. -/
def day : Reader Day := do
  let year ← fixed 4 0
  char '-'
  let month ← fixed 2 0
  char '-'
  let d : Day := ⟨year, month, ← fixed 2 0⟩
  if d.isValid then return d else failure

/-- A part of a second in billionths, what is finer being cut off. -/
def billionths : Reader Nat := do
  char '.'
  let first ← oneAs decimalDigit
  let rest ← many (oneAs decimalDigit)
  return ofDigits 10 ((first :: rest ++ List.replicate 9 0).take 9)

/-- A time of day. -/
def clock (b : Bounds) : Reader Clock := do
  let hour ← fixed 2 0
  char ':'
  let minute ← fixed 2 0
  char ':'
  let second ← fixed 2 0
  let part ← optional billionths
  let t : Clock := ⟨hour, minute, second, part.getD 0⟩
  if t.isValid b then return t else failure

/-- A distance from universal time. -/
def zone (b : Bounds) : Reader Zone :=
  (do char 'Z' <|> char 'z'; return .universal) <|> do
    let negative ← sign
    let hour ← fixed 2 0
    char ':'
    let minute ← fixed 2 0
    if b.distance hour minute then return .ahead (signed negative (60 * hour + minute))
    else failure

/-- A time of day behind a day, with its distance from universal time. -/
def clockOfDay (b : Bounds) : Reader (Clock × Option Zone) := do
  let _ ← one fun c => c = 'T' || c = 't' || c = ' '
  let t ← clock b
  return (t, ← optional (zone b))

/-- A day, a time of day, or both. -/
def moment (b : Bounds) : Reader Moment :=
  (do
    let d ← day
    match ← optional (clockOfDay b) with
    | some (t, z) => return .both d t z
    | none => return .day d) <|>
  (do return .clock (← clock b))

/-- The day, the time of day, or both, that a text spells. -/
def Moment.ofText? (s : String) : Option Moment :=
  ((moment .quoted <* ending) s.toList).map Prod.fst

/-! ## All of them -/

/-- What begins with a digit or a sign. -/
def numeric : Reader Value :=
  (do return .moment (← moment .plain)) <|> (do return .real (← real)) <|> (do return .integer (← integer))

end WebhookRelay.Toml
