/-!
# Punycode

How a label of a domain that is not ASCII is written in ASCII (`encode`) and read from it (`decode?`).
The ASCII characters come first, then for every other character, from the least to the greatest, how
far the decoder has to count before it puts the character in. The numbers are written to the base 36,
with digits whose thresholds adapt to the numbers before.
-/

namespace WebhookRelay.Url.Punycode

/-- The digit of a number below 36. -/
def digit (n : Nat) : Char := Char.ofNat (if n < 26 then 0x61 + n else 0x30 + (n - 26))

/-- The threshold of the digit at a position, positions being counted in steps of 36. -/
def threshold (position bias : Nat) : Nat := min 26 (max 1 (position - bias))

/-- A number in digits. The fuel is the number itself, which every digit makes smaller. -/
def digits (bias : Nat) : Nat → Nat → Nat → List Char
  | 0, _, n => [digit n]
  | fuel + 1, position, n =>
    let t := threshold position bias
    if n < t then [digit n]
    else digit (t + (n - t) % (36 - t)) :: digits bias fuel (position + 36) ((n - t) / (36 - t))

/-- Divides by 35 until at most 455 is left; also gives 36 for every division. -/
def shrink : Nat → Nat → Nat → Nat × Nat
  | 0, delta, k => (delta, k)
  | fuel + 1, delta, k => if 455 < delta then shrink fuel (delta / 35) (k + 36) else (delta, k)

/-- The bias after a number, given how many characters there are with the one it stands for. -/
def adapt (delta count : Nat) (first : Bool) : Nat :=
  let delta := if first then delta / 700 else delta / 2
  let delta := delta + delta / count
  let (delta, k) := shrink delta delta 0
  k + 36 * delta / (delta + 38)

/-! ## Encoding -/

/-- An encoder at work. -/
structure Encoder where
  out : List Char
  delta : Nat := 0
  bias : Nat := 72
  /-- how many characters have been written -/
  written : Nat

/-- Goes past a character of the label, the character that is being written having the given
number. -/
def Encoder.pass (basic number : Nat) (e : Encoder) (c : Char) : Encoder :=
  if c.toNat < number then { e with delta := e.delta + 1 }
  else if c.toNat = number then
    { out := e.out ++ digits e.bias e.delta 36 e.delta, delta := 0,
      bias := adapt e.delta (e.written + 1) (e.written = basic), written := e.written + 1 }
  else e

/-- Writes all characters of the given numbers, which ascend. -/
def Encoder.passes (label : List Char) (basic : Nat) : List Nat → Nat → Encoder → Encoder
  | [], _, e => e
  | number :: rest, least, e =>
    let e := { e with delta := e.delta + (number - least) * (e.written + 1) }
    let e := label.foldl (Encoder.pass basic number) e
    -- going on to the next number is one step more
    passes label basic rest (number + 1) { e with delta := e.delta + 1 }

/-- A label in ASCII, without the mark that tells it from others. -/
def encode (label : List Char) : List Char :=
  let plain := label.filter (·.toNat < 0x80)
  let numbers := (label.filter (0x80 ≤ ·.toNat)).map Char.toNat
  let ascending := (numbers.mergeSort fun a b => decide (a ≤ b)).eraseDups
  let start := if plain.isEmpty then [] else plain ++ ['-']
  (Encoder.passes label plain.length ascending 0x80 { out := start, written := plain.length }).out

/-! ## Decoding -/

/-- The number of a digit in lower case. -/
def digit? (c : Char) : Option Nat :=
  if c.isLower then some (c.toNat - 0x61)
  else if c.isDigit then some (c.toNat - 0x30 + 26)
  else none

/-- What numbers have to stay below. -/
def bound : Nat := UInt32.size

/-- Reads a number in digits, of which the first has the given weight, and adds it to another. -/
def readNumber (bias : Nat) : Nat → Nat → Nat → List Char → Option (Nat × List Char)
  | _, _, _, [] => none
  | position, weight, sum, c :: rest => do
    let d ← digit? c
    let t := threshold position bias
    let sum := sum + d * weight
    if bound ≤ sum then none
    else if d < t then some (sum, rest)
    else if bound ≤ weight * (36 - t) then none
    else readNumber bias (position + 36) (weight * (36 - t)) sum rest

/-- A decoder at work. -/
structure Decoder where
  label : List Char
  /-- the number of the last character that was put in -/
  number : Nat := 0x80
  /-- where the next character goes if the count does not go on -/
  place : Nat := 0
  bias : Nat := 72

/-- Puts in a character, given how far to count from the first place. -/
def Decoder.insert? (d : Decoder) (sum : Nat) : Option Decoder :=
  let count := d.label.length + 1
  let number := d.number + sum / count
  if number.isValidChar then
    some {
      label := d.label.insertIdx (sum % count) (Char.ofNat number), number
      place := sum % count + 1, bias := adapt (sum - d.place) count (d.place = 0) }
  else none

/-- Puts in all characters that are left. The fuel is the length of the text, which every number makes
shorter. -/
def Decoder.run : Nat → Decoder → List Char → Option (List Char)
  | _, d, [] => some d.label
  | 0, _, _ :: _ => none
  | fuel + 1, d, text => do
    let (sum, rest) ← readNumber d.bias 36 1 d.place text
    run fuel (← d.insert? sum) rest

/-- The label that a text stands for, in which no letter is a capital one. ASCII characters end at the
last dash, if there are any. -/
def decode? (text : List Char) : Option (List Char) :=
  let after := (text.reverse.takeWhile (· ≠ '-')).reverse
  let plain := text.take (text.length - after.length - 1)
  Decoder.run text.length { label := plain } (if plain.isEmpty then text else after)

end WebhookRelay.Url.Punycode
