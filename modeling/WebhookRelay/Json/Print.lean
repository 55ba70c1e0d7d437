import WebhookRelay.Json.Value
import WebhookRelay.Text.Hex

/-!
# Writing JSON

Values are written without blanks. In texts the quote, the backslash and the control characters are
escaped, with the short escapes where JSON has them; all else stands as it is.
-/

namespace WebhookRelay.Json

/-- A character as it stands in a text. -/
def escapeChar (c : Char) : List Char :=
  if c = '"' then ['\\', '"']
  else if c = '\\' then ['\\', '\\']
  else if c = '\x08' then ['\\', 'b']
  else if c = '\x0c' then ['\\', 'f']
  else if c = '\n' then ['\\', 'n']
  else if c = '\r' then ['\\', 'r']
  else if c = '\t' then ['\\', 't']
  else if c.toNat < 0x20 then
    ['\\', 'u', '0', '0', Hex.digit (c.toNat / 16), Hex.digit (c.toNat % 16)]
  else [c]

/-- A text in quotes. -/
def printText (s : String) : List Char := '"' :: s.toList.flatMap escapeChar ++ ['"']

/-- The digits of a natural number. -/
def printNat (n : Nat) : List Char := Nat.toDigits 10 n

/-- Digits times a power of ten. The point stands among the digits if at most sixteen digits are
then before it and at most four zeros behind it; else there is one digit before the point, and an
exponent. -/
def printDecimal (digits : List Char) (scale : Int) : List Char :=
  let count := digits.length
  -- how many digits are before the point
  let before : Int := count + scale
  if 0 ≤ scale && before ≤ 16 then digits ++ List.replicate scale.toNat '0' ++ ['.', '0']
  else if 0 < before && before ≤ 16 then
    digits.take before.toNat ++ '.' :: digits.drop before.toNat
  else if -5 < before && before ≤ 0 then
    ['0', '.'] ++ List.replicate (-before).toNat '0' ++ digits
  else
    digits.take 1 ++ (if 1 < count then '.' :: digits.drop 1 else []) ++
      'e' :: (if before - 1 < 0 then ['-'] else []) ++ printNat (before - 1).natAbs

/-- A number. One in double precision has the fewest digits that are read back as it. -/
def Number.print : Number → List Char
  | whole n => (if n < 0 then ['-'] else []) ++ printNat n.natAbs
  | real negative x =>
    (if negative then ['-'] else []) ++
      if x.units = 0 then ['0', '.', '0']
      else
        let (digits, scale) := x.shortest
        printDecimal (printNat digits) scale

mutual

/-- A value as text. -/
def Value.print : Value → List Char
  | .null => ['n', 'u', 'l', 'l']
  | .bool true => ['t', 'r', 'u', 'e']
  | .bool false => ['f', 'a', 'l', 's', 'e']
  | .number n => n.print
  | .text s => printText s
  | .array items => '[' :: printItems items ++ [']']
  | .object members => '\x7b' :: printMembers members ++ ['\x7d']

/-- The items of an array, with commas between them. -/
def printItems : List Value → List Char
  | [] => []
  | [v] => v.print
  | v :: w :: rest => v.print ++ ',' :: printItems (w :: rest)

/-- The members of an object, with commas between them. -/
def printMembers : List (String × Value) → List Char
  | [] => []
  | [(k, v)] => printText k ++ ':' :: v.print
  | (k, v) :: m :: rest => printText k ++ ':' :: v.print ++ ',' :: printMembers (m :: rest)

end

/-- A value as bytes. -/
def Value.toBytes (v : Value) : Bytes := Utf8.encodeChars v.print

end WebhookRelay.Json
