import WebhookRelay.Text.Utf8

/-!
# Base64 text

Three bytes are written as four digits of six bits each. Bytes that are missing at the end count as
zeros, and digits that say nothing but that are signs of equality.
-/

namespace WebhookRelay.Base64

/-- The digit of a number below 64. -/
def digit (n : Nat) : Char :=
  if n < 26 then Char.ofNat (0x41 + n)
  else if n < 52 then Char.ofNat (0x61 + (n - 26))
  else if n < 62 then Char.ofNat (0x30 + (n - 52))
  else if n = 62 then '+'
  else '/'

/-- The digits of three bytes. -/
def digits (a b c : UInt8) : List Char :=
  [digit (a.toNat / 4), digit (a.toNat % 4 * 16 + b.toNat / 16),
    digit (b.toNat % 16 * 4 + c.toNat / 64), digit (c.toNat % 64)]

/-- Bytes as Base64 text. -/
def encode : Bytes → List Char
  | [] => []
  | [a] => (digits a 0 0).take 2 ++ ['=', '=']
  | [a, b] => (digits a b 0).take 3 ++ ['=']
  | a :: b :: c :: rest => digits a b c ++ encode rest

end WebhookRelay.Base64
