import WebhookRelay.Text.Hex

/-!
# Percent encoding

A byte is written `%XY`. In reading, a percent sign that no two digits follow stands for itself.
-/

namespace WebhookRelay.Http.Percent

/-- The digit of a number below sixteen, in upper case. -/
def upperDigit (n : Nat) : Char :=
  if n < 10 then Char.ofNat (0x30 + n) else Char.ofNat (0x41 + (n - 10))

/-- A byte, written as an escape. -/
def escape (b : UInt8) : List Char := ['%', upperDigit (b.toNat / 16), upperDigit (b.toNat % 16)]

/-- A character, written as the escapes of its bytes where `reserved` says so. -/
def encodeChar (reserved : Char → Bool) (c : Char) : List Char :=
  if reserved c then (Utf8.encodeChar c).flatMap escape else [c]

/-- A text, in which reserved characters are escaped. -/
def encode (reserved : Char → Bool) (cs : List Char) : List Char :=
  cs.flatMap (encodeChar reserved)

/-- The bytes that an escaped text stands for. -/
def decode : List Char → Bytes
  | [] => []
  | '%' :: a :: b :: rest =>
    match Hex.value? a, Hex.value? b with
    | some x, some y => UInt8.ofNat (16 * x + y) :: decode rest
    | _, _ => 0x25 :: decode (a :: b :: rest)
  | c :: rest => Utf8.encodeChar c ++ decode rest

end WebhookRelay.Http.Percent
