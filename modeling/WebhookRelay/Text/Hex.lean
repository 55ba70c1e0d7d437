import WebhookRelay.Text.Utf8

/-!
# Hexadecimal text

Bytes are written as two lower-case digits each. Reading takes digits of either case, two for each
byte; `decode_encode` says that what was written is read back.
-/

namespace WebhookRelay.Hex

/-- The digit of a number below sixteen. -/
def digit (n : Nat) : Char :=
  if n < 10 then Char.ofNat (0x30 + n) else Char.ofNat (0x61 + (n - 10))

/-- The value of a digit of either case. -/
def value? (c : Char) : Option Nat :=
  let v := c.toNat
  if 0x30 ≤ v ∧ v ≤ 0x39 then some (v - 0x30)
  else if 0x61 ≤ v ∧ v ≤ 0x66 then some (v - 0x61 + 10)
  else if 0x41 ≤ v ∧ v ≤ 0x46 then some (v - 0x41 + 10)
  else none

/-- Bytes as hexadecimal text. -/
def encode : Bytes → List Char
  | [] => []
  | b :: rest => digit (b.toNat / 16) :: digit (b.toNat % 16) :: encode rest

/-- The bytes that a hexadecimal text spells; `none` if a digit is missing or no digit. -/
def decode : List Char → Option Bytes
  | [] => some []
  | [_] => none
  | a :: b :: rest =>
    match value? a, value? b, decode rest with
    | some x, some y, some bytes => some (UInt8.ofNat (16 * x + y) :: bytes)
    | _, _, _ => none

theorem value?_digit : ∀ n : Fin 16, value? (digit n) = some n.val := by decide

theorem decode_encode (bytes : Bytes) : decode (encode bytes) = some bytes := by
  induction bytes with
  | nil => rfl
  | cons b rest ih =>
    have hb : b.toNat < 256 := b.toNat_lt
    have h₁ := value?_digit ⟨b.toNat / 16, by omega⟩
    have h₂ := value?_digit ⟨b.toNat % 16, by omega⟩
    have h₃ : 16 * (b.toNat / 16) + b.toNat % 16 = b.toNat := by omega
    simp only at h₁ h₂
    simp [encode, decode, h₁, h₂, ih, h₃]

end WebhookRelay.Hex
