import WebhookRelay.Digest.Hmac
import WebhookRelay.Text.Blank
import WebhookRelay.Text.Hex
import WebhookRelay.Text.Split

/-!
# Signatures

A delivery is signed with the secret of its service: the header says `sha256=` and the keyed hash
of the body in hexadecimal. Blanks around the header do not count, nor does the case of the digits.
-/

namespace WebhookRelay.Signature

/-- What a signature starts with. -/
def scheme : String := "sha256="

/-- The keyed hash of a body in hexadecimal. -/
def sign (secret : String) (body : Bytes) : String :=
  String.ofList (Hex.encode (Digest.hmac (Utf8.encode secret) body))

/-- The header of a body. -/
def header (secret : String) (body : Bytes) : String := scheme ++ sign secret body

/-- Why a signature does not hold. -/
inductive Fault where
  /-- it is not written as a signature -/
  | format
  /-- it is not the signature of the body -/
  | mismatch
  deriving DecidableEq, Repr

/-- The text of a fault. -/
def Fault.message : Fault → String
  | .format => "Invalid signature format"
  | .mismatch => "Bad signature"

/-- Checks the header of a body. -/
def check (secret header : String) (body : Bytes) : Except Fault Unit :=
  match Text.dropStart? scheme.toList (Text.trim header.toList) with
  | none => .error .format
  | some digits =>
    match Hex.decode digits with
    | none => .error .format
    | some digest =>
      if digest = Digest.hmac (Utf8.encode secret) body then .ok () else .error .mismatch

end WebhookRelay.Signature
