import WebhookRelay.Digest.Sha256

/-!
# HMAC-SHA256

The keyed hash of RFC 2104 over SHA-256. A key longer than a block is hashed first.
-/

namespace WebhookRelay.Digest

/-- How many bytes a block has. -/
def blockSize : Nat := 64

/-- A key filled up with zeros to a block. -/
def blockKey (key : Bytes) : Bytes :=
  let key := if blockSize < key.length then sha256 key else key
  key ++ List.replicate (blockSize - key.length) 0

/-- The keyed hash of a message. -/
def hmac (key message : Bytes) : Bytes :=
  let key := blockKey key
  sha256 (key.map (· ^^^ 0x5c) ++ sha256 (key.map (· ^^^ 0x36) ++ message))

/-- A keyed hash has 32 bytes. -/
@[simp] theorem length_hmac (key message : Bytes) : (hmac key message).length = 32 :=
  length_sha256 _

end WebhookRelay.Digest
