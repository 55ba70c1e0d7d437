import WebhookRelay.Signature

/-!
# What a signature says

A signature that was made with a key is always well-formed, and holds for a secret just when the two
hash the body alike (`Signature.check_header`): so it holds for its own key, and is turned away as a
mismatch for any other that can be told apart by the body.
-/

namespace WebhookRelay

namespace Text

/-- A text without blanks has none at its ends. -/
theorem trim_of_not_blank {cs : List Char} (h : ∀ c ∈ cs, blank c = false) : trim cs = cs := by
  have hkeep : ∀ {l : List Char}, (∀ c ∈ l, blank c = false) → l.dropWhile blank = l := by
    intro l hl
    cases l with
    | nil => rfl
    | cons c rest => simp [hl c List.mem_cons_self]
  rw [trim, hkeep h, dropEndWhile, hkeep (by simpa using h), List.reverse_reverse]

end Text

namespace Hex

theorem blank_digit : ∀ n : Fin 16, Text.blank (digit n) = false := by decide

/-- Hexadecimal text has no blanks. -/
theorem blank_of_mem_encode {bytes : Bytes} : ∀ c ∈ encode bytes, Text.blank c = false := by
  induction bytes with
  | nil => simp [encode]
  | cons b rest ih =>
    have hb : b.toNat < 256 := b.toNat_lt
    have h₁ := blank_digit ⟨b.toNat / 16, by omega⟩
    have h₂ := blank_digit ⟨b.toNat % 16, by omega⟩
    intro c hc
    simp only [encode, List.mem_cons] at hc
    rcases hc with rfl | rfl | hc
    · exact h₁
    · exact h₂
    · exact ih c hc

end Hex

/-! ## Signatures -/

namespace Signature

variable {secret key : String} {body : Bytes}

theorem blank_of_mem_scheme : ∀ c ∈ scheme.toList, Text.blank c = false := by
  have h : (scheme.toList.all fun c => !Text.blank c) = true := by decide
  simpa using h

/-- A signature has no blanks around it. -/
theorem trim_header : Text.trim (header key body).toList =
    scheme.toList ++ Hex.encode (Digest.hmac (Utf8.encode key) body) := by
  have hheader : (header key body).toList =
      scheme.toList ++ Hex.encode (Digest.hmac (Utf8.encode key) body) := by
    simp [header, sign]
  rw [hheader]
  refine Text.trim_of_not_blank fun c hc => ?_
  rcases List.mem_append.mp hc with hc | hc
  · exact blank_of_mem_scheme c hc
  · exact Hex.blank_of_mem_encode c hc

/-- A signature that was made with a key holds for a secret if the two hash the body alike, and is a
mismatch otherwise. -/
theorem check_header : check secret (header key body) body =
    if Digest.hmac (Utf8.encode key) body = Digest.hmac (Utf8.encode secret) body then .ok ()
    else .error .mismatch := by
  simp only [check, trim_header, Text.dropStart?_eq_some_iff.mpr rfl, Hex.decode_encode]

end Signature

end WebhookRelay
