/-!
# ASCII letter case

Repository names are compared without regard to the case of the letters A to Z; every other
character counts as it is. Numbers are written in the digits 0 to 9.
-/

namespace WebhookRelay.Text

/-- The text with A to Z in lower case. -/
def asciiLower (s : String) : String := String.ofList (s.toList.map Char.toLower)

@[simp] theorem toList_asciiLower (s : String) :
    (asciiLower s).toList = s.toList.map Char.toLower := String.toList_ofList

/-- Lowering moves the letters A to Z, and nothing else. -/
theorem toNat_toLower (c : Char) :
    c.toLower.toNat = if 0x41 ≤ c.toNat ∧ c.toNat ≤ 0x5A then c.toNat + 32 else c.toNat := by
  unfold Char.toLower
  split
  · next h =>
    have h₁ : 65 ≤ c.val.toNat := UInt32.le_iff_toNat_le.mp h.1
    have h₂ : c.val.toNat ≤ 90 := UInt32.le_iff_toNat_le.mp h.2
    rw [if_pos ⟨h₁, h₂⟩]
    show (c.val.toNat + 32) % 4294967296 = c.val.toNat + 32
    omega
  · next h =>
    rw [if_neg]
    rintro ⟨h₁, h₂⟩
    exact h ⟨UInt32.le_iff_toNat_le.mpr h₁, UInt32.le_iff_toNat_le.mpr h₂⟩

/-- What is no lower case letter after lowering was not moved. -/
theorem eq_of_toLower {c d : Char} (h : c.toLower = d) (hd : d.toNat < 0x61 ∨ 0x7A < d.toNat) :
    c = d := by
  have hc := toNat_toLower c
  rw [h] at hc
  rw [← Char.toNat_inj]
  split at hc <;> omega

/-- Lowering twice is lowering once. -/
theorem toLower_toLower (c : Char) : c.toLower.toLower = c.toLower := by
  have hc := toNat_toLower c
  rw [← Char.toNat_inj, toNat_toLower c.toLower, if_neg]
  split at hc <;> omega

@[simp] theorem asciiLower_asciiLower (s : String) : asciiLower (asciiLower s) = asciiLower s := by
  rw [← String.toList_inj, toList_asciiLower, toList_asciiLower, List.map_map]
  exact List.map_congr_left fun c _ => toLower_toLower c

/-- A number is written in digits. -/
theorem isDigit_of_mem_toString {n : Nat} {c : Char} (h : c ∈ (toString n).toList) :
    c.isDigit = true := by
  rw [Nat.toString_eq_repr, Nat.toList_repr] at h
  exact Nat.isDigit_of_mem_toDigits (by decide) (by decide) h

end WebhookRelay.Text
