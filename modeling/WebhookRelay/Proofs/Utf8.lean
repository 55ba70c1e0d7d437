import WebhookRelay.Text.Utf8
import Mathlib.Algebra.Ring.Nat

/-!
# Well-formed bytes

`Utf8.decode_encode` says that a text is read back from its bytes. Here is the other direction:
bytes that are read as a text are the bytes of that text (`Utf8.decode?_eq_some_iff`), so no two
sequences of bytes are read as the same text.

The induction is on the bytes that have been read. As long as nothing was ill-formed, they are the
bytes of the characters read so far and of a part of one more (`Utf8.Reader.Spells`); the part is
such that every character that goes on as the reader allows begins with it (`Utf8.Begun.Spells`).
-/

namespace WebhookRelay.Utf8

variable {bytes part : Bytes} {done : List (Option Char)}

/-- The last bytes of the character of a number. -/
def tail : Nat → Nat → Bytes
  | 0, _ => []
  | n + 1, v => UInt8.ofNat (0x80 + v / 64 ^ n % 64) :: tail n v

/-- Whether bytes are a part of every character that goes on with what has begun. -/
structure Begun.Spells (g : Begun) (part : Bytes) : Prop where
  least : 0x80 ≤ g.least
  greatest : g.greatest ≤ 0xBF
  char : ∀ v, v / 64 ^ (g.more + 1) = g.bits → g.least ≤ 0x80 + v / 64 ^ g.more % 64 →
    0x80 + v / 64 ^ g.more % 64 ≤ g.greatest →
      encodeChar (Char.ofNat v) = part ++ tail (g.more + 1) v

/-- Whether bytes are those of the characters read, and of what has begun. -/
def Reader.Spells (r : Reader) (bytes : Bytes) : Prop :=
  none ∉ r.done → ∃ part, bytes = encodeChars (r.done.reverse.filterMap id) ++ part ∧
    match r.begun with
    | none => part = []
    | some g => g.Spells part

theorem toNat_ofNat_of_valid {v : Nat} (h : v < 0xD800 ∨ 0xDFFF < v ∧ v < 0x110000) :
    (Char.ofNat v).toNat = v := by
  have hv : v.isValidChar := h
  rw [Char.ofNat, dif_pos hv]
  rfl

/-- The byte that begins a character is a part of all those that may follow. -/
theorem Begun.spells_start {b : UInt8} {g : Begun}
    (h : Reader.start done b.toNat = ⟨done, some g⟩) : g.Spells [b] := by
  have hb : UInt8.ofNat b.toNat = b := UInt8.ofNat_toNat
  unfold Reader.start at h
  split at h
  · cases h
  split at h
  · cases h
  split at h
  · cases h
    refine ⟨Nat.le_refl _, Nat.le_refl _, fun v hbits hleast hgreatest => ?_⟩
    simp only [Nat.reduceAdd, Nat.pow_one, Nat.pow_zero, Nat.div_one] at hbits hleast hgreatest
    have hv : 0x80 ≤ v ∧ v < 0x800 := by omega
    have hlead : 0xC0 + v / 64 = b.toNat := by omega
    rw [encodeChar, toNat_ofNat_of_valid (by omega)]
    simp only [if_neg (show ¬v < 0x80 by omega), if_pos hv.2, hlead, hb, tail, Nat.pow_zero,
      Nat.div_one, List.cons_append, List.nil_append]
  split at h
  · cases h
    refine ⟨by dsimp only; split <;> omega, by dsimp only; split <;> omega,
      fun v hbits hleast hgreatest => ?_⟩
    simp only [Nat.reduceAdd, Nat.reducePow, Nat.pow_one] at hbits hleast hgreatest
    -- the bounds on the second byte keep out what is too short, and the surrogates
    have hv : 0x800 ≤ v ∧ v < 0x10000 ∧ (v < 0xD800 ∨ 0xDFFF < v) := by
      split at hleast <;> split at hgreatest <;> omega
    have hlead : 0xE0 + v / 4096 = b.toNat := by omega
    rw [encodeChar, toNat_ofNat_of_valid (by omega)]
    simp only [if_neg (show ¬v < 0x80 by omega), if_neg (show ¬v < 0x800 by omega),
      if_pos hv.2.1, hlead, hb, tail, Nat.pow_zero, Nat.pow_one, Nat.div_one, List.cons_append,
      List.nil_append]
  split at h
  · cases h
    refine ⟨by dsimp only; split <;> omega, by dsimp only; split <;> omega,
      fun v hbits hleast hgreatest => ?_⟩
    simp only [Nat.reduceAdd, Nat.reducePow] at hbits hleast hgreatest
    -- and here what is too short, and what is no character any more
    have hv : 0x10000 ≤ v ∧ v < 0x110000 := by
      split at hleast <;> split at hgreatest <;> omega
    have hlead : 0xF0 + v / 262144 = b.toNat := by omega
    rw [encodeChar, toNat_ofNat_of_valid (by omega)]
    simp only [if_neg (show ¬v < 0x80 by omega), if_neg (show ¬v < 0x800 by omega),
      if_neg (show ¬v < 0x10000 by omega), hlead, hb, tail, Nat.pow_zero, Nat.pow_one,
      Nat.reducePow, Nat.div_one, List.cons_append, List.nil_append]
  · cases h

/-- The last byte of a character makes it whole. -/
theorem Begun.Spells.last {least greatest bits : Nat}
    (hg : (⟨0, least, greatest, bits⟩ : Begun).Spells part) {b : UInt8}
    (hb : least ≤ b.toNat ∧ b.toNat ≤ greatest) :
    encodeChar (Char.ofNat (bits * 64 + (b.toNat - 0x80))) = part ++ [b] := by
  obtain ⟨hleast, hgreatest, hchar⟩ := hg
  dsimp only at hleast hgreatest hchar
  have hlow : 0x80 + (bits * 64 + (b.toNat - 0x80)) % 64 = b.toNat := by omega
  rw [hchar _ (by omega) (by omega) (by omega), tail, tail, Nat.pow_zero, Nat.div_one, hlow,
    UInt8.ofNat_toNat]

/-- A byte that goes on with a character and does not end it is a part of it, too. -/
theorem Begun.Spells.next {n least greatest bits : Nat}
    (hg : (⟨n + 1, least, greatest, bits⟩ : Begun).Spells part) {b : UInt8}
    (hb : least ≤ b.toNat ∧ b.toNat ≤ greatest) :
    (⟨n, 0x80, 0xBF, bits * 64 + (b.toNat - 0x80)⟩ : Begun).Spells (part ++ [b]) := by
  obtain ⟨hleast, hgreatest, hchar⟩ := hg
  dsimp only at hleast hgreatest hchar
  refine ⟨Nat.le_refl _, Nat.le_refl _, fun v hbits _ _ => ?_⟩
  dsimp only at hbits ⊢
  have hhigh : v / 64 ^ (n + 1 + 1) = bits := by
    rw [Nat.pow_succ, ← Nat.div_div_eq_div_mul, hbits]
    omega
  have hlow : 0x80 + v / 64 ^ (n + 1) % 64 = b.toNat := by
    rw [hbits]
    omega
  rw [hchar v hhigh (by omega) (by omega), tail, hlow, UInt8.ofNat_toNat, List.append_assoc]
  rfl

/-! ## Readers -/

/-- A byte that begins anew is a character, or begins one, or is ill-formed. -/
theorem Reader.start_cases (done : List (Option Char)) (b : Nat) :
    (b < 0x80 ∧ start done b = ⟨some (Char.ofNat b) :: done, none⟩) ∨
      start done b = ⟨none :: done, none⟩ ∨ ∃ g, start done b = ⟨done, some g⟩ := by
  unfold start
  split
  · next h => exact .inl ⟨h, rfl⟩
  split
  · exact .inr (.inl rfl)
  split
  · exact .inr (.inr ⟨_, rfl⟩)
  split
  · exact .inr (.inr ⟨_, rfl⟩)
  split
  · exact .inr (.inr ⟨_, rfl⟩)
  · exact .inr (.inl rfl)

theorem encodeChar_ofNat_of_lt {b : UInt8} (h : b.toNat < 0x80) :
    encodeChar (Char.ofNat b.toNat) = [b] := by
  rw [encodeChar, toNat_ofNat_of_valid (by omega)]
  simp only [if_pos h, UInt8.ofNat_toNat]

theorem Reader.spells_start {b : UInt8} (hdone : (⟨done, none⟩ : Reader).Spells bytes) :
    (start done b.toNat).Spells (bytes ++ [b]) := by
  intro hnone
  rcases start_cases done b.toNat with ⟨hb, h⟩ | h | ⟨g, h⟩
  · rw [h] at hnone ⊢
    obtain ⟨part, rfl, rfl⟩ := hdone fun hm => hnone (List.mem_cons_of_mem _ hm)
    refine ⟨[], ?_, rfl⟩
    simp [encodeChars, encodeChar_ofNat_of_lt hb]
  · rw [h] at hnone
    exact absurd List.mem_cons_self hnone
  · have hg := Begun.spells_start h
    rw [h] at hnone ⊢
    obtain ⟨part, rfl, rfl⟩ := hdone hnone
    exact ⟨[b], by rw [List.append_nil], hg⟩

/-- A reader that has read a further byte. -/
theorem Reader.Spells.step {r : Reader} (h : r.Spells bytes) (b : UInt8) :
    (r.step b).Spells (bytes ++ [b]) := by
  rcases r with ⟨done, _ | ⟨more, least, greatest, bits⟩⟩
  · exact spells_start h
  · by_cases hb : least ≤ b.toNat ∧ b.toNat ≤ greatest
    · cases more with
      | zero =>
        simp only [Reader.step, if_pos hb]
        intro hnone
        obtain ⟨part, rfl, hg⟩ := h fun hm => hnone (List.mem_cons_of_mem _ hm)
        refine ⟨[], ?_, rfl⟩
        simp [encodeChars, hg.last hb]
      | succ n =>
        simp only [Reader.step, if_pos hb]
        intro hnone
        obtain ⟨part, rfl, hg⟩ := h hnone
        exact ⟨part ++ [b], List.append_assoc _ _ _, hg.next hb⟩
    · -- the stretch that ends here is ill-formed, so there is nothing to show
      simp only [Reader.step, if_neg hb]
      refine spells_start fun hnone => absurd List.mem_cons_self hnone

theorem Reader.Spells.foldl {r : Reader} (h : r.Spells bytes) (more : Bytes) :
    (more.foldl Reader.step r).Spells (bytes ++ more) := by
  induction more generalizing r bytes with
  | nil => rwa [List.append_nil]
  | cons b rest ih =>
    have := ih (h.step b)
    rwa [List.append_assoc] at this

/-- Bytes are read as a text just when they are the bytes of the text. -/
theorem decode?_eq_some_iff {s : String} : decode? bytes = some s ↔ bytes = encode s := by
  constructor
  · intro h
    have hstart : ({} : Reader).Spells [] := fun _ => ⟨[], rfl, rfl⟩
    have hspells := hstart.foldl bytes
    rw [List.nil_append] at hspells
    rw [decode?, decode] at h
    generalize bytes.foldl Reader.step {} = r at h hspells
    split at h
    · cases h
    · next hnone =>
      obtain ⟨done, _ | g⟩ := r
      · obtain ⟨part, hbytes, rfl⟩ := hspells (by simpa [Reader.finish] using hnone)
        cases h
        rw [hbytes, encode, String.toList_ofList, List.append_nil]
        rfl
      · simp [Reader.finish] at hnone
  · rintro rfl
    simp [decode?, decode_encode]

end WebhookRelay.Utf8
