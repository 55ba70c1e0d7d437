/-!
# UTF-8

Bytes are read one at a time by a small machine (`Utf8.Reader`), which yields the characters they
spell and one `none` for each longest ill-formed stretch. `encode` goes the other way;
`decode_encode` says that what was encoded is read back.
-/

namespace WebhookRelay

/-- A sequence of bytes, such as the body of a request. -/
abbrev Bytes := List UInt8

namespace Utf8

/-- The bytes of one character. -/
def encodeChar (c : Char) : Bytes :=
  let v := c.toNat
  if v < 0x80 then [UInt8.ofNat v]
  else if v < 0x800 then [UInt8.ofNat (0xC0 + v / 64), UInt8.ofNat (0x80 + v % 64)]
  else if v < 0x10000 then
    [UInt8.ofNat (0xE0 + v / 4096), UInt8.ofNat (0x80 + v / 64 % 64), UInt8.ofNat (0x80 + v % 64)]
  else
    [UInt8.ofNat (0xF0 + v / 262144), UInt8.ofNat (0x80 + v / 4096 % 64),
      UInt8.ofNat (0x80 + v / 64 % 64), UInt8.ofNat (0x80 + v % 64)]

/-- The bytes of a list of characters. -/
def encodeChars (cs : List Char) : Bytes := cs.flatMap encodeChar

theorem encodeChars_cons (c : Char) (rest : List Char) :
    encodeChars (c :: rest) = encodeChar c ++ encodeChars rest :=
  List.flatMap_cons

/-- The bytes of a text. -/
def encode (s : String) : Bytes := encodeChars s.toList

/-- A character of which some bytes have been read. -/
structure Begun where
  /-- how many bytes are still to come, less one -/
  more : Nat
  /-- the least value the next byte may have -/
  least : Nat
  /-- the greatest value the next byte may have -/
  greatest : Nat
  /-- the bits read so far -/
  bits : Nat

/-- A reader of bytes: what it has read, last first, and the character it is in. -/
structure Reader where
  /-- what has been read, last first; `none` is an ill-formed stretch -/
  done : List (Option Char) := []
  /-- the character of which some bytes have been read -/
  begun : Option Begun := none

namespace Reader

/-- Reads a byte that begins a character. -/
def start (done : List (Option Char)) (b : Nat) : Reader :=
  if b < 0x80 then ⟨some (Char.ofNat b) :: done, none⟩
  else if b < 0xC2 then ⟨none :: done, none⟩
  else if b < 0xE0 then ⟨done, some ⟨0, 0x80, 0xBF, b - 0xC0⟩⟩
  else if b < 0xF0 then
    ⟨done, some ⟨1, if b = 0xE0 then 0xA0 else 0x80, if b = 0xED then 0x9F else 0xBF, b - 0xE0⟩⟩
  else if b < 0xF5 then
    ⟨done, some ⟨2, if b = 0xF0 then 0x90 else 0x80, if b = 0xF4 then 0x8F else 0xBF, b - 0xF0⟩⟩
  else ⟨none :: done, none⟩

/-- Reads a byte. One that cannot go on with a begun character ends an ill-formed stretch and
begins anew. -/
def step (r : Reader) (byte : UInt8) : Reader :=
  let b := byte.toNat
  match r.begun with
  | none => start r.done b
  | some g =>
    if g.least ≤ b ∧ b ≤ g.greatest then
      let bits := g.bits * 64 + (b - 0x80)
      match g.more with
      | 0 => ⟨some (Char.ofNat bits) :: r.done, none⟩
      | n + 1 => ⟨r.done, some ⟨n, 0x80, 0xBF, bits⟩⟩
    else start (none :: r.done) b

/-- What has been read once the input has ended. -/
def finish (r : Reader) : List (Option Char) :=
  match r.begun with
  | none => r.done.reverse
  | some _ => (none :: r.done).reverse

end Reader

/-- The characters that bytes spell, with one `none` for each longest ill-formed stretch. -/
def decode (bytes : Bytes) : List (Option Char) := (bytes.foldl Reader.step {}).finish

/-- The text that bytes spell, if they are well-formed. -/
def decode? (bytes : Bytes) : Option String :=
  let cs := decode bytes
  if cs.contains none then none else some (String.ofList (cs.filterMap id))

/-- The text that bytes spell, each ill-formed stretch being a replacement character. -/
def decodeLossy (bytes : Bytes) : String :=
  String.ofList ((decode bytes).map (·.getD '\uFFFD'))

/-! ## Reading back what was encoded -/

private theorem toNat_ofNat {n : Nat} (h : n < 256) : (UInt8.ofNat n).toNat = n := by
  simp only [UInt8.toNat_ofNat']
  omega

private theorem valid (c : Char) : c.toNat < 0xD800 ∨ 0xDFFF < c.toNat ∧ c.toNat < 0x110000 :=
  c.valid

/-- The reader takes the bytes of a character for that character. -/
theorem foldl_step_encodeChar (done : List (Option Char)) (c : Char) :
    (encodeChar c).foldl Reader.step ⟨done, none⟩ = ⟨some c :: done, none⟩ := by
  have hv := valid c
  have hc : Char.ofNat c.toNat = c := Char.ofNat_toNat c
  unfold encodeChar
  generalize c.toNat = v at hv hc
  have h₀ : (UInt8.ofNat (0x80 + v % 64)).toNat = 0x80 + v % 64 := toNat_ofNat (by omega)
  have h₁ : (UInt8.ofNat (0x80 + v / 64 % 64)).toNat = 0x80 + v / 64 % 64 := toNat_ofNat (by omega)
  have h₂ : (UInt8.ofNat (0x80 + v / 4096 % 64)).toNat = 0x80 + v / 4096 % 64 :=
    toNat_ofNat (by omega)
  by_cases hv₁ : v < 0x80
  · simp [hv₁, Reader.step, Reader.start, toNat_ofNat (show v < 256 by omega), hc]
  by_cases hv₂ : v < 0x800
  · have h : (UInt8.ofNat (0xC0 + v / 64)).toNat = 0xC0 + v / 64 := toNat_ofNat (by omega)
    have hbits : v / 64 * 64 + v % 64 = v := by omega
    simp only [hv₁, hv₂, if_true, if_false, List.foldl_cons, List.foldl_nil, Reader.step,
      Reader.start, h, show ¬ 0xC0 + v / 64 < 0x80 by omega,
      show ¬ 0xC0 + v / 64 < 0xC2 by omega, show 0xC0 + v / 64 < 0xE0 by omega, h₀,
      show 0x80 ≤ 0x80 + v % 64 by omega, show 0x80 + v % 64 ≤ 0xBF by omega, and_self,
      Nat.add_sub_cancel_left, hbits, hc]
  by_cases hv₃ : v < 0x10000
  · have h : (UInt8.ofNat (0xE0 + v / 4096)).toNat = 0xE0 + v / 4096 := toNat_ofNat (by omega)
    have hbits : (v / 4096 * 64 + v / 64 % 64) * 64 + v % 64 = v := by omega
    have hleast : (if 0xE0 + v / 4096 = 0xE0 then 0xA0 else 0x80) ≤ 0x80 + v / 64 % 64 := by
      split <;> omega
    have hgreatest : 0x80 + v / 64 % 64 ≤ (if 0xE0 + v / 4096 = 0xED then 0x9F else 0xBF) := by
      split <;> omega
    simp only [hv₁, hv₂, hv₃, if_true, if_false, List.foldl_cons, List.foldl_nil, Reader.step,
      Reader.start, h, show ¬ 0xE0 + v / 4096 < 0x80 by omega,
      show ¬ 0xE0 + v / 4096 < 0xC2 by omega, show ¬ 0xE0 + v / 4096 < 0xE0 by omega,
      show 0xE0 + v / 4096 < 0xF0 by omega, h₁, h₀, hleast, hgreatest, and_self,
      show 0x80 ≤ 0x80 + v % 64 by omega, show 0x80 + v % 64 ≤ 0xBF by omega,
      Nat.add_sub_cancel_left, hbits, hc]
  · have h : (UInt8.ofNat (0xF0 + v / 262144)).toNat = 0xF0 + v / 262144 := toNat_ofNat (by omega)
    have hbits : ((v / 262144 * 64 + v / 4096 % 64) * 64 + v / 64 % 64) * 64 + v % 64 = v := by
      omega
    have hleast : (if 0xF0 + v / 262144 = 0xF0 then 0x90 else 0x80) ≤ 0x80 + v / 4096 % 64 := by
      split <;> omega
    have hgreatest : 0x80 + v / 4096 % 64 ≤ (if 0xF0 + v / 262144 = 0xF4 then 0x8F else 0xBF) := by
      split <;> omega
    simp only [hv₁, hv₂, hv₃, if_true, if_false, List.foldl_cons, List.foldl_nil, Reader.step,
      Reader.start, h, show ¬ 0xF0 + v / 262144 < 0x80 by omega,
      show ¬ 0xF0 + v / 262144 < 0xC2 by omega, show ¬ 0xF0 + v / 262144 < 0xE0 by omega,
      show ¬ 0xF0 + v / 262144 < 0xF0 by omega, show 0xF0 + v / 262144 < 0xF5 by omega,
      h₂, h₁, h₀, hleast, hgreatest, and_self,
      show 0x80 ≤ 0x80 + v / 64 % 64 by omega, show 0x80 + v / 64 % 64 ≤ 0xBF by omega,
      show 0x80 ≤ 0x80 + v % 64 by omega, show 0x80 + v % 64 ≤ 0xBF by omega,
      Nat.add_sub_cancel_left, hbits, hc]

theorem decode_encodeChars (cs : List Char) : decode (encodeChars cs) = cs.map some := by
  suffices h : ∀ done, (encodeChars cs).foldl Reader.step ⟨done, none⟩ =
      ⟨(cs.map some).reverse ++ done, none⟩ by
    simp [decode, h, Reader.finish]
  induction cs with
  | nil => intro done; rfl
  | cons c rest ih =>
    intro done
    simp only [encodeChars, List.flatMap_cons, List.foldl_append, foldl_step_encodeChar]
    have := ih (some c :: done)
    simp only [encodeChars] at this
    simp [this]

/-- What was encoded is read back. -/
theorem decode_encode (s : String) : decode (encode s) = s.toList.map some :=
  decode_encodeChars s.toList

end Utf8

end WebhookRelay
