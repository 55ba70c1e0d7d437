import WebhookRelay.Text.ComposeTables

/-!
# Composed characters

The same letter with its marks can be written in several ways. `composed` gives the one in which
characters are composed as far as can be: every character is taken apart (`apart`), the marks on a
letter are brought into order (`ordered`), and what makes one character is put together again
(`together`).
-/

namespace WebhookRelay.Text

namespace Compose

/-! ## Hangul -/

/-- The number of the first syllable. -/
def syllableStart : Nat := 0xAC00

/-- The number of the first leading consonant. -/
def firstStart : Nat := 0x1100

/-- The number of the first vowel. -/
def secondStart : Nat := 0x1161

/-- The number before that of the first trailing consonant. It stands for no consonant. -/
def thirdStart : Nat := 0x11A7

/-- How many leading consonants there are. -/
def firstCount : Nat := 19

/-- How many vowels there are. -/
def secondCount : Nat := 21

/-- How many trailing consonants there are, none being counted as one. -/
def thirdCount : Nat := 28

/-- The two characters that a syllable is made of: one without a trailing consonant of a consonant
and a vowel, any other of such a syllable and the trailing consonant. -/
def syllableParts? (v : Nat) : Option (Nat × Nat) :=
  let s := v - syllableStart
  if v < syllableStart || firstCount * secondCount * thirdCount ≤ s then none
  else if s % thirdCount = 0 then
    let n := s / thirdCount
    some (firstStart + n / secondCount, secondStart + n % secondCount)
  else some (v - s % thirdCount, thirdStart + s % thirdCount)

/-- The syllable that two characters make. -/
def syllable? (a b : Nat) : Option Nat :=
  if firstStart ≤ a && a < firstStart + firstCount &&
      secondStart ≤ b && b < secondStart + secondCount then
    some (syllableStart +
      ((a - firstStart) * secondCount + (b - secondStart)) * thirdCount)
  else if thirdStart < b && b < thirdStart + thirdCount &&
      syllableStart ≤ a && a < syllableStart + firstCount * secondCount * thirdCount &&
      (a - syllableStart) % thirdCount = 0 then
    some (a + (b - thirdStart))
  else none

/-! ## Single steps -/

/-- The two characters that a character is made of. -/
def parts? (c : Char) : Option (Char × Char) :=
  match syllableParts? c.toNat with
  | some (a, b) => some (Char.ofNat a, Char.ofNat b)
  | none =>
    match pairs.entry? c with
    | some [a, b] => some (a, b)
    | _ => none

/-- The character that two characters make. -/
def whole? (a b : Char) : Option Char :=
  match syllable? a.toNat b.toNat with
  | some v => some (Char.ofNat v)
  | none =>
    pairs.findSome? fun s => (s.note.idxOf? [a, b]).map fun i => Char.ofNat (s.first + i)

/-- The class of a mark, zero for what is no mark. -/
def markClass (c : Char) : Nat := (classes.note? c).getD 0

/-! ## Taking apart and putting together -/

/-- The characters that a character is made of, in so many steps at most. -/
def apartIn : Nat → Char → List Char
  | 0, c => [c]
  | steps + 1, c =>
    match parts? c with
    | some (a, b) => apartIn steps a ++ apartIn steps b
    | none => [c]

/-- The characters that a character is made of. No character carries more than three marks. -/
def apart (c : Char) : List Char := apartIn 4 c

/-- Puts a character behind a text, which is given last character first. A mark passes marks of
greater classes. -/
def place (c : Char) : List Char → List Char
  | [] => [c]
  | d :: before =>
    if markClass c ≠ 0 && markClass c < markClass d then d :: place c before
    else c :: d :: before

/-- A text with its marks in order. -/
def ordered (cs : List Char) : List Char :=
  (cs.foldl (fun before c => place c before) []).reverse

/-- A text that is being put together, all parts of it last character first. -/
structure Joint where
  /-- what can not change any more -/
  done : List Char := []
  /-- the last character that is no mark -/
  base : Option Char := none
  /-- the marks behind it that did not join it -/
  marks : List Char := []

/-- The text that has been put together so far. -/
def Joint.text (j : Joint) : List Char := j.marks ++ j.base.toList ++ j.done

/-- Adds a character. It joins the last one that is no mark, unless a mark in between is of no lesser
class. -/
def Joint.add (j : Joint) (c : Char) : Joint :=
  let free := j.marks.head?.all fun m => markClass m < markClass c
  match (if free then j.base.bind (whole? · c) else none) with
  | some b => { j with base := some b }
  | none =>
    if markClass c = 0 then { done := j.text, base := some c }
    else { j with marks := c :: j.marks }

/-- A text in which characters that make one are put together. -/
def together (cs : List Char) : List Char := (cs.foldl Joint.add {}).text.reverse

end Compose

/-- The number of the first mark. -/
def firstMark : Nat := 0x300

/-- A text in which characters are composed as far as can be. Below `firstMark` there is nothing to
put together. -/
def composed (cs : List Char) : List Char :=
  if cs.all (·.toNat < firstMark) then cs
  else Compose.together (Compose.ordered (cs.flatMap Compose.apart))

end WebhookRelay.Text
