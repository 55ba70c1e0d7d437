import WebhookRelay.Text.Hex
import WebhookRelay.Text.Split

/-!
# Charts of characters

A chart says something of characters, stretch by stretch. It is written in lines of entries with a
blank between each two. An entry is a code point, or the first and the last one of a stretch with a
dash between them, in hexadecimal; what is said of them may follow a colon.

`Replacements` are three charts that say together what characters are replaced by.
-/

namespace WebhookRelay.Text

variable {α : Type}

/-- A stretch of characters and what is said of them. -/
structure Stretch (α : Type) where
  /-- the first code point -/
  first : Nat
  /-- the last code point -/
  last : Nat
  /-- what is said of them -/
  note : α

/-- What is said of characters. -/
abbrev Chart (α : Type) := List (Stretch α)

/-- The number that hexadecimal digits spell. -/
def codePoint (cs : List Char) : Nat := cs.foldl (fun n c => 16 * n + (Hex.value? c).getD 0) 0

/-- For each of the texts between commas the characters whose code points stand between dots. -/
def charLists (cs : List Char) : List (List Char) :=
  (pieces ',' cs).map fun text => (pieces '.' text).map fun p => Char.ofNat (codePoint p)

/-- Reads an entry, given what the text behind the colon says. -/
def Stretch.read (note : List Char → α) (entry : List Char) : Stretch α :=
  let (range, text) := (cutAtFirst ':' entry).getD (entry, [])
  let (first, last) := (cutAtFirst '-' range).getD (range, range)
  ⟨codePoint first, codePoint last, note text⟩

namespace Chart

/-- Reads a chart, given what the texts behind colons say. -/
def ofLines (note : List Char → α) (lines : List String) : Chart α :=
  lines.flatMap fun line => (pieces ' ' line.toList).map (Stretch.read note)

/-- Reads a chart that says of characters only that they are in it. -/
def ofRanges (lines : List String) : Chart Unit := ofLines (fun _ => ()) lines

/-- The stretch that a character is in. -/
def stretch? (chart : Chart α) (c : Char) : Option (Stretch α) :=
  chart.find? fun s => s.first ≤ c.toNat && c.toNat ≤ s.last

/-- What is said of a character. -/
def note? (chart : Chart α) (c : Char) : Option α := (chart.stretch? c).map (·.note)

/-- What is said of a character, in a chart that lists something for each character of a stretch. -/
def entry? (chart : Chart (List α)) (c : Char) : Option α :=
  (chart.stretch? c).bind fun s => s.note[c.toNat - s.first]?

/-- Whether a character is in a chart. -/
def holds (chart : Chart α) (c : Char) : Bool := (chart.stretch? c).isSome

end Chart

/-! ## Replacements -/

/-- What characters are replaced by. -/
structure Replacements where
  /-- stretches that are replaced by others, and the first characters of those -/
  shifted : Chart Nat
  /-- stretches in which capital and small letters alternate, a capital one first; it is replaced by
  the small one behind it -/
  alternating : Chart Unit
  /-- what replaces each character of other stretches -/
  listed : Chart (List (List Char))

/-- What a character is replaced by, if it is. -/
def Replacements.of? (r : Replacements) (c : Char) : Option (List Char) :=
  match r.listed.entry? c, r.shifted.stretch? c, r.alternating.stretch? c with
  | some cs, _, _ => some cs
  | none, some s, _ => some [Char.ofNat (s.note + (c.toNat - s.first))]
  | none, none, some s =>
    some [if (c.toNat - s.first) % 2 = 0 then Char.ofNat (c.toNat + 1) else c]
  | none, none, none => none

end WebhookRelay.Text
