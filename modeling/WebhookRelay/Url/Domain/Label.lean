import WebhookRelay.Text.ComposeTables
import WebhookRelay.Url.Domain.LabelTables

/-!
# Labels of domains

What has to hold of a label besides being in normal form. `sound` is what can be said of a label
alone: which characters it begins with and holds. `upright` is about directions: where a domain has
letters that are written from right to left, none of its labels may mix directions so that its
characters could be shown in another order than they have.
-/

namespace WebhookRelay.Url.Domain

open Text

/-! ## Characters -/

/-- Whether a character is ASCII and no domain may hold it. -/
def denied (c : Char) : Bool :=
  c.toNat ≤ 0x20 || c.toNat = 0x7F ||
    ['#', '%', '/', ':', '<', '>', '?', '@', '[', '\\', ']', '^', '|'].contains c

/-- Whether a character is ASCII. -/
def isAscii (c : Char) : Bool := c.toNat < 0x80

/-- Whether a character is a mark. -/
def isMark (c : Char) : Bool := !isAscii c && (nonspacing.holds c || spacing.holds c)

/-! ## Joiners -/

/-- Where a character joins with its neighbours. -/
inductive Joining where
  | both
  | left
  | right
  /-- its neighbours join across it -/
  | transparent
  | nowhere
  deriving DecidableEq

/-- How a character joins. -/
def joining (c : Char) : Joining :=
  if nonspacing.holds c then .transparent
  else
    match joiningNames.note? c with
    | some ['D'] => .both
    | some ['L'] => .left
    | some ['R'] => .right
    | some ['T'] => .transparent
    | _ => .nowhere

/-- Whether the first character that is not transparent joins on a side. -/
def meetsJoining (side : Joining) (cs : List Char) : Bool :=
  match cs.dropWhile (joining · = .transparent) with
  | c :: _ => joining c = side || joining c = .both
  | [] => false

/-- The class of the marks by which consonants are bound together. -/
def viramaClass : Nat := 9

/-- Whether every joiner stands where it has a meaning: behind a mark that binds consonants, or, if
it keeps letters apart, between two that would join. What stands before is given last character
first. -/
def joinersMean : List Char → List Char → Bool
  | _, [] => true
  | before, c :: rest =>
    let bound := before.head?.any fun b => Compose.classes.note? b = some viramaClass
    (match c with
      | '\u200C' => bound || (meetsJoining .left before && meetsJoining .right rest)
      | '\u200D' => bound
      | _ => true) && joinersMean (c :: before) rest

/-- Whether a label in normal form may stand in a domain. -/
def sound (label : List Char) : Bool :=
  !label.any denied && !label.head?.any isMark && joinersMean [] label

/-! ## Directions -/

/-- The direction of a character. -/
inductive Direction where
  /-- of letters that are written from left to right -/
  | left
  /-- of letters that are written from right to left -/
  | right
  /-- of Arabic letters -/
  | arabic
  /-- of digits -/
  | number
  /-- of Arabic digits -/
  | arabicNumber
  /-- of a sign between digits, of one behind them, and of a comma or a point -/
  | sign | unit | point
  /-- of marks that take no room of their own -/
  | mark
  /-- of what is not seen -/
  | unseen
  /-- of all others -/
  | neutral
  deriving DecidableEq

/-- The direction of a name in the tables. -/
def Direction.ofName (name : List Char) : Direction :=
  match name with
  | ['L'] => left
  | ['R'] => right
  | ['A', 'L'] => arabic
  | ['E', 'N'] => number
  | ['A', 'N'] => arabicNumber
  | ['E', 'S'] => sign
  | ['E', 'T'] => unit
  | ['C', 'S'] => point
  | ['B', 'N'] => unseen
  | _ => neutral

/-- The direction of a character. -/
def direction (c : Char) : Direction :=
  match directionNames.note? c with
  | some name => .ofName name
  | none => if nonspacing.holds c then .mark else .left

/-- The directions of letters and digits that are found only where one writes from right to left. -/
def Direction.leftward : List Direction := [right, arabic, arabicNumber]

/-- The directions of what may stand in a label of either kind. -/
def Direction.common : List Direction := [number, sign, unit, point, neutral, unseen, mark]

/-- Whether a domain has a character of a script that is written from right to left. -/
def hasLeftward (labels : List (List Char)) : Bool :=
  labels.any fun l => l.any fun c => !isAscii c && Direction.leftward.contains (direction c)

/-- Whether a label does not mix directions. It begins with a letter, the direction of which is that
of the label, and but for marks it ends in a letter of that direction or a digit. -/
def upright (label : List Char) : Bool :=
  let ds := label.map direction
  let last := (ds.reverse.dropWhile (· = .mark)).head?
  match ds.head? with
  | none => true
  | some .left =>
    ds.all (fun d => d = .left || Direction.common.contains d) &&
      last.any fun d => d = .left || d = .number
  | some first =>
    (first = .right || first = .arabic) &&
      ds.all (fun d => Direction.leftward.contains d || Direction.common.contains d) &&
      last.any (fun d => d = .number || Direction.leftward.contains d) &&
      !(ds.contains .number && ds.contains .arabicNumber)

end WebhookRelay.Url.Domain
