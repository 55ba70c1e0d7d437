import WebhookRelay.Text.Split

/-!
# Reading characters

A `Reader` takes characters off the front of its input, or refuses. Where one reader refuses, another
may be tried on the same input (`<|>`).

The line structure of settings files is read here too: blanks, ends of lines and comments.
-/

namespace WebhookRelay.Toml

/-- What takes characters off the front of its input and yields a value, or refuses. -/
abbrev Reader (α : Type) := StateT (List Char) Option α

namespace Reader

variable {α β : Type}

/-- Reads a character of a kind. -/
def one (p : Char → Bool) : Reader Char
  | [] => none
  | c :: rest => if p c then some (c, rest) else none

/-- Reads a character of a kind and yields what it stands for. -/
def oneAs (f : Char → Option α) : Reader α
  | [] => none
  | c :: rest => (f c).map fun a => (a, rest)

/-- Reads a given text. -/
def word (w : List Char) : Reader Unit := fun cs => (Text.dropStart? w cs).map fun rest => ((), rest)

/-- Reads a given character. -/
def char (c : Char) : Reader Unit := word [c]

/-- Reads all characters of a kind up to the first of another. -/
def allOf (p : Char → Bool) : Reader (List Char) := fun cs => some (cs.takeWhile p, cs.dropWhile p)

/-- Reads the input to its end. -/
def ending : Reader Unit
  | [] => some ((), [])
  | _ :: _ => none

/-- Reads what a reader would read, and leaves it there. -/
def ahead (r : Reader α) : Reader α := fun cs => (r cs).map fun out => (out.1, cs)

/-- Reads as often as there are characters in a list, or until the reader refuses. -/
def atMost (r : Reader α) : List Char → Reader (List α)
  | [] => pure []
  | _ :: more =>
    (do
      let a ← r
      let rest ← atMost r more
      return a :: rest) <|>
    pure []

/-- Reads until the reader refuses, which is to read at least one character each time. -/
def many (r : Reader α) : Reader (List α) := fun cs => atMost r cs cs

/-- Reads at least once, and with separators in between. -/
def separated (separator : Reader β) (r : Reader α) : Reader (List α) := do
  let a ← r
  let rest ← many (separator *> r)
  return a :: rest

end Reader

open Reader

/-! ## Lines -/

/-- Whether a character is a blank within a line. -/
def isBlank (c : Char) : Bool := c = ' ' || c = '\t'

/-- Whether a character may stand in a comment: all but control characters other than tabs. -/
def isPlain (c : Char) : Bool := c = '\t' || (0x20 ≤ c.toNat && c.toNat ≠ 0x7F)

/-- Blanks, of which there may be none. -/
def blanks : Reader Unit := do let _ ← allOf isBlank

/-- The end of a line. -/
def newline : Reader Unit := char '\n' <|> word ['\r', '\n']

/-- A comment, up to the end of its line. -/
def comment : Reader Unit := do
  char '#'
  let _ ← allOf isPlain

/-- The end of a line or of the input. -/
def lineEnd : Reader Unit := newline <|> ending

/-- What may follow on a line once all has been said. -/
def restOfLine : Reader Unit := do
  blanks
  let _ ← optional comment
  lineEnd

/-- Blanks, comments and ends of lines. -/
def gap : Reader Unit := do
  let _ ← many (blanks *> optional comment *> newline)
  blanks

end WebhookRelay.Toml
