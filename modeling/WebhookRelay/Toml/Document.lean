import WebhookRelay.Toml.Draft
import WebhookRelay.Toml.Envelope

/-!
# Settings files

A file is a sequence of statements, one a line: headers of tables, headers of elements of lists, and
keys with values. `read` takes a file apart into statements and has each of them take effect on the
tables written so far.
-/

namespace WebhookRelay.Toml

open Reader

/-! ## Values -/

/-- A value that holds no others. -/
def scalar : Reader Value :=
  (do return .text (← text)) <|> numeric <|> (do word "true".toList; return .bool true) <|>
    (do word "false".toList; return .bool false)

/-- A list of values, over any number of lines. A comma may follow the last one. -/
def array (item : Reader Value) : Reader Value := do
  char '['
  let items ← optional (separated (char ',') (gap *> item <* gap))
  if items.isSome then let _ ← optional (char ',')
  gap
  char ']'
  return .array (items.getD [])

/-- A key and its value. -/
def assignment (item : Reader Value) : Reader (Path × Value) := do
  let p ← path
  char '='
  blanks
  return (p, ← item)

/-- A table as a value, on one line. -/
def inlineTable (item : Reader Value) : Reader Value := do
  char '\x7b'
  let items ← optional (separated (char ',') (assignment item <* blanks))
  blanks
  char '\x7d'
  let entries ← StateT.lift (Draft.ofInline (items.getD []))
  return .table entries

/-- A value in which at most so many lists and tables are open at a time. -/
def value : Nat → Reader Value
  | 0 => scalar
  | depth + 1 => scalar <|> array (value depth) <|> inlineTable (value depth)

/-! ## Statements -/

/-- A statement of a settings file. -/
inductive Statement where
  /-- the header of a table -/
  | table (path : Path)
  /-- the header of an element of a list of tables -/
  | element (path : Path)
  /-- a value under a key -/
  | assign (path : Path) (v : Value)

/-- A statement, up to the end of its line. -/
def statement : Reader Statement :=
  (do
    let p ← word ['[', '['] *> path <* word [']', ']']
    restOfLine
    return .element p) <|>
  (do
    let p ← char '[' *> path <* char ']'
    restOfLine
    return .table p) <|>
  (do
    let (p, v) ← assignment (value depthLimit)
    restOfLine
    return .assign p v)

/-- A line, which may hold no statement. -/
def line : Reader (Option Statement) :=
  (do newline; return none) <|> (do comment; lineEnd; return none) <|>
    (do return some (← statement))

/-- The statements of a file. A mark of the byte order may stand in front. -/
def statements : Reader (List Statement) := do
  let _ ← optional (char '\uFEFF')
  blanks
  let lines ← many (line <* blanks)
  ending
  return lines.filterMap id

/-! ## What statements do -/

/-- What has been read so far: all tables, and the path of the one that values go into. -/
structure Progress where
  content : Draft.Content := []
  here : List String := []

/-- Has a statement take effect. -/
def Progress.take (p : Progress) : Statement → Option Progress
  | .table path =>
    (Draft.beginTable path p.content).map fun c => ⟨c, path.above ++ [path.last]⟩
  | .element path =>
    (Draft.beginElement path p.content).map fun c => ⟨c, path.above ++ [path.last]⟩
  | .assign path v =>
    (Draft.change false (Draft.addValue path v) p.here .written p.content).map
      fun c => { p with content := c }

/-- Reads a file: the table that it is, unless that is the envelope of a date or time. -/
def read (input : List Char) : Option Value := do
  let (all, _) ← statements input
  let p ← all.foldlM Progress.take {}
  (Value.table (Draft.finishEntries p.content)).unwrap

end WebhookRelay.Toml
