import WebhookRelay.Text.Hex
import WebhookRelay.Toml.Reader

/-!
# Texts and keys

Texts stand in quotes. Between double quotes a backslash begins an escape, between single quotes it
stands for itself; three quotes of either kind begin a text that may run over several lines. A key
is a bare word or a text of one line, and dots join keys to a path.
-/

namespace WebhookRelay.Toml

open Reader

/-! ## Characters of a text -/

/-- A character that stands for itself, as all do but the quote and those that are excepted. -/
def literalChar (except : List Char) : Reader Char := one fun c => isPlain c && !except.contains c

/-- The value of so many hexadecimal digits. -/
def hexValue : Nat → Nat → Reader Nat
  | 0, value => pure value
  | n + 1, value => do
    let d ← oneAs Hex.value?
    hexValue n (16 * value + d)

/-- A character given by its number. -/
def numbered (width : Nat) : Reader Char := do
  let v ← hexValue width 0
  if v.isValidChar then return Char.ofNat v else failure

/-- The character that is escaped by a letter. -/
def shortEscape : Char → Option Char
  | 'b' => some '\x08'
  | 't' => some '\t'
  | 'n' => some '\n'
  | 'f' => some '\x0c'
  | 'r' => some '\r'
  | '"' => some '"'
  | '\\' => some '\\'
  | _ => none

/-- An escaped character. -/
def escape : Reader Char := do
  char '\\'
  oneAs shortEscape <|> (char 'u' *> numbered 4) <|> (char 'U' *> numbered 8)

/-- A backslash at the end of a line, with all blanks and ends of lines after it. -/
def joint : Reader Unit := do
  char '\\'
  blanks
  newline
  let _ ← many (newline <|> do let _ ← one isBlank)

/-! ## Texts of one line -/

/-- A text between double quotes. -/
def basicText : Reader (List Char) := do
  char '"'
  let s ← many (literalChar ['"', '\\'] <|> escape)
  char '"'
  return s

/-- A text between single quotes. -/
def literalText : Reader (List Char) := do
  char '\''
  let s ← many (literalChar ['\''])
  char '\''
  return s

/-! ## Texts of several lines -/

/-- A stretch of a text between double quotes that may run over several lines. -/
def basicStretch : Reader (List Char) :=
  (do return [← literalChar ['"', '\\']]) <|> (do joint; return []) <|> (do return [← escape]) <|>
    (do newline; return ['\n'])

/-- A stretch of a text between single quotes that may run over several lines. -/
def literalStretch : Reader (List Char) :=
  (do return [← literalChar ['\'']]) <|> (do newline; return ['\n'])

/-- One or two quotes that a stretch follows. -/
def innerQuotes (quote : Char) (stretch : Reader (List Char)) : Reader (List Char) :=
  (do word [quote, quote]; let _ ← ahead stretch; return [quote, quote]) <|>
    (do char quote; let _ ← ahead stretch; return [quote])

/-- Three quotes, with the one or two that may stand before them. -/
def closingQuotes (quote : Char) : Reader (List Char) :=
  (do word (List.replicate 5 quote); return [quote, quote]) <|>
    (do word (List.replicate 4 quote); return [quote]) <|>
    (do word (List.replicate 3 quote); return [])

/-- A text between three quotes. The end of a line right after them does not count. -/
def longText (quote : Char) (stretch : Reader (List Char)) : Reader (List Char) := do
  word (List.replicate 3 quote)
  let _ ← optional newline
  -- a quote or two belong to the text only if more of it follows; `closingQuotes` sees to the rest
  let stretches ← many (stretch <|> innerQuotes quote stretch)
  let last ← closingQuotes quote
  return stretches.flatten ++ last

/-- A text. -/
def text : Reader String := do
  let s ← longText '"' basicStretch <|> longText '\'' literalStretch <|> basicText <|> literalText
  return String.ofList s

/-! ## Keys -/

/-- How long a path of keys may be, less one, and how deep values may nest. -/
def depthLimit : Nat := 79

/-- A path of keys: the tables it goes through and the key at its end. -/
structure Path where
  above : List String
  last : String

/-- Whether a character may stand in a bare key. -/
def isBare (c : Char) : Bool := c.isAlphanum || c = '-' || c = '_'

/-- A bare key. -/
def bareKey : Reader (List Char) := do
  let s ← allOf isBare
  if s.isEmpty then failure else return s

/-- A single key. -/
def key : Reader String := do
  let s ← basicText <|> literalText <|> bareKey
  return String.ofList s

/-- The path that a list of keys is. -/
def Path.ofList : List String → Option Path
  | [] => none
  | keys@(k :: _) => some ⟨keys.dropLast, keys.getLastD k⟩

/-- A path of keys, with blanks around each of them. -/
def path : Reader Path := do
  let keys ← separated (char '.') (blanks *> key <* blanks)
  if keys.length ≤ depthLimit then StateT.lift (Path.ofList keys) else failure

end WebhookRelay.Toml
