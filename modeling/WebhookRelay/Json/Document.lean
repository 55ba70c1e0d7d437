import WebhookRelay.Json.Token

/-!
# JSON documents

A document is read as far as its grammar holds. What comes out is a `Doc`, a tree that marks the
place where the grammar was left: containers that were never closed say so, and a value that should
have been there and was not is `Doc.missing`. So a document can be decoded from its start, and of
two faults the first one in the text is the one that counts, be it a fault of grammar or a value
that is not what was wanted.

Open containers are kept in a list, so that nesting costs no recursion.
-/

namespace WebhookRelay.Json

/-- A JSON value as far as it could be read. -/
inductive Doc where
  /-- a value was wanted and none could be read -/
  | missing
  | null
  | bool (b : Bool)
  /-- a number; `none` if it is out of range -/
  | number (n : Option Number)
  /-- a text; `none` if no text can be made of it -/
  | text (s : Option String)
  /-- an array, and whether its end was reached -/
  | array (items : List Doc) (closed : Bool)
  /-- an object, and whether its end was reached -/
  | object (members : List (Option String × Doc)) (closed : Bool)

/-- Whether a value is grammatical from its first character to its last. -/
def Doc.intact : Doc → Bool
  | .missing => false
  | .array _ closed | .object _ closed => closed
  | _ => true

/-- A container that is being read, its parts last first. -/
inductive Frame where
  /-- an array -/
  | array (items : List Doc)
  /-- an object between members -/
  | object (members : List (Option String × Doc))
  /-- an object in a member with the given name -/
  | member (members : List (Option String × Doc)) (name : Option String)

/-- What may come next. -/
inductive Expect where
  | value
  /-- a first item or the end of the array -/
  | firstItem
  /-- a comma or the end of the array -/
  | afterItem
  /-- a first name or the end of the object -/
  | firstName
  | name
  | colon
  /-- a comma or the end of the object -/
  | afterMember

/-- A reader of tokens. -/
inductive Reading where
  /-- the containers that are open, innermost first, and what may come next -/
  | open (stack : List Frame) (expect : Expect)
  /-- the document is complete, and whether something follows it -/
  | complete (root : Doc) (followed : Bool)
  /-- the grammar was left; this is what was read before -/
  | left (root : Doc)

namespace Reading

/-- What was read, when the innermost container ends in `last` and nothing is closed. -/
def abandon : List Frame → Option Doc → Doc
  | [], last => last.getD .missing
  | .array items :: stack, last =>
    abandon stack (some (.array (last.toList ++ items).reverse false))
  | .object members :: stack, _ => abandon stack (some (.object members.reverse false))
  | .member members name :: stack, last =>
    abandon stack (some (.object ((name, last.getD .missing) :: members).reverse false))

/-- Takes in a value that has been read in full. -/
def take (v : Doc) : List Frame → Reading
  | [] => .complete v false
  | .array items :: stack => .open (.array (v :: items) :: stack) .afterItem
  | .member members name :: stack => .open (.object ((name, v) :: members) :: stack) .afterMember
  | .object members :: stack => .left (abandon (.object members :: stack) none)

/-- Reads the first token of a value. -/
def value (stack : List Frame) : Token → Reading
  | .null => take .null stack
  | .bool b => take (.bool b) stack
  | .number n => take (.number n) stack
  | .text s => take (.text s) stack
  | .openArray => .open (.array [] :: stack) .firstItem
  | .openObject => .open (.object [] :: stack) .firstName
  | _ => .left (abandon stack none)

/-- Reads a name. -/
def name (stack : List Frame) : Token → Reading
  | .text s =>
    match stack with
    | .object members :: stack => .open (.member members s :: stack) .colon
    | _ => .left (abandon stack none)
  | _ => .left (abandon stack none)

/-- Reads a token. -/
def step (r : Reading) (t : Token) : Reading :=
  match r with
  | .left root => .left root
  | .complete root _ => .complete root true
  | .open stack expect =>
    match expect, t, stack with
    | .value, t, stack => value stack t
    | .firstItem, .closeArray, .array items :: stack
    | .afterItem, .closeArray, .array items :: stack => take (.array items.reverse true) stack
    | .firstItem, t, stack => value stack t
    | .afterItem, .comma, stack => .open stack .value
    | .firstName, .closeObject, .object members :: stack
    | .afterMember, .closeObject, .object members :: stack =>
      take (.object members.reverse true) stack
    | .firstName, t, stack | .name, t, stack => name stack t
    | .colon, .colon, stack => .open stack .value
    | .afterMember, .comma, stack => .open stack .name
    | _, _, stack => .left (abandon stack none)

end Reading

/-- A document: its value, and whether something that is not blank follows it. -/
structure Document where
  /-- the value, as far as it could be read -/
  root : Doc
  /-- whether something follows it -/
  followed : Bool

/-- The document that tokens make. -/
def Document.ofTokens (tokens : List Token) : Document :=
  match tokens.foldl Reading.step (.open [] .value) with
  | .open stack _ => ⟨Reading.abandon stack none, false⟩
  | .complete root followed => ⟨root, followed⟩
  | .left root => ⟨root, false⟩

/-- The document in a list of characters, `none` standing for ill-formed input. -/
def Document.read (input : List (Option Char)) : Document := ofTokens (scan input)

/-- The document in a sequence of bytes. -/
def Document.ofBytes (bytes : Bytes) : Document := read (Utf8.decode bytes)

end WebhookRelay.Json
