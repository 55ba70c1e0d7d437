import WebhookRelay.Text.Ascii
import WebhookRelay.Text.Split

/-!
# Media types

A media type is `type/subtype`, both of them tokens, with parameters behind semicolons. What counts
here is whether a body is declared to be JSON: `application/json`, or a subtype of `application`
that ends in `+json`. The declaration must be well-formed to its end.
-/

namespace WebhookRelay.Http.MediaType

/-- The characters of a token. -/
def tokenChar (c : Char) : Bool :=
  c.isAlphanum || "!#$%&'*+-.^_\x60|~".toList.contains c

/-- The characters that may stand between quotes. -/
def quotableChar (c : Char) : Bool := 0x20 ≤ c.toNat && c.toNat ≠ 0x7F

/-- Where in the parameters a reader is. -/
inductive Position where
  /-- before a name -/
  | beforeName
  /-- in a name -/
  | name
  /-- before a value -/
  | beforeValue
  /-- in a value without quotes -/
  | value
  /-- behind an opening quote -/
  | opened
  /-- between quotes -/
  | quoted
  /-- behind a closing quote -/
  | closed

/-- Reads a character of the parameters. -/
def Position.step : Position → Char → Option Position
  | .beforeName, c =>
    if c = ' ' then some .beforeName else if tokenChar c then some .name else none
  | .name, c => if c = '=' then some .beforeValue else if tokenChar c then some .name else none
  | .beforeValue, c =>
    if c = '"' then some .opened else if tokenChar c then some .value else none
  | .value, c => if c = ';' then some .beforeName else if tokenChar c then some .value else none
  | .opened, c => if quotableChar c then some .quoted else none
  | .quoted, c => if c = '"' then some .closed else if quotableChar c then some .quoted else none
  | .closed, c =>
    if c = ';' then some .beforeName else if c = ' ' then some .closed else none

/-- Whether the parameters may end here. -/
def Position.final : Position → Bool
  | .name | .opened | .quoted => false
  | _ => true

/-- Whether parameters, which stand behind a first semicolon, are well-formed. -/
def parametersOk (cs : List Char) : Bool :=
  match cs.foldlM Position.step .beforeName with
  | some p => p.final
  | none => false

/-- The part of a subtype before its last plus that does not begin it, and the part behind it. -/
def cutSuffix (subtype : List Char) : List Char × Option (List Char) :=
  match Text.cutAtFirst '+' (subtype.drop 1).reverse with
  | some (after, before) => (subtype.take 1 ++ before.reverse, some after.reverse)
  | none => (subtype, none)

/-- Whether a declaration says that a body is JSON. -/
def isJson (declared : String) : Bool :=
  match Text.cutAtFirst '/' (Text.asciiLower declared).toList with
  | none => false
  | some (type, rest) =>
    let subtype := rest.takeWhile (· ≠ ';')
    let (base, suffix) := cutSuffix subtype
    type = "application".toList && subtype.all tokenChar && !subtype.isEmpty &&
      (base = "json".toList || suffix = some "json".toList) &&
      parametersOk ((rest.dropWhile (· ≠ ';')).drop 1)

end WebhookRelay.Http.MediaType
