import WebhookRelay.Json.Value
import WebhookRelay.Text.Hex

/-!
# JSON tokens

`scan` cuts the characters of a document into tokens. Input that is no token ends the list with
`Token.bad`, and nothing after it is looked at. A text token may hold what no text can be made
of, a lone surrogate or an ill-formed byte: it is still a token, `Token.text none`, because the
value it belongs to may be one that nobody reads. So is a number that is out of range.

The scanner is a machine that takes one character at a time, so a document is a fold over its
characters.
-/

namespace WebhookRelay.Json

/-- A token of JSON. -/
inductive Token where
  | openArray
  | closeArray
  | openObject
  | closeObject
  | comma
  | colon
  | null
  | bool (b : Bool)
  /-- a number; `none` if it is out of range -/
  | number (n : Option Number)
  /-- a text; `none` if no text can be made of it -/
  | text (s : Option String)
  /-- input that is no token -/
  | bad

/-! ## Numbers -/

/-- Where in a number the scanner is. -/
inductive Position where
  | minus
  | zero
  | whole
  | point
  | fraction
  | mark
  | markSign
  | exponent

/-- A number of which some characters have been read: its leading digits, as many as a word of 64
bits holds, and the power of ten they are multiplied by. -/
structure NumberScan where
  /-- where the scanner is -/
  position : Position
  /-- whether there was a minus sign -/
  negative : Bool := false
  /-- the leading digits -/
  digits : Nat := 0
  /-- whether there was a digit that did not fit in any more -/
  full : Bool := false
  /-- the power of ten, that of the exponent left out -/
  scale : Int := 0
  /-- whether the exponent has a minus sign -/
  down : Bool := false
  /-- the digits of the exponent -/
  power : Nat := 0

namespace NumberScan

/-- The number a digit stands for. -/
def digit? (c : Char) : Option Nat := if c.isDigit then some (c.toNat - '0'.toNat) else none

/-- What a character does to a number. -/
inductive Outcome where
  /-- it belongs to the number -/
  | more (n : NumberScan)
  /-- it does not, and the number was complete before it -/
  | over
  /-- it does not, and the number was not complete -/
  | wrong

/-- Whether a word of 64 bits holds the digits with one more. -/
def fits (n : NumberScan) (d : Nat) : Bool := !n.full && n.digits * 10 + d < UInt64.size

/-- Reads a digit before the point. One that does not fit in still counts as a place, and so do all
that follow it. -/
def addWhole (n : NumberScan) (d : Nat) : NumberScan :=
  if n.fits d then { n with position := .whole, digits := n.digits * 10 + d }
  else { n with position := .whole, full := true, scale := n.scale + 1 }

/-- Reads the point, behind which digits may fit in again. -/
def addPoint (n : NumberScan) : NumberScan := { n with position := .point, full := false }

/-- Reads a digit behind the point. One that does not fit in is lost, and so are all that follow
it. -/
def addPlace (n : NumberScan) (d : Nat) : NumberScan :=
  if n.fits d then
    { n with position := .fraction, digits := n.digits * 10 + d, scale := n.scale - 1 }
  else { n with position := .fraction, full := true }

/-- Reads a further character. -/
def step (n : NumberScan) (c : Char) : Outcome :=
  match n.position, digit? c with
  | .minus, some 0 => .more { n with position := .zero }
  | .minus, some d | .whole, some d => .more (n.addWhole d)
  | .minus, none => .wrong
  | .zero, some _ => .wrong
  | .point, some d | .fraction, some d => .more (n.addPlace d)
  | .point, none => .wrong
  | .mark, some d | .markSign, some d | .exponent, some d =>
    .more { n with position := .exponent, power := n.power * 10 + d }
  | .mark, none =>
    if c = '+' then .more { n with position := .markSign }
    else if c = '-' then .more { n with position := .markSign, down := true }
    else .wrong
  | .markSign, none => .wrong
  | .zero, none | .whole, none =>
    if c = '.' then .more n.addPoint
    else if c = 'e' || c = 'E' then .more { n with position := .mark }
    else .over
  | .fraction, none => if c = 'e' || c = 'E' then .more { n with position := .mark } else .over
  | .exponent, none => .over

/-- The number in double precision, unless it is out of range. -/
def real? (n : NumberScan) : Option Number :=
  let power : Int := if n.down then -(n.power : Int) else n.power
  (Double.ofDecimal? n.digits (n.scale + power)).map (.real n.negative)

/-- The token of the number, if it is complete. -/
def token? (n : NumberScan) : Option Token :=
  match n.position with
  | .zero | .whole =>
    some (.number (if n.full then n.real? else some (.ofDigits n.negative n.digits)))
  | .fraction | .exponent => some (.number n.real?)
  | _ => none

end NumberScan

/-! ## Texts -/

/-- Where in an escape the scanner is. -/
inductive Escape where
  /-- in none -/
  | none
  /-- behind a backslash; `high` is a high surrogate that was just read -/
  | begun (high : Option Nat)
  /-- among the four digits of a code unit, `left` of which are to come -/
  | unit (high : Option Nat) (left value : Nat)
  /-- behind a high surrogate, which only a low one may follow -/
  | paired (high : Nat)

/-- A text of which some characters have been read. -/
structure TextScan where
  /-- the characters, last first -/
  chars : List Char := []
  /-- whether a text can be made of what was read -/
  sound : Bool := true
  /-- where in an escape the scanner is -/
  escape : Escape := .none

namespace TextScan

/-- What a character does to a text. -/
inductive Outcome where
  /-- it belongs to the text -/
  | more (t : TextScan)
  /-- it ends the text, which is as given -/
  | over (t : TextScan)
  /-- it may not stand there -/
  | wrong

/-- The text with one more character. -/
def add (t : TextScan) (c : Char) : TextScan := { t with chars := c :: t.chars, escape := .none }

/-- The text, of which no text can be made any more. -/
def spoil (t : TextScan) : TextScan := { t with sound := false, escape := .none }

/-- Reads the character behind a backslash. -/
def escaped (t : TextScan) (high : Option Nat) (c : Char) : Outcome :=
  -- a high surrogate counts only if an escaped code unit follows it at once
  let t := if high.isSome && c ≠ 'u' then t.spoil else t
  match c with
  | '"' | '\\' | '/' => .more (t.add c)
  | 'b' => .more (t.add '\x08')
  | 'f' => .more (t.add '\x0c')
  | 'n' => .more (t.add '\n')
  | 'r' => .more (t.add '\r')
  | 't' => .more (t.add '\t')
  | 'u' => .more { t with escape := .unit high 4 0 }
  | _ => .wrong

/-- The text after a code unit was read in full. -/
def addUnit (t : TextScan) (high : Option Nat) (v : Nat) : TextScan :=
  match high with
  | some h =>
    if 0xDC00 ≤ v ∧ v ≤ 0xDFFF then
      t.add (Char.ofNat (0x10000 + (h - 0xD800) * 0x400 + (v - 0xDC00)))
    else t.spoil
  | none =>
    if 0xD800 ≤ v ∧ v ≤ 0xDBFF then { t with escape := .paired v }
    else if 0xDC00 ≤ v ∧ v ≤ 0xDFFF then t.spoil
    else t.add (Char.ofNat v)

/-- Reads a character outside an escape. -/
def plain (t : TextScan) : Option Char → Outcome
  | none => .more t.spoil
  | some '"' => .over t
  | some '\\' => .more { t with escape := .begun none }
  | some c => if c.toNat < 0x20 then .wrong else .more (t.add c)

/-- Reads a further character; `none` is ill-formed input. -/
def step (t : TextScan) (c : Option Char) : Outcome :=
  match t.escape, c with
  | .none, c => t.plain c
  | .paired high, some '\\' => .more { t with escape := .begun (some high) }
  | .paired _, c => t.spoil.plain c
  | .begun high, some c => t.escaped high c
  | .unit high left value, some c =>
    match Hex.value? c, left with
    -- two or more digits were to come, so this one is not the last
    | some d, left + 2 => .more { t with escape := .unit high (left + 1) (value * 16 + d) }
    | some d, _ => .more (t.addUnit high (value * 16 + d))
    | none, _ => .wrong
  | _, none => .wrong

/-- The token of a text that has been read in full. -/
def token (t : TextScan) : Token :=
  .text (if t.sound then some (String.ofList t.chars.reverse) else none)

end TextScan

/-! ## The scanner -/

/-- What the scanner is reading. -/
inductive Mode where
  /-- the space between tokens -/
  | between
  /-- a word of which the given characters are to come -/
  | word (left : List Char) (token : Token)
  | number (n : NumberScan)
  | text (t : TextScan)
  /-- nothing any more -/
  | stopped

/-- A scanner: the tokens it has found, last first, and what it is reading. -/
structure Scanner where
  /-- the tokens, last first -/
  done : List Token := []
  /-- what is being read -/
  mode : Mode := .between

namespace Scanner

/-- Gives up at input that is no token. -/
def stop (done : List Token) : Scanner := ⟨.bad :: done, .stopped⟩

/-- Reads a character between tokens. -/
def start (done : List Token) : Option Char → Scanner
  | some ' ' | some '\t' | some '\n' | some '\r' => ⟨done, .between⟩
  | some '[' => ⟨.openArray :: done, .between⟩
  | some ']' => ⟨.closeArray :: done, .between⟩
  | some '\x7b' => ⟨.openObject :: done, .between⟩
  | some '\x7d' => ⟨.closeObject :: done, .between⟩
  | some ',' => ⟨.comma :: done, .between⟩
  | some ':' => ⟨.colon :: done, .between⟩
  | some '"' => ⟨done, .text {}⟩
  | some 't' => ⟨done, .word ['r', 'u', 'e'] (.bool true)⟩
  | some 'f' => ⟨done, .word ['a', 'l', 's', 'e'] (.bool false)⟩
  | some 'n' => ⟨done, .word ['u', 'l', 'l'] .null⟩
  | some '-' => ⟨done, .number { position := .minus, negative := true }⟩
  | some c =>
    match NumberScan.digit? c with
    | some 0 => ⟨done, .number { position := .zero }⟩
    | some d => ⟨done, .number { position := .whole, digits := d }⟩
    | none => stop done
  | none => stop done

/-- Reads a character behind a number. -/
def afterNumber (done : List Token) (n : NumberScan) (c : Option Char) : Scanner :=
  match n.token? with
  | some t => start (t :: done) c
  | none => stop done

/-- Reads a character; `none` is ill-formed input. -/
def step (s : Scanner) (c : Option Char) : Scanner :=
  match s.mode with
  | .between => start s.done c
  | .stopped => s
  | .word [] token => start (token :: s.done) c
  | .word (l :: ls) token =>
    if c ≠ some l then stop s.done
    else
      match ls with
      | [] => ⟨token :: s.done, .between⟩
      | _ :: _ => ⟨s.done, .word ls token⟩
  | .number n =>
    match c with
    | none => afterNumber s.done n none
    | some ch =>
      match n.step ch with
      | .more n => ⟨s.done, .number n⟩
      | .over => afterNumber s.done n c
      | .wrong => stop s.done
  | .text t =>
    match t.step c with
    | .more t => ⟨s.done, .text t⟩
    | .over t => ⟨t.token :: s.done, .between⟩
    | .wrong => stop s.done

/-- The tokens once the input has ended. -/
def finish (s : Scanner) : List Token :=
  (match s.mode with
    | .between | .stopped => s.done
    | .number n =>
      match n.token? with
      | some t => t :: s.done
      | none => .bad :: s.done
    | .word .. | .text _ => .bad :: s.done).reverse

end Scanner

/-- The tokens of a document. -/
def scan (input : List (Option Char)) : List Token := (input.foldl Scanner.step {}).finish

end WebhookRelay.Json
