import WebhookRelay.Url.Domain.Label
import WebhookRelay.Url.Domain.Mapping
import WebhookRelay.Url.Punycode

/-!
# Domains in ASCII

A domain is kept in ASCII: a label that is not ASCII is written in Punycode behind `xn--`. `toAscii?`
brings a domain there from any way of writing it. A label may have been written in Punycode already
and is then held to the same rules.
-/

namespace WebhookRelay.Url.Domain

open Text

/-- What stands before a label in Punycode. -/
def mark : List Char := ['x', 'n', '-', '-']

/-- How many characters a label may have that is to be written in Punycode. -/
def longestLabel : Nat := 1000

/-- How many characters of Punycode a label may have. -/
def longestCode : Nat := 2000

/-- The label that Punycode stands for. It is one that has to be written in Punycode, and in its
normal form. -/
def decoded? (code : List Char) : Option (List Char) :=
  if code.isEmpty || code.getLast? = some '-' || longestCode < code.length || !code.all isAscii then
    none
  else (Punycode.decode? code).filter fun label => normal label = some label

/-- The label that a label in normal form stands for, which may be in Punycode. -/
def plainLabel? (label : List Char) : Option (List Char) :=
  match dropStart? mark label with
  | some code => decoded? code
  | none => if label.all isAscii || label.length ≤ longestLabel then some label else none

/-- A label in ASCII. -/
def asciiLabel (label : List Char) : List Char :=
  if label.all isAscii then label else mark ++ Punycode.encode label

/-- A domain in ASCII; none if it is no domain. -/
def toAscii? (domain : List Char) : Option (List Char) := do
  let text ← normal domain
  let labels ← (pieces '.' text).mapM plainLabel?
  if labels.all sound && (!hasLeftward labels || labels.all upright) then
    some (glue '.' (labels.map asciiLabel))
  else none

end WebhookRelay.Url.Domain
