import WebhookRelay.Text.Compose
import WebhookRelay.Url.Domain.MappingTables

/-!
# Normal forms of domains

`normal` brings a domain into the one form that stands for all ways of writing it: small letters,
plain characters in place of wide, narrow or ornamental ones, and composed characters. Some
characters vanish, and some may not stand in a domain at all.
-/

namespace WebhookRelay.Url.Domain

open Text

/-- The characters that stand for a character in a domain; none if it may not stand there. -/
def mapped (c : Char) : Option (List Char) :=
  if c.toNat < 0x80 then some [c.toLower]
  else
    match replacements.of? c with
    | some cs => some cs
    | none => if vanishing.holds c then some [] else if forbidden.holds c then none else some [c]

/-- A domain in its normal form; none if a character may not stand there. -/
def normal (domain : List Char) : Option (List Char) :=
  (domain.mapM mapped).map fun css => composed css.flatten

end WebhookRelay.Url.Domain
