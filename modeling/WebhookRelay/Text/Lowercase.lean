import WebhookRelay.Text.CaseTables

/-!
# Lower case

Names of headers are compared in lower case, by the full mapping of Unicode: one character becomes
one, save the dotted capital I, which becomes two, and the capital sigma, which has a form of its
own at the end of a word.
-/

namespace WebhookRelay.Text

namespace Case

/-- Whether the first character that case rules do not look past is cased. -/
def meetsCased (cs : List Char) : Bool := (cs.dropWhile ignorable.holds).head?.any cased.holds

/-- One character in lower case, whatever stands around it. -/
def lowerChar (c : Char) : List Char :=
  if c.toNat < 0x80 then [c.toLower] else (lowered.of? c).getD [c]

/-- Lowers a text from left to right; `before` is what has been read, last first. -/
def lowerFrom (before : List Char) : List Char → List Char
  | [] => []
  | c :: rest =>
    -- at the end of a word a sigma has letters before it and none after it
    (if c = 'Σ' then [if meetsCased before && !meetsCased rest then 'ς' else 'σ']
      else lowerChar c) ++ lowerFrom (c :: before) rest

end Case

/-- A text in lower case. -/
def lower (s : String) : String := String.ofList (Case.lowerFrom [] s.toList)

end WebhookRelay.Text
