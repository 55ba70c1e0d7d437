/-!
# Blanks

`blank` is the property `White_Space` of Unicode. `trim` takes blanks off both ends of a text.
-/

namespace WebhookRelay.Text

/-- Whether a character is white space. -/
def blank (c : Char) : Bool :=
  let v := c.toNat
  (0x09 ≤ v && v ≤ 0x0D) || v = 0x20 || v = 0x85 || v = 0xA0 || v = 0x1680 ||
    (0x2000 ≤ v && v ≤ 0x200A) || v = 0x2028 || v = 0x2029 || v = 0x202F || v = 0x205F ||
    v = 0x3000

/-- A text without the characters of a kind at its end. -/
def dropEndWhile (p : Char → Bool) (cs : List Char) : List Char :=
  (cs.reverse.dropWhile p).reverse

/-- A text without the blanks at its ends. -/
def trim (cs : List Char) : List Char := dropEndWhile blank (cs.dropWhile blank)

end WebhookRelay.Text
