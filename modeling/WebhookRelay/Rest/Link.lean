import WebhookRelay.Text.Blank
import WebhookRelay.Text.Split

/-!
# Links between pages

An answer that is one page of several names the next one in a header of links: targets in angle
brackets, each with parameters behind semicolons, and commas between links.
-/

namespace WebhookRelay.Rest

open Text

/-- The parameter of a link to the next page. -/
def nextRel : List Char := "rel=\"next\"".toList

/-- The target of a link, if it leads to the next page. -/
def nextTarget (link : List Char) : Option (List Char) :=
  match cutAtFirst ';' link with
  | none => none
  | some (target, parameters) =>
    if (pieces ';' parameters).any fun p => trim p = nextRel then
      match trim target with
      | '<' :: rest => if rest.getLast? = some '>' then some rest.dropLast else none
      | _ => none
    else none

/-- The target of the first link to a next page. -/
def nextLink (links : List Char) : Option (List Char) := (pieces ',' links).findSome? nextTarget

end WebhookRelay.Rest
