import WebhookRelay.Delivery.Request
import WebhookRelay.Json.Value
import WebhookRelay.Text.Ascii

/-!
# Requests and responses of the server
-/

namespace WebhookRelay.Http

/-- A request to the server. -/
structure Request where
  method : String
  /-- the path as it was sent, with a query if there is one -/
  target : String
  /-- the headers in the order in which they were sent -/
  headers : List (String × String) := []
  body : Bytes := []

/-- A response of the server. -/
structure Response where
  status : Nat
  /-- the body, if it is JSON -/
  json : Option Json.Value := none

namespace Request

/-- The path, without a query or a fragment. -/
def path (r : Request) : List Char := r.target.toList.takeWhile fun c => c ≠ '?' && c ≠ '#'

/-- Whether a value is one that can be read as text: visible ASCII, blanks and tabs. -/
def legible (value : String) : Bool :=
  value.toList.all fun c => c = '\t' || (0x20 ≤ c.toNat && c.toNat < 0x7F)

/-- The first header of a name, if its value can be read as text. -/
def firstHeader? (r : Request) (name : String) : Option String :=
  match r.headers.find? fun h => Text.asciiLower h.1 = Text.asciiLower name with
  | some (_, value) => if legible value then some value else none
  | none => none

/-- The request as one that carries a delivery. Headers that cannot be read are left out. -/
def toDelivery (r : Request) : Delivery.Request :=
  ({ body := r.body : Delivery.Request }).withHeaders (r.headers.filter (legible ·.2))

end Request

end WebhookRelay.Http
