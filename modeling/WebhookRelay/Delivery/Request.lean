import WebhookRelay.Table
import WebhookRelay.Text.Lowercase
import WebhookRelay.Text.Utf8

/-!
# Requests that carry a delivery

Names of headers do not tell letter case apart; of two headers of one name the later one counts.
-/

namespace WebhookRelay.Delivery

/-- A request as it came in. -/
structure Request where
  /-- the headers, their names in lower case -/
  headers : Table String := ∅
  /-- the body -/
  body : Bytes := []

namespace Request

/-- The request with a further header. -/
def withHeader (r : Request) (name value : String) : Request :=
  { r with headers := r.headers.insert (Text.lower name) value }

/-- The request with further headers, in order. -/
def withHeaders (r : Request) (headers : List (String × String)) : Request :=
  headers.foldl (fun r h => r.withHeader h.1 h.2) r

/-- The value of a header. -/
def header? (r : Request) (name : String) : Option String := r.headers.get? (Text.lower name)

end Request

/-- The header that says what kind of event a delivery is. -/
def eventHeader : String := "x-github-event"

/-- The header that holds the signature of a delivery. -/
def signatureHeader : String := "x-hub-signature-256"

/-- The header that numbers a delivery. -/
def deliveryHeader : String := "x-github-delivery"

end WebhookRelay.Delivery
