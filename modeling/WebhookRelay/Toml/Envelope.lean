import WebhookRelay.Toml.Number

/-!
# Dates and times in envelopes

A table may be the envelope of a date or time: its first key is then `momentKey`, and the value there
a text that spells the date or time. `Value.unwrap` puts what is in envelopes in their place,
wherever in a value they are.
-/

namespace WebhookRelay.Toml

/-- The key that makes a table an envelope, if it is the first one. -/
def momentKey : String := "$__toml_private_datetime"

/-- What an envelope with the given value under its key holds. -/
def Value.enclosed : Value → Option Value
  | .text s => (Moment.ofText? s).map .moment
  | _ => none

mutual

/-- A value in which dates and times stand in place of their envelopes; none if there is an envelope
without a date or time. The other entries of an envelope are not looked at. -/
def Value.unwrap : Value → Option Value
  | .array items => (unwrapItems items).map .array
  | .table ((key, v) :: rest) =>
    if key = momentKey then v.enclosed
    else do
      let first ← v.unwrap
      let others ← unwrapEntries rest
      return .table ((key, first) :: others)
  | v => some v

/-- The items of a list, unwrapped. -/
def unwrapItems : List Value → Option (List Value)
  | [] => some []
  | v :: rest => do return (← v.unwrap) :: (← unwrapItems rest)

/-- The entries of a table that is no envelope, unwrapped. -/
def unwrapEntries : List (String × Value) → Option (List (String × Value))
  | [] => some []
  | (key, v) :: rest => do return (key, ← v.unwrap) :: (← unwrapEntries rest)

end

end WebhookRelay.Toml
