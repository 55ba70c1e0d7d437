import WebhookRelay.Hook
import WebhookRelay.Json.Decode
import WebhookRelay.Json.Print

/-!
# JSON forms

How services, hooks and messages are written in JSON (`toJson`) and read from it (`ofDoc`). Every
field is written; in reading, the fields that have a default may be left out.
-/

namespace WebhookRelay

open Json

/-- A table with values in JSON. -/
def Table.toJson {α : Type} (f : α → Value) (t : Table α) : Value :=
  .object (t.entries.map fun e => (e.1, f e.2))

/-! ## Services -/

namespace Watch

/-- The fields of a watch. -/
def fields : List (Json.Field Watch) :=
  [⟨"events", .defaulted, fun d w => do
    .ok { w with events := NameSet.ofList (← d.toList Doc.toText) }⟩]

/-- Reads a watch. -/
def ofDoc (d : Doc) : Except Fault Watch := record fields {} d

/-- Writes a watch. -/
def toJson (w : Watch) : Value := .object [("events", .texts w.events.toList)]

end Watch

namespace Room

/-- The fields of a room. -/
def fields : List (Json.Field Room) :=
  [⟨"repos", .defaulted, fun d r => do .ok { r with repos := ← d.toTable Watch.ofDoc }⟩]

/-- Reads a room. -/
def ofDoc (d : Doc) : Except Fault Room := record fields {} d

/-- Writes a room. -/
def toJson (r : Room) : Value := .object [("repos", r.repos.toJson Watch.toJson)]

end Room

namespace Service

/-- The fields that may be left out. -/
def optionalFields : List (Json.Field Service) :=
  [⟨"realm_id", .defaulted, fun d s => do .ok { s with realm := ← d.toText }⟩,
    ⟨"user_id", .defaulted, fun d s => do .ok { s with user := ← d.toText }⟩,
    ⟨"secret_token", .defaulted, fun d s => do .ok { s with secretToken := ← d.toText }⟩,
    ⟨"rooms", .defaulted, fun d s => do .ok { s with rooms := ← d.toTable Room.ofDoc }⟩]

/-- The name of a service. -/
def idField : Json.Field Service :=
  ⟨"id", .required, fun d s => do .ok { s with id := ← d.toText }⟩

/-- Where the provider reports events. -/
def callbackUrlField : Json.Field Service :=
  ⟨"callback_url", .required, fun d s => do .ok { s with callbackUrl := ← d.toText }⟩

/-- Reads a service. -/
def ofDoc (d : Doc) : Except Fault Service :=
  record (idField :: callbackUrlField :: optionalFields) ⟨"", "", "", "", "", ∅⟩ d

/-- Reads a service in a request to configure it, which may not choose the callback URL. -/
def ofRequest (d : Doc) : Except Fault Service :=
  record (idField :: optionalFields) ⟨"", "", "", "", "", ∅⟩ d

/-- Writes a service. -/
def toJson (s : Service) : Value :=
  .object [("id", .text s.id), ("callback_url", .text s.callbackUrl), ("realm_id", .text s.realm),
    ("user_id", .text s.user), ("secret_token", .text s.secretToken),
    ("rooms", s.rooms.toJson Room.toJson)]

end Service

/-! ## Hooks -/

namespace HookSpec

/-- The fields of a hook to be created. -/
def fields : List (Json.Field HookSpec) :=
  [⟨"name", .required, fun d s => do .ok { s with name := ← d.toText }⟩,
    ⟨"active", .required, fun d s => do .ok { s with active := ← d.toBool }⟩,
    ⟨"events", .required, fun d s => do .ok { s with events := ← d.toList Doc.toText }⟩,
    ⟨"config", .required, fun d s => do .ok { s with config := ← d.toTable Doc.toText }⟩]

/-- Reads a hook to be created. -/
def ofDoc (d : Doc) : Except Fault HookSpec := record fields ⟨"", false, [], ∅⟩ d

/-- Writes a hook to be created. -/
def toJson (s : HookSpec) : Value :=
  .object [("name", .text s.name), ("active", .bool s.active), ("events", .texts s.events),
    ("config", s.config.toJson .text)]

end HookSpec

namespace Hook

/-- The fields of a hook. At most `room` containers may be open in it at a time. -/
def fields (room : Nat) : List (Json.Field Hook) :=
  [⟨"id", .required, fun d h => do .ok { h with id := ← d.toUInt64 }⟩,
    ⟨"name", .defaulted, fun d h => do .ok { h with name := ← d.toText }⟩,
    ⟨"active", .defaulted, fun d h => do .ok { h with active := ← d.toBool }⟩,
    ⟨"events", .defaulted, fun d h => do .ok { h with events := ← d.toList Doc.toText }⟩,
    ⟨"config", .defaulted, fun d h => do
      .ok { h with config := ← d.toTable (Doc.keep (room - 2)) }⟩]

/-- Reads a hook in which at most `room` containers may be open at a time. -/
def ofDocWithin (room : Nat) (d : Doc) : Except Fault Hook := record (fields room) { id := 0 } d

/-- Reads a hook. -/
def ofDoc (d : Doc) : Except Fault Hook := ofDocWithin Doc.nesting d

/-- Reads a list of hooks. -/
def listOfDoc (d : Doc) : Except Fault (List Hook) := d.toList (ofDocWithin (Doc.nesting - 1))

/-- Writes a hook. -/
def toJson (h : Hook) : Value :=
  .object [("id", .number (.ofNat h.id.toNat)), ("name", .text h.name), ("active", .bool h.active),
    ("events", .texts h.events), ("config", h.config.toJson fun v => v)]

end Hook

/-! ## Messages -/

namespace Message

/-- The fields of a message. -/
def fields : List (Json.Field Message) :=
  [⟨"msgtype", .required, fun d m => do .ok { m with msgtype := ← d.toText }⟩,
    ⟨"body", .required, fun d m => do .ok { m with body := ← d.toText }⟩]

/-- Reads a message. -/
def ofDoc (d : Doc) : Except Fault Message := record fields ⟨"", ""⟩ d

/-- Writes a message. -/
def toJson (m : Message) : Value := .object [("msgtype", .text m.msgtype), ("body", .text m.body)]

end Message

end WebhookRelay
