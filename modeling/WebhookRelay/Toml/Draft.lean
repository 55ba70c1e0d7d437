import WebhookRelay.Table
import WebhookRelay.Toml.Text
import WebhookRelay.Toml.Value

/-!
# Tables while they are written

A settings file fills its tables bit by bit: by headers, by elements of lists of tables, and by keys
with dots. What may still be added to a table depends on how it came to be there (`Origin`), which a
`Draft` remembers and a finished value does not.
-/

namespace WebhookRelay.Toml

/-- How a table came to be there. -/
inductive Origin where
  /-- it was written, under a header or as a value -/
  | written
  /-- by a header below it; its own header may still come -/
  | implied
  /-- by a key with dots -/
  | dotted
  deriving DecidableEq, Repr

/-- What stands under a key while the file is being read. -/
inductive Draft where
  /-- a value, to which nothing can be added -/
  | value (v : Value)
  /-- a table -/
  | table (origin : Origin) (entries : List (String × Draft))
  /-- a list of tables, the last of which comes first -/
  | tables (newestFirst : List (List (String × Draft)))

namespace Draft

/-- Entries of a table that is being written. -/
abbrev Content := List (String × Draft)

/-- Changes the table that a path leads to, given how it came to be there; tables that are missing
on the way are made. A path of keys with dots does not enter a table that was written; no path
enters a value. In a list of tables the last one is meant. -/
def change (dotted : Bool) (f : Origin → Content → Option Content) :
    List String → Origin → Content → Option Content
  | [], origin, content => f origin content
  | key :: path, _, content =>
    let put (d : Draft) := Entries.put key d content
    match Entries.find? key content with
    | none =>
      let origin := if dotted then Origin.dotted else .implied
      (change dotted f path origin []).map fun inner => put (.table origin inner)
    | some (.table origin inner) =>
      if dotted && origin = .written then none
      else (change dotted f path origin inner).map fun inner => put (.table origin inner)
    | some (.tables (newest :: older)) =>
      (change dotted f path .written newest).map fun inner => put (.tables (inner :: older))
    | some (.tables []) => none
    | some (.value _) => none

/-- Puts a value under a new key of a table that a path with dots leads to. The table is the one
that is being written or one that such keys have made. -/
def addValue (path : Path) (v : Value) : Origin → Content → Option Content :=
  change true (fun origin content =>
    -- keys with dots add only to what such keys have made, and single keys add to nothing of the kind
    if decide (origin = .dotted) = path.above.isEmpty then none
    else
      match Entries.find? path.last content with
      | none => some (content ++ [(path.last, .value v)])
      | some _ => none) path.above

/-- Begins a table under a header. It may be there already if only headers below it have come, and
then takes its place after all that is there. -/
def beginTable (path : Path) : Content → Option Content :=
  change false (fun _ content =>
    match Entries.find? path.last content with
    | none => some (content ++ [(path.last, .table .written [])])
    | some (.table .implied inner) =>
      some (Entries.drop path.last content ++ [(path.last, .table .written inner)])
    | some _ => none) path.above .written

/-- Begins a new element of a list of tables. -/
def beginElement (path : Path) : Content → Option Content :=
  change false (fun _ content =>
    match Entries.find? path.last content with
    | none => some (content ++ [(path.last, .tables [[]])])
    | some (.tables ts) => some (Entries.put path.last (.tables ([] :: ts)) content)
    | some _ => none) path.above .written

/-! ## Finished tables -/

mutual

/-- The value that a draft has become. -/
def finish : Draft → Value
  | value v => v
  | table _ entries => .table (finishEntries entries)
  | tables ts => .array (finishTables ts).reverse

/-- The entries of a table that has been written. -/
def finishEntries : List (String × Draft) → List (String × Value)
  | [] => []
  | (key, d) :: rest => (key, d.finish) :: finishEntries rest

/-- The tables of a list that has been written. -/
def finishTables : List (List (String × Draft)) → List Value
  | [] => []
  | t :: rest => .table (finishEntries t) :: finishTables rest

end

/-- The entries of a table that is written as a value, from its keys and values in order. -/
def ofInline (items : List (Path × Value)) : Option (List (String × Value)) :=
  (items.foldlM (fun content item => addValue item.1 item.2 .written content) []).map finishEntries

end Draft

end WebhookRelay.Toml
