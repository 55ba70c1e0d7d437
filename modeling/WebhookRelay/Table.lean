/-!
# Tables: finite maps with text keys

A `Table α` is a list of entries in which no key occurs twice. Entries keep the order in which
their keys were first inserted; nothing in the relay depends on that order, and `Table.Same` says
when two tables differ in nothing else.

The two laws everything else rests on are `get?_insert` and `get?_erase`.
-/

namespace WebhookRelay

/-! ## Entries -/

namespace Entries

variable {α : Type}

/-- The value under `key`, if there is one. -/
def find? (key : String) : List (String × α) → Option α
  | [] => none
  | (k, v) :: rest => if k = key then some v else find? key rest

/-- Puts `value` under `key`: in place when the key is there, at the end otherwise. -/
def put (key : String) (value : α) : List (String × α) → List (String × α)
  | [] => [(key, value)]
  | (k, v) :: rest => if k = key then (k, value) :: rest else (k, v) :: put key value rest

/-- Takes out what is under `key`. -/
def drop (key : String) (entries : List (String × α)) : List (String × α) :=
  entries.filter fun e => e.1 ≠ key

theorem find?_put (key key' : String) (value : α) (entries : List (String × α)) :
    find? key' (put key value entries) =
      if key = key' then some value else find? key' entries := by
  induction entries with
  | nil => simp [put, find?]
  | cons e rest ih => grind [put, find?]

theorem find?_drop (key key' : String) (entries : List (String × α)) :
    find? key' (drop key entries) = if key = key' then none else find? key' entries := by
  induction entries with
  | nil => simp [drop, find?]
  | cons e rest ih => grind [drop, find?]

theorem keys_put (key : String) (value : α) (entries : List (String × α)) :
    (put key value entries).map Prod.fst =
      if key ∈ entries.map Prod.fst then entries.map Prod.fst
      else entries.map Prod.fst ++ [key] := by
  induction entries with
  | nil => simp [put]
  | cons e rest ih =>
    obtain ⟨k, v⟩ := e
    by_cases h : k = key
    · simp [put, h]
    · have h' : ¬ key = k := fun e => h e.symm
      simp only [put, h, if_false, List.map_cons, ih, List.mem_cons, h', false_or]
      split <;> simp_all

theorem nodup_keys_put {key : String} {value : α} {entries : List (String × α)}
    (h : (entries.map Prod.fst).Nodup) : ((put key value entries).map Prod.fst).Nodup := by
  rw [keys_put]
  split
  · exact h
  · next hk =>
    rw [List.nodup_append]
    refine ⟨h, by simp, ?_⟩
    intro a ha b hb
    obtain rfl := List.mem_singleton.mp hb
    exact fun e => hk (e ▸ ha)

theorem nodup_keys_drop {key : String} {entries : List (String × α)}
    (h : (entries.map Prod.fst).Nodup) : ((drop key entries).map Prod.fst).Nodup :=
  h.sublist (List.filter_sublist.map _)

end Entries

/-! ## Tables -/

/-- A finite map with text keys. -/
structure Table (α : Type) where
  /-- the entries, each key once -/
  entries : List (String × α)
  /-- no key occurs twice -/
  nodup : (entries.map Prod.fst).Nodup

namespace Table

variable {α β : Type}

@[ext] theorem ext {s t : Table α} (h : s.entries = t.entries) : s = t := by
  cases s; cases t; cases h; rfl

instance [DecidableEq α] : DecidableEq (Table α) := fun s t =>
  decidable_of_iff (s.entries = t.entries) ⟨Table.ext, fun h => h ▸ rfl⟩

/-- The table with no entry. -/
def empty : Table α := ⟨[], List.nodup_nil⟩

instance : EmptyCollection (Table α) := ⟨empty⟩

instance : Inhabited (Table α) := ⟨empty⟩

/-- The value under a key, if there is one. -/
def get? (t : Table α) (key : String) : Option α := Entries.find? key t.entries

/-- Puts a value under a key, replacing what was there. -/
def insert (t : Table α) (key : String) (value : α) : Table α :=
  ⟨Entries.put key value t.entries, Entries.nodup_keys_put t.nodup⟩

/-- Takes out what is under a key. -/
def erase (t : Table α) (key : String) : Table α :=
  ⟨Entries.drop key t.entries, Entries.nodup_keys_drop t.nodup⟩

/-- The keys, each once. -/
def keys (t : Table α) : List String := t.entries.map Prod.fst

/-- How many entries there are. -/
def size (t : Table α) : Nat := t.entries.length

/-- Whether there is no entry. -/
def isEmpty (t : Table α) : Bool := t.entries.isEmpty

/-- The table of a list of entries, in which a later entry replaces an earlier one. -/
def ofList (entries : List (String × α)) : Table α :=
  entries.foldl (fun t e => t.insert e.1 e.2) ∅

/-- Replaces the value under a key by a function of it, an absent value being `none`. -/
def alter (t : Table α) (key : String) (f : Option α → α) : Table α :=
  t.insert key (f (t.get? key))

/-- Two tables with the same entries, in whatever order. -/
def Same (s t : Table α) : Prop := s.entries.Perm t.entries

/-! ### What each operation does to a look-up -/

@[simp] theorem get?_empty (key : String) : (∅ : Table α).get? key = none := rfl

theorem get?_insert (t : Table α) (key key' : String) (value : α) :
    (t.insert key value).get? key' = if key = key' then some value else t.get? key' :=
  Entries.find?_put key key' value t.entries

@[simp] theorem get?_insert_self (t : Table α) (key : String) (value : α) :
    (t.insert key value).get? key = some value := by simp [get?_insert]

theorem get?_erase (t : Table α) (key key' : String) :
    (t.erase key).get? key' = if key = key' then none else t.get? key' :=
  Entries.find?_drop key key' t.entries

@[simp] theorem get?_erase_self (t : Table α) (key : String) : (t.erase key).get? key = none := by
  simp [get?_erase]

theorem get?_eq_some_iff {t : Table α} {key : String} {value : α} :
    t.get? key = some value ↔ (key, value) ∈ t.entries := by
  obtain ⟨entries, hn⟩ := t
  show Entries.find? key entries = some value ↔ (key, value) ∈ entries
  induction entries with
  | nil => simp [Entries.find?]
  | cons e rest ih =>
    obtain ⟨k, v⟩ := e
    simp only [List.map_cons, List.nodup_cons] at hn
    by_cases h : k = key
    · subst h
      have hv : (k, value) ∉ rest := fun hm => hn.1 (List.mem_map.mpr ⟨_, hm, rfl⟩)
      simp [Entries.find?, hv, eq_comm]
    · have h' : ¬ key = k := fun e => h e.symm
      simp [Entries.find?, h, h', ih hn.2]

theorem get?_eq_none_iff {t : Table α} {key : String} :
    t.get? key = none ↔ key ∉ t.keys := by
  obtain ⟨entries, hn⟩ := t
  show Entries.find? key entries = none ↔ key ∉ entries.map Prod.fst
  clear hn
  induction entries with
  | nil => simp [Entries.find?]
  | cons e rest ih =>
    obtain ⟨k, v⟩ := e
    by_cases h : k = key
    · simp [Entries.find?, h]
    · have h' : ¬ key = k := fun e => h e.symm
      simp [Entries.find?, h, h', ih]

end Table

end WebhookRelay
