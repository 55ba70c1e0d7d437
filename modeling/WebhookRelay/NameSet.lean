/-!
# Sets of names

A `NameSet` is a strictly ascending list of texts, so two sets with the same members are equal
and the order in which members are visited is part of the value. Texts compare by code points.
-/

namespace WebhookRelay

/-! ## Ascending lists -/

namespace Ascending

/-- Puts a name at its place in an ascending list, unless it is there. -/
def put (name : String) : List String → List String
  | [] => [name]
  | x :: rest =>
    if name < x then name :: x :: rest
    else if name = x then x :: rest
    else x :: put name rest

theorem mem_put {name y : String} {l : List String} : y ∈ put name l ↔ y = name ∨ y ∈ l := by
  induction l with
  | nil => simp [put]
  | cons x rest ih =>
    simp only [put]
    split
    · simp
    · split
      · next h => subst h; simp
      · rw [List.mem_cons, ih, List.mem_cons, or_left_comm]

theorem pairwise_put {name : String} {l : List String} (h : l.Pairwise (· < ·)) :
    (put name l).Pairwise (· < ·) := by
  induction l with
  | nil => simp [put]
  | cons x rest ih =>
    obtain ⟨hx, hrest⟩ := List.pairwise_cons.mp h
    simp only [put]
    split
    · next hlt =>
      refine List.pairwise_cons.mpr ⟨fun y hy => ?_, h⟩
      rcases List.mem_cons.mp hy with rfl | hy
      · exact hlt
      · exact String.lt_trans hlt (hx y hy)
    · next hnlt =>
      split
      · exact h
      · next hne =>
        have hlt : x < name := String.not_le.mp fun hle =>
          hne (String.le_antisymm hle (String.not_lt.mp hnlt))
        refine List.pairwise_cons.mpr ⟨fun y hy => ?_, ih hrest⟩
        rcases mem_put.mp hy with rfl | hy
        · exact hlt
        · exact hx y hy

end Ascending

/-! ## Sets -/

/-- A finite set of names, kept in ascending order. -/
structure NameSet where
  /-- the members -/
  toList : List String
  /-- the members ascend strictly, so none is repeated -/
  ascending : toList.Pairwise (· < ·)

namespace NameSet

@[ext] theorem ext {s t : NameSet} (h : s.toList = t.toList) : s = t := by
  cases s; cases t; cases h; rfl

instance : DecidableEq NameSet := fun s t =>
  decidable_of_iff (s.toList = t.toList) ⟨NameSet.ext, fun h => h ▸ rfl⟩

/-- The set without members. -/
def empty : NameSet := ⟨[], List.Pairwise.nil⟩

instance : EmptyCollection NameSet := ⟨empty⟩

instance : Inhabited NameSet := ⟨empty⟩

instance : Membership String NameSet := ⟨fun s name => name ∈ s.toList⟩

instance (name : String) (s : NameSet) : Decidable (name ∈ s) :=
  inferInstanceAs (Decidable (name ∈ s.toList))

theorem mem_def {name : String} {s : NameSet} : name ∈ s ↔ name ∈ s.toList := Iff.rfl

/-- Adds a name. -/
def insert (s : NameSet) (name : String) : NameSet :=
  ⟨Ascending.put name s.toList, Ascending.pairwise_put s.ascending⟩

/-- The set of the names in a list. -/
def ofList (names : List String) : NameSet := names.foldl insert ∅

/-- The members of `s` that are not in `t`. -/
def diff (s t : NameSet) : NameSet :=
  ⟨s.toList.filter (· ∉ t.toList), s.ascending.sublist List.filter_sublist⟩

/-- Whether a set has no member. -/
def isEmpty (s : NameSet) : Bool := s.toList.isEmpty

@[simp] theorem mem_insert {s : NameSet} {name y : String} :
    y ∈ s.insert name ↔ y = name ∨ y ∈ s := Ascending.mem_put

@[simp] theorem not_mem_empty (name : String) : name ∉ (∅ : NameSet) := List.not_mem_nil

@[simp] theorem mem_diff {s t : NameSet} {name : String} :
    name ∈ s.diff t ↔ name ∈ s ∧ name ∉ t := by
  simp [mem_def, diff]

theorem mem_ofList {names : List String} {y : String} : y ∈ ofList names ↔ y ∈ names := by
  suffices h : ∀ s : NameSet, y ∈ names.foldl insert s ↔ y ∈ s ∨ y ∈ names by
    simpa [ofList] using h ∅
  induction names with
  | nil => simp
  | cons x rest ih => intro s; simp [ih, or_assoc, or_left_comm]

end NameSet

end WebhookRelay
