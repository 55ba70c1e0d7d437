import Mathlib.Data.List.Nodup
import WebhookRelay.Json.Decode

/-!
# Documents of a shape

A document that was read to its end is whole, however deep: every container in it was closed, and every
value that should be there is (`Document.whole_ofBytes`, by induction on the tokens, with
`Reading.whole_step` for one of them).

A structure can be read from an object just when the object has the shape of it: all names can be read,
and each field is there at most once, with a value that can be read (`exists_record_iff`). What a field
is read as is kept to the end (`read_of_record`).
-/

namespace WebhookRelay.Json

/-! ## Whole documents -/

/-- Whether every container in a value was read to its end, and every value that should be there is. -/
inductive Doc.Whole : Doc → Prop where
  | null : Whole .null
  | bool (b : Bool) : Whole (.bool b)
  | number (n : Option Number) : Whole (.number n)
  | text (s : Option String) : Whole (.text s)
  | array {items : List Doc} (h : ∀ d ∈ items, d.Whole) : Whole (.array items true)
  | object {members : List (Option String × Doc)} (h : ∀ m ∈ members, m.2.Whole) :
      Whole (.object members true)

theorem Doc.Whole.intact {d : Doc} (h : d.Whole) : d.intact = true := by
  cases h <;> rfl

theorem Doc.Whole.skip {d : Doc} (h : d.Whole) : d.skip = .ok () := if_pos h.intact

/-- Whether all parts of a container so far are whole. -/
def Frame.Whole : Frame → Prop
  | .array items => ∀ d ∈ items, d.Whole
  | .object members | .member members _ => ∀ m ∈ members, m.2.Whole

namespace Reading

/-- Whether what was read is whole as long as the grammar holds, and no longer than that. -/
def Whole : Reading → Prop
  | .open stack _ => ∀ f ∈ stack, f.Whole
  | .complete root _ => root.Whole
  | .left root => root.intact = false

variable {stack : List Frame} {v : Doc}

theorem intact_abandon {last : Option Doc} (h : ∀ d ∈ last, d.intact = false) :
    (abandon stack last).intact = false := by
  induction stack generalizing last with
  | nil =>
    cases last with
    | none => rfl
    | some d => exact h d rfl
  | cons f rest ih =>
    cases f with
    | array | object | member =>
      apply ih
      rintro _ ⟨⟩
      rfl

theorem whole_abandoned : (Reading.left (abandon stack none)).Whole := intact_abandon nofun

theorem whole_take (hv : v.Whole) (hs : ∀ f ∈ stack, f.Whole) : (take v stack).Whole := by
  cases stack with
  | nil => exact hv
  | cons f rest =>
    obtain ⟨hf, hrest⟩ := List.forall_mem_cons.mp hs
    cases f with
    | array items => exact List.forall_mem_cons.mpr ⟨List.forall_mem_cons.mpr ⟨hv, hf⟩, hrest⟩
    | member members name =>
      exact List.forall_mem_cons.mpr ⟨List.forall_mem_cons.mpr ⟨hv, hf⟩, hrest⟩
    | object members => exact whole_abandoned

theorem whole_value (hs : ∀ f ∈ stack, f.Whole) (t : Token) : (value stack t).Whole := by
  cases t with
  | null => exact whole_take .null hs
  | bool b => exact whole_take (.bool b) hs
  | number n => exact whole_take (.number n) hs
  | text s => exact whole_take (.text s) hs
  | openArray | openObject => exact List.forall_mem_cons.mpr ⟨nofun, hs⟩
  | _ => exact whole_abandoned

theorem whole_name (hs : ∀ f ∈ stack, f.Whole) (t : Token) : (name stack t).Whole := by
  unfold name
  split
  · split
    · obtain ⟨hmembers, hrest⟩ := List.forall_mem_cons.mp hs
      exact List.forall_mem_cons.mpr ⟨hmembers, hrest⟩
    · exact whole_abandoned
  · exact whole_abandoned

theorem whole_closeArray {items : List Doc} (h : ∀ f ∈ Frame.array items :: stack, f.Whole) :
    (take (.array items.reverse true) stack).Whole := by
  obtain ⟨hitems, hrest⟩ := List.forall_mem_cons.mp h
  exact whole_take (.array fun d hd => hitems d (List.mem_reverse.mp hd)) hrest

theorem whole_closeObject {members : List (Option String × Doc)}
    (h : ∀ f ∈ Frame.object members :: stack, f.Whole) :
    (take (.object members.reverse true) stack).Whole := by
  obtain ⟨hmembers, hrest⟩ := List.forall_mem_cons.mp h
  exact whole_take (.object fun m hm => hmembers m (List.mem_reverse.mp hm)) hrest

/-- A token leaves what was read whole. -/
theorem whole_step {r : Reading} (h : r.Whole) (t : Token) : (r.step t).Whole := by
  cases r with
  | left root => exact h
  | complete root followed => exact h
  | «open» stack expect =>
    -- one case for each line of `step`
    simp only [step]
    split
    · exact whole_value h _
    · exact whole_closeArray h
    · exact whole_closeArray h
    · exact whole_value h _
    · exact h
    · exact whole_closeObject h
    · exact whole_closeObject h
    · exact whole_name h _
    · exact whole_name h _
    · exact h
    · exact h
    · exact whole_abandoned

theorem whole_foldl {r : Reading} (h : r.Whole) (tokens : List Token) :
    (tokens.foldl step r).Whole := by
  induction tokens generalizing r with
  | nil => exact h
  | cons t rest ih => exact ih (whole_step h t)

end Reading

/-- A document that was read to its end is whole. -/
theorem Document.whole_ofBytes {bytes : Bytes} (h : (ofBytes bytes).root.intact = true) :
    (ofBytes bytes).root.Whole := by
  have hread := Reading.whole_foldl (r := .open [] .value) nofun (scan (Utf8.decode bytes))
  rw [ofBytes, read, ofTokens] at h ⊢
  generalize (scan (Utf8.decode bytes)).foldl Reading.step (.open [] .value) = r at h hread ⊢
  cases r with
  | «open» stack expect =>
    have hnot : (Reading.abandon stack none).intact = false := Reading.intact_abandon nofun
    exact absurd (hnot.symm.trans h) Bool.false_ne_true
  | complete root followed => exact hread
  | left root => exact absurd (Eq.trans (Eq.symm hread) h) Bool.false_ne_true

/-! ## Texts -/

/-- Whether a value is a text. -/
def Doc.IsText (d : Doc) : Prop := ∃ t, d = .text (some t)

/-- A text can be read from what is one. -/
theorem Doc.exists_toText_iff {d : Doc} : (∃ t, d.toText = .ok t) ↔ d.IsText := by
  constructor
  · rintro ⟨t, ht⟩
    unfold toText at ht
    split at ht
    · exact ⟨_, rfl⟩
    · cases ht
  · rintro ⟨t, rfl⟩
    exact ⟨t, rfl⟩

/-! ## Members of a structure -/

section

variable {ρ : Type} {fields : List (Field ρ)} {f : Field ρ} {r r' : ρ} {seen seen' : List String}
  {name : String} {d : Doc} {members : List (Option String × Doc)}

theorem Record.member_of_none (hf : fields.find? (·.name = name) = none) (hd : d.Whole) :
    member fields (r, seen) (some name, d) = .ok (r, seen) := by
  simp only [member, Doc.nameOf, bind, Except.bind, hf, hd.skip]

theorem Record.member_of_mem (hf : fields.find? (·.name = name) = some f) (hn : name ∈ seen) :
    member fields (r, seen) (some name, d) = .error .shape := by
  simp only [member, Doc.nameOf, bind, Except.bind, hf, if_pos hn]

theorem Record.member_of_not_mem (hf : fields.find? (·.name = name) = some f) (hn : name ∉ seen) :
    member fields (r, seen) (some name, d) = (f.read d r).map (·, name :: seen) := by
  simp only [member, Doc.nameOf, bind, Except.bind, hf, if_neg hn]
  rcases f.read d r with e | r'
  · rfl
  · rfl

/-! ### What can be read -/

/-- The names of a shape that an object gives, as often as it gives them. -/
def given (shape : List (String × (Doc → Prop))) (members : List (Option String × Doc)) :
    List String :=
  (members.filterMap (·.1)).filter (· ∈ shape.map (·.1))

/-- Whether an object has a shape: all its names can be read, and each name of the shape is there at
most once, with a value that fits. -/
structure Shaped (shape : List (String × (Doc → Prop))) (members : List (Option String × Doc)) :
    Prop where
  named : ∀ m ∈ members, m.1.isSome = true
  once : (given shape members).Nodup
  fits : ∀ p ∈ shape, ∀ d, (some p.1, d) ∈ members → p.2 d

/-- Whether a shape says what the fields of a structure are, none of which need be there, and what
they can be read from. -/
structure Describes (shape : List (String × (Doc → Prop))) (fields : List (Field ρ)) : Prop where
  names : shape.map (·.1) = fields.map (·.name)
  absence : ∀ f ∈ fields, f.absence ≠ .required
  reads : ∀ p ∈ shape, ∃ f, fields.find? (·.name = p.1) = some f ∧
    ∀ d r, d.Whole → ((∃ r', f.read d r = .ok r') ↔ p.2 d)

variable {shape : List (String × (Doc → Prop))}

theorem given_cons_of_not_mem (h : name ∉ shape.map (·.1)) :
    given shape ((some name, d) :: members) = given shape members :=
  List.filter_cons_of_neg (by simpa using h)

theorem given_cons_of_mem (h : name ∈ shape.map (·.1)) :
    given shape ((some name, d) :: members) = name :: given shape members :=
  List.filter_cons_of_pos (by simpa using h)

/-- What is no field is not in the shape, and what is a field is there with what it can be read from. -/
theorem Describes.not_mem (h : Describes shape fields)
    (hf : fields.find? (·.name = name) = none) : name ∉ shape.map (·.1) := by
  rw [h.names]
  intro hm
  obtain ⟨g, hg, hname⟩ := List.mem_map.mp hm
  exact List.find?_eq_none.mp hf g hg (decide_eq_true hname)

theorem Describes.mem (h : Describes shape fields)
    (hf : fields.find? (·.name = name) = some f) : name ∈ shape.map (·.1) := by
  rw [h.names]
  exact List.mem_map.mpr ⟨f, List.mem_of_find?_eq_some hf, by simpa using List.find?_some hf⟩

theorem Describes.reads_iff (h : Describes shape fields)
    (hf : fields.find? (·.name = name) = some f) (hd : d.Whole) (r : ρ) :
    (∃ r', f.read d r = .ok r') ↔ ∀ p ∈ shape, p.1 = name → p.2 d := by
  constructor
  · intro hread p hp hname
    obtain ⟨g, hg, hreads⟩ := h.reads p hp
    obtain rfl : f = g := Option.some.inj (by rw [← hf, ← hg, hname])
    exact (hreads d r hd).mp hread
  · intro hfits
    obtain ⟨p, hp, hname⟩ := List.mem_map.mp (h.mem hf)
    obtain ⟨g, hg, hreads⟩ := h.reads p hp
    obtain rfl : f = g := Option.some.inj (by rw [← hf, ← hg, hname])
    exact (hreads d r hd).mpr (hfits p hp hname)

/-- The members of an object fit just when the first one does and the others do. -/
theorem forall_fits_cons_iff : (∀ p ∈ shape, ∀ d', (some p.1, d') ∈ (some name, d) :: members → p.2 d') ↔
    (∀ p ∈ shape, p.1 = name → p.2 d) ∧ ∀ p ∈ shape, ∀ d', (some p.1, d') ∈ members → p.2 d' := by
  constructor
  · intro h
    constructor
    · rintro p hp rfl
      exact h p hp d List.mem_cons_self
    · intro p hp d' hd
      exact h p hp d' (List.mem_cons_of_mem _ hd)
  · rintro ⟨hfirst, hothers⟩ p hp d' hm
    cases List.mem_cons.mp hm with
    | inl heq =>
      cases heq
      exact hfirst p hp rfl
    | inr hrest => exact hothers p hp d' hrest

/-- An object is read to its end just when its members fit and no field is there again. -/
theorem exists_foldlM_member_iff (h : Describes shape fields) (hw : ∀ m ∈ members, m.2.Whole)
    (hseen : seen.Nodup) :
    (∃ s, members.foldlM (Record.member fields) (r, seen) = .ok s) ↔
      (∀ m ∈ members, m.1.isSome = true) ∧ (given shape members ++ seen).Nodup ∧
        ∀ p ∈ shape, ∀ d, (some p.1, d) ∈ members → p.2 d := by
  induction members generalizing r seen with
  | nil => exact iff_of_true ⟨_, rfl⟩ ⟨nofun, hseen, nofun⟩
  | cons m rest ih =>
    obtain ⟨hd, hrest⟩ := List.forall_mem_cons.mp hw
    obtain ⟨_ | name, d⟩ := m
    · -- the name cannot be read
      refine iff_of_false nofun ?_
      rintro ⟨hnamed, -⟩
      exact absurd (hnamed _ List.mem_cons_self) Bool.false_ne_true
    rw [List.foldlM_cons, List.forall_mem_cons, forall_fits_cons_iff]
    rcases hf : fields.find? (·.name = name) with _ | f
    · have hnot := h.not_mem hf
      have hnone : ∀ p ∈ shape, p.1 = name → p.2 d := fun p hp hname =>
        absurd (List.mem_map.mpr ⟨p, hp, hname⟩) hnot
      rw [Record.member_of_none hf hd, given_cons_of_not_mem hnot, and_iff_right hnone,
        and_iff_right Option.isSome_some]
      exact ih hrest hseen
    · rw [given_cons_of_mem (h.mem hf), ← h.reads_iff hf hd r, and_iff_right Option.isSome_some]
      by_cases hn : name ∈ seen
      · rw [Record.member_of_mem hf hn]
        refine iff_of_false nofun ?_
        rintro ⟨-, hnodup, -⟩
        exact (List.nodup_cons.mp hnodup).1 (List.mem_append_right _ hn)
      · rw [Record.member_of_not_mem hf hn, List.cons_append, ← List.nodup_middle]
        rcases f.read d r with e | r'
        · refine iff_of_false nofun ?_
          rintro ⟨-, -, ⟨r', hr⟩, -⟩
          cases hr
        · rw [and_iff_right (⟨r', rfl⟩ : ∃ x, Except.ok r' = Except.ok x)]
          exact ih hrest (List.nodup_cons.mpr ⟨hn, hseen⟩)

theorem record_object (h : ∀ f ∈ fields, f.absence ≠ .required) (start : ρ) :
    record fields start (.object members true) =
      (members.foldlM (Record.member fields) (start, [])).map (·.1) := by
  rw [record]
  rcases members.foldlM (Record.member fields) (start, []) with e | ⟨r, seen⟩
  · rfl
  · have hnone : (fields.any fun f => f.absence = .required && f.name ∉ seen) = false := by
      rw [List.any_eq_false]
      intro f hf
      simp [h f hf]
    simp only [bind, Except.bind, Bool.not_true, hnone]
    rfl

theorem exists_map_iff {ε α β : Type} {g : α → β} {x : Except ε α} :
    (∃ b, x.map g = .ok b) ↔ ∃ a, x = .ok a := by
  cases x with
  | error e => exact iff_of_false nofun nofun
  | ok a => exact iff_of_true ⟨g a, rfl⟩ ⟨a, rfl⟩

/-- A structure can be read from an object just when the object has the shape of it. -/
theorem exists_record_iff (h : Describes shape fields) (hw : ∀ m ∈ members, m.2.Whole) (start : ρ) :
    (∃ r, record fields start (.object members true) = .ok r) ↔ Shaped shape members := by
  rw [record_object h.absence, exists_map_iff, exists_foldlM_member_iff h hw List.nodup_nil,
    List.append_nil]
  constructor
  · rintro ⟨hnamed, honce, hfits⟩
    exact ⟨hnamed, honce, hfits⟩
  · rintro ⟨hnamed, honce, hfits⟩
    exact ⟨hnamed, honce, hfits⟩

/-! ### What is kept -/

/-- A member that is taken in is passed over, or it is a field that was not there before. -/
theorem Record.member_cases {m : Option String × Doc}
    (h : member fields (r, seen) m = .ok (r', seen')) : ∃ name, m.1 = some name ∧
      ((fields.find? (·.name = name) = none ∧ r' = r ∧ seen' = seen) ∨
        ∃ f, fields.find? (·.name = name) = some f ∧ name ∉ seen ∧ f.read m.2 r = .ok r' ∧
          seen' = name :: seen) := by
  obtain ⟨_ | name, d⟩ := m
  · cases h
  refine ⟨name, rfl, ?_⟩
  obtain ⟨_, ⟨⟩, h⟩ := bind_eq_ok_iff.mp h
  split at h
  · next hf =>
    obtain ⟨_, -, h⟩ := bind_eq_ok_iff.mp h
    cases h
    exact .inl ⟨hf, rfl, rfl⟩
  · next f hf =>
    split at h
    · cases h
    · next hn =>
      obtain ⟨r₁, hread, h⟩ := bind_eq_ok_iff.mp h
      cases h
      exact .inr ⟨f, hf, hn, hread, rfl⟩

variable {γ : Type} {observe : ρ → γ}

/-- A field that was there is not read again. -/
theorem observe_of_foldlM
    (hothers : ∀ g ∈ fields, g.name ≠ name → ∀ d r r', g.read d r = .ok r' → observe r' = observe r)
    (hn : name ∈ seen) (h : members.foldlM (Record.member fields) (r, seen) = .ok (r', seen')) :
    observe r' = observe r := by
  induction members generalizing r seen with
  | nil =>
    cases h
    rfl
  | cons m rest ih =>
    rw [List.foldlM_cons] at h
    obtain ⟨⟨r₁, seen₁⟩, hm, hrest⟩ := bind_eq_ok_iff.mp h
    obtain ⟨other, -, ⟨-, rfl, rfl⟩ | ⟨g, hg, hother, hread, rfl⟩⟩ := Record.member_cases hm
    · exact ih hn hrest
    · have hname : g.name = other := by simpa using List.find?_some hg
      have hne : g.name ≠ name := by
        rintro rfl
        exact hother (hname ▸ hn)
      rw [ih (List.mem_cons_of_mem _ hn) hrest]
      exact hothers g (List.mem_of_find?_eq_some hg) hne _ _ _ hread

/-- What a field is read as is kept to the end. -/
theorem read_of_foldlM
    (hothers : ∀ g ∈ fields, g.name ≠ name → ∀ d r r', g.read d r = .ok r' → observe r' = observe r)
    (hf : fields.find? (·.name = name) = some f) (hm : (some name, d) ∈ members)
    (h : members.foldlM (Record.member fields) (r, seen) = .ok (r', seen')) :
    ∃ r₀ r₁, f.read d r₀ = .ok r₁ ∧ observe r' = observe r₁ := by
  induction members generalizing r seen with
  | nil => cases hm
  | cons m rest ih =>
    rw [List.foldlM_cons] at h
    obtain ⟨⟨r₁, seen₁⟩, hstep, hrest⟩ := bind_eq_ok_iff.mp h
    cases List.mem_cons.mp hm with
    | inl heq =>
      subst heq
      obtain ⟨_, ⟨⟩, ⟨hnone, -⟩ | ⟨g, hg, -, hread, rfl⟩⟩ := Record.member_cases hstep
      · cases hf.symm.trans hnone
      · obtain rfl : f = g := Option.some.inj (hf.symm.trans hg)
        exact ⟨r, r₁, hread, observe_of_foldlM hothers List.mem_cons_self hrest⟩
    | inr hlater => exact ih hlater hrest

/-- What a field is read as in an object is what the structure holds in the end. -/
theorem read_of_record
    (hothers : ∀ g ∈ fields, g.name ≠ name → ∀ d r r', g.read d r = .ok r' → observe r' = observe r)
    (hf : fields.find? (·.name = name) = some f) (hm : (some name, d) ∈ members) {start : ρ}
    (h : record fields start (.object members true) = .ok r') :
    ∃ r₀ r₁, f.read d r₀ = .ok r₁ ∧ observe r' = observe r₁ := by
  obtain ⟨⟨r, seen⟩, hfold, hend⟩ := bind_eq_ok_iff.mp h
  simp only [Bool.not_true, Bool.false_eq_true, if_false] at hend
  split at hend
  · cases hend
  · cases hend
    exact read_of_foldlM hothers hf hm hfold

end

/-! ## Arrays -/

section

variable {α : Type} {f : Doc → Except Fault α} {d : Doc} {items : List Doc} {values : List α}

/-- The items of an array can be read just when each of them can be. -/
theorem exists_mapM_iff :
    (∃ values, items.mapM f = .ok values) ↔ ∀ d ∈ items, ∃ v, f d = .ok v := by
  induction items with
  | nil => exact iff_of_true ⟨[], rfl⟩ nofun
  | cons d rest ih =>
    rw [List.mapM_cons, List.forall_mem_cons, ← ih]
    rcases f d with e | v
    · exact iff_of_false nofun nofun
    · rw [and_iff_right (⟨v, rfl⟩ : ∃ w, Except.ok v = Except.ok w)]
      exact exists_map_iff

theorem mem_of_mapM {v : α} (h : items.mapM f = .ok values) (hd : d ∈ items) (hv : f d = .ok v) :
    v ∈ values := by
  induction items generalizing values with
  | nil => cases hd
  | cons first rest ih =>
    rw [List.mapM_cons] at h
    obtain ⟨w, hfirst, h⟩ := bind_eq_ok_iff.mp h
    obtain ⟨ws, hrest, h⟩ := bind_eq_ok_iff.mp h
    cases h
    cases List.mem_cons.mp hd with
    | inl heq =>
      subst heq
      obtain rfl : v = w := Except.ok.inj (hv.symm.trans hfirst)
      exact List.mem_cons_self
    | inr hmem => exact List.mem_cons_of_mem _ (ih hrest hmem)

end

end WebhookRelay.Json
