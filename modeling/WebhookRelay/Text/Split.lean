/-!
# Cutting text at a separator

`pieces sep` cuts a list of characters at every `sep`, and `glue sep` puts pieces back together
with `sep` between them. `glue_pieces` says that nothing is lost, `pieces_glue` that pieces without
a separator come back as they were. `cutAtFirst` stops at the first separator.
-/

namespace WebhookRelay.Text

/-- The stretches between separators. There is always at least one, which may be empty. -/
def pieces (sep : Char) : List Char → List (List Char)
  | [] => [[]]
  | c :: rest =>
    if c = sep then [] :: pieces sep rest
    else
      match pieces sep rest with
      | [] => [[c]]
      | p :: ps => (c :: p) :: ps

/-- Pieces with a separator between each two. -/
def glue (sep : Char) : List (List Char) → List Char
  | [] => []
  | [p] => p
  | p :: ps => p ++ sep :: glue sep ps

/-- What stands before the first separator and what stands after it. -/
def cutAtFirst (sep : Char) : List Char → Option (List Char × List Char)
  | [] => none
  | c :: rest =>
    if c = sep then some ([], rest)
    else (cutAtFirst sep rest).map fun r => (c :: r.1, r.2)

/-- What follows `start`, if the text starts with it. -/
def dropStart? (start : List Char) (text : List Char) : Option (List Char) :=
  match start, text with
  | [], text => some text
  | _ :: _, [] => none
  | s :: ss, c :: cs => if s = c then dropStart? ss cs else none

theorem pieces_ne_nil (sep : Char) (text : List Char) : pieces sep text ≠ [] := by
  cases text with
  | nil => simp [pieces]
  | cons c rest =>
    simp only [pieces]
    split
    · simp
    · split <;> simp

/-- Cutting loses nothing. -/
theorem glue_pieces (sep : Char) (text : List Char) : glue sep (pieces sep text) = text := by
  induction text with
  | nil => rfl
  | cons c rest ih =>
    rcases h : pieces sep rest with _ | ⟨p, ps⟩
    · exact absurd h (pieces_ne_nil sep rest)
    · rw [h] at ih
      by_cases hc : c = sep
      · subst hc
        simp [pieces, h, glue, ih]
      · cases ps with
        | nil => simp [pieces, h, hc, glue] at ih ⊢; exact ih
        | cons q qs => simp [pieces, h, hc, glue] at ih ⊢; exact ih

theorem pieces_of_not_mem {sep : Char} {text : List Char} (h : sep ∉ text) :
    pieces sep text = [text] := by
  induction text with
  | nil => rfl
  | cons c rest ih =>
    have hc : c ≠ sep := fun e => h (e ▸ List.mem_cons_self)
    have hr : sep ∉ rest := fun hm => h (List.mem_cons_of_mem _ hm)
    simp [pieces, hc, ih hr]

theorem pieces_append {sep : Char} {p : List Char} (rest : List Char) (h : sep ∉ p) :
    pieces sep (p ++ sep :: rest) = p :: pieces sep rest := by
  induction p with
  | nil => simp [pieces]
  | cons c cs ih =>
    have hc : c ≠ sep := fun e => h (e ▸ List.mem_cons_self)
    have hr : sep ∉ cs := fun hm => h (List.mem_cons_of_mem _ hm)
    simp [pieces, hc, ih hr]

/-- The first piece stands at the front, and a separator before each other one. -/
theorem glue_cons (sep : Char) (p : List Char) (ps : List (List Char)) :
    glue sep (p :: ps) = p ++ ps.flatMap (sep :: ·) := by
  induction ps generalizing p with
  | nil => simp [glue]
  | cons q qs ih => simp [glue, ih]

/-- Pieces that hold no separator come back as they were. -/
theorem pieces_glue {sep : Char} {ps : List (List Char)} (hne : ps ≠ [])
    (h : ∀ p ∈ ps, sep ∉ p) : pieces sep (glue sep ps) = ps := by
  induction ps with
  | nil => exact absurd rfl hne
  | cons p rest ih =>
    cases rest with
    | nil => exact pieces_of_not_mem (h p List.mem_cons_self)
    | cons q qs =>
      show pieces sep (p ++ sep :: glue sep (q :: qs)) = p :: q :: qs
      rw [pieces_append _ (h p List.mem_cons_self),
        ih (by simp) fun r hr => h r (List.mem_cons_of_mem _ hr)]

/-- No piece holds the separator. -/
theorem not_mem_of_mem_pieces {sep : Char} {text : List Char} :
    ∀ p ∈ pieces sep text, sep ∉ p := by
  induction text with
  | nil => simp [pieces]
  | cons c rest ih =>
    by_cases hc : c = sep
    · simp only [pieces, hc, if_true, List.mem_cons]
      rintro p (rfl | hp)
      · simp
      · exact ih p hp
    · rcases h : pieces sep rest with _ | ⟨q, qs⟩
      · simp [pieces, h, hc, Ne.symm hc]
      · rw [h] at ih
        simp only [pieces, h, hc, if_false, List.mem_cons]
        rintro p (rfl | hp)
        · simpa [Ne.symm hc] using ih q List.mem_cons_self
        · exact ih p (List.mem_cons_of_mem _ hp)

/-- There is one piece more than there are separators. -/
theorem length_pieces (sep : Char) (text : List Char) :
    (pieces sep text).length = text.count sep + 1 := by
  induction text with
  | nil => rfl
  | cons c rest ih =>
    by_cases hc : c = sep
    · simp [pieces, hc, ih]
    · rcases h : pieces sep rest with _ | ⟨p, ps⟩
      · exact absurd h (pieces_ne_nil sep rest)
      · rw [h] at ih
        simpa [pieces, hc, h] using ih

/-! ## The first separator -/

theorem cutAtFirst_of_not_mem {sep : Char} {text : List Char} (h : sep ∉ text) :
    cutAtFirst sep text = none := by
  induction text with
  | nil => rfl
  | cons c cs ih =>
    obtain ⟨hc, hcs⟩ := not_or.mp fun hm => h (List.mem_cons.mpr hm)
    simp [cutAtFirst, Ne.symm hc, ih hcs]

/-- What is cut at a separator is what stands before the first one and what stands after it. -/
theorem cutAtFirst_append {sep : Char} {a : List Char} (h : sep ∉ a) (b : List Char) :
    cutAtFirst sep (a ++ sep :: b) = some (a, b) := by
  induction a with
  | nil => simp [cutAtFirst]
  | cons c cs ih =>
    obtain ⟨hc, hcs⟩ := not_or.mp fun hm => h (List.mem_cons.mpr hm)
    simp [cutAtFirst, Ne.symm hc, ih hcs]

/-! ## Texts that start with another -/

theorem dropStart?_eq_some_iff {start text rest : List Char} :
    dropStart? start text = some rest ↔ text = start ++ rest := by
  induction start generalizing text with
  | nil => simp [dropStart?]
  | cons s ss ih =>
    cases text with
    | nil => simp [dropStart?]
    | cons c cs =>
      by_cases hc : s = c
      · subst hc
        simp [dropStart?, ih]
      · simp [dropStart?, hc, Ne.symm hc]

theorem dropStart?_eq_none_iff {start text : List Char} :
    dropStart? start text = none ↔ ¬start <+: text := by
  rw [Option.eq_none_iff_forall_ne_some]
  constructor
  · rintro h ⟨rest, rfl⟩
    exact h rest (dropStart?_eq_some_iff.mpr rfl)
  · rintro h rest hrest
    exact h ⟨rest, (dropStart?_eq_some_iff.mp hrest).symm⟩

end WebhookRelay.Text
