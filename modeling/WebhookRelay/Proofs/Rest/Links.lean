import WebhookRelay.Rest.Link

/-!
# Headers of links, written and read

`Link.print` writes a link with its target in angle brackets, and `written` writes several with commas
between them. Reading cuts at commas and semicolons before it looks for the brackets, so a link comes
back only if its target holds neither, and every other link is passed over (`nextLink_written`). The
next page is found just when the first link to it is of the former kind; a link to it that is passed
over looks like none (`next_passed_over`).

The induction over the links rests on `nextLink_append`: the pieces of two texts with a comma between
them are the pieces of the one and of the other. For one link, `not_mem_front` says what keeps the
pieces of its target from being taken for links.
-/

namespace WebhookRelay.Text

variable {sep : Char} {a b text : List Char}

/-- What stands before the first separator goes up to it. -/
theorem fst_of_cutAtFirst {r : List Char × List Char} (h : cutAtFirst sep text = some r) :
    r.1 = text.takeWhile (· ≠ sep) := by
  induction text generalizing r with
  | nil => cases h
  | cons c cs ih =>
    rw [cutAtFirst] at h
    split at h
    · next hc =>
      cases h
      simp [hc]
    · next hc =>
      obtain ⟨r', hr', rfl⟩ := Option.map_eq_some_iff.mp h
      simp [hc, ih hr']

/-- The pieces of two texts with a separator between them are those of the one and of the other. -/
theorem pieces_append_pieces (a b : List Char) :
    pieces sep (a ++ sep :: b) = pieces sep a ++ pieces sep b := by
  induction a with
  | nil => simp [pieces]
  | cons c cs ih =>
    by_cases hc : c = sep
    · simp [pieces, hc, ih]
    · rcases hcs : pieces sep cs with _ | ⟨p, ps⟩
      · exact absurd hcs (pieces_ne_nil sep cs)
      · simp [pieces, hc, ih, hcs]

/-- Trimming takes a blank off the front. -/
theorem trim_cons {c : Char} (hc : blank c = true) (cs : List Char) : trim (c :: cs) = trim cs := by
  rw [trim, trim, List.dropWhile_cons_of_pos hc]

/-- Trimming leaves a text as it is if no blank stands at either end. -/
theorem trim_of_ends {first last : Char} (hfirst : blank first = false) (hlast : blank last = false)
    (cs : List Char) : trim (first :: cs ++ [last]) = first :: cs ++ [last] := by
  have hf : ¬blank first = true := ne_true_of_eq_false hfirst
  have hl : ¬blank last = true := ne_true_of_eq_false hlast
  rw [trim, dropEndWhile, List.cons_append, List.dropWhile_cons_of_neg hf, ← List.cons_append,
    List.reverse_append, List.reverse_singleton, List.singleton_append,
    List.dropWhile_cons_of_neg hl, List.reverse_cons, List.reverse_reverse]

end WebhookRelay.Text

namespace WebhookRelay.Rest

open Text

/-! ## Links as they are written -/

/-- A link to another page. -/
structure Link where
  /-- where it leads, which is written between angle brackets -/
  target : List Char
  /-- what is found there -/
  rel : List Char
  no_brackets : '<' ∉ target ∧ '>' ∉ target
  no_separators : ',' ∉ rel ∧ ';' ∉ rel

namespace Link

/-- Whether a link leads to the next page. -/
def isNext (l : Link) : Bool := l.rel = "next".toList

/-- Whether the target of a link holds none of the characters that links are cut at. -/
def isPlain (l : Link) : Bool := !l.target.contains ',' && !l.target.contains ';'

/-- What follows the target of a link. -/
def parameter (l : Link) : List Char := [' ', 'r', 'e', 'l', '=', '"'] ++ l.rel ++ ['"']

/-- A link as it is written. -/
def print (l : Link) : List Char := '<' :: l.target ++ '>' :: ';' :: l.parameter

variable {l : Link}

theorem isPlain_iff : l.isPlain = true ↔ ',' ∉ l.target ∧ ';' ∉ l.target := by
  simp [isPlain]

theorem not_mem_parameter : ',' ∉ l.parameter ∧ ';' ∉ l.parameter := by
  simp [parameter, l.no_separators]

/-- The parameter says that a link leads to the next page just when it does. -/
theorem trim_parameter : trim l.parameter = nextRel ↔ l.isNext = true := by
  have hends : trim l.parameter = 'r' :: (['e', 'l', '=', '"'] ++ l.rel) ++ ['"'] := by
    have h : l.parameter = ' ' :: ('r' :: (['e', 'l', '=', '"'] ++ l.rel) ++ ['"']) := rfl
    rw [h, trim_cons (by decide), trim_of_ends (by decide) (by decide)]
  have hnext : nextRel = 'r' :: (['e', 'l', '=', '"'] ++ "next".toList) ++ ['"'] := rfl
  rw [hends, hnext, List.append_cancel_right_eq, List.cons.injEq, List.append_cancel_left_eq]
  simp [isNext]

end Link

/-- Links as they are written into one header. -/
def written : List Link → List Char
  | [] => []
  | [l] => l.print
  | l :: ls => l.print ++ ',' :: ' ' :: written ls

/-! ## What is taken for a link -/

/-- What stands before the first semicolon. -/
def front (piece : List Char) : List Char := piece.takeWhile (· ≠ ';')

theorem front_append {text : List Char} (h : ';' ∉ text) (rest : List Char) :
    front (text ++ ';' :: rest) = text :=
  (fst_of_cutAtFirst (cutAtFirst_append h rest)).symm

/-- Where both brackets do not stand before the first semicolon, there is no link. -/
theorem nextTarget_of_front {piece : List Char} (h : '<' ∉ front piece ∨ '>' ∉ front piece) :
    nextTarget piece = none := by
  rw [nextTarget]
  split
  · rfl
  · next target parameters hcut =>
    obtain rfl : target = front piece := fst_of_cutAtFirst hcut
    have hsub : ∀ c ∈ trim (front piece), c ∈ front piece := by
      intro c hc
      have hdrop : c ∈ (front piece).dropWhile blank := by
        rw [trim, dropEndWhile, List.mem_reverse] at hc
        exact List.mem_reverse.mp ((List.dropWhile_sublist _).mem hc)
      exact (List.dropWhile_sublist _).mem hdrop
    split
    · split
      · next rest htrim =>
        split
        · next hlast =>
          have hopen : '<' ∈ front piece := hsub _ (htrim ▸ List.mem_cons_self)
          have hclose : '>' ∈ front piece :=
            hsub _ (htrim ▸ List.mem_cons_of_mem _ (List.mem_of_getLast? hlast))
          rcases h with h | h
          · exact absurd hopen h
          · exact absurd hclose h
        · rfl
      · rfl
    · rfl

/-- A blank before a link does not matter. -/
theorem nextTarget_cons {c : Char} (hc : blank c = true) (hsep : c ≠ ';') (piece : List Char) :
    nextTarget (c :: piece) = nextTarget piece := by
  rw [nextTarget, nextTarget, cutAtFirst, if_neg hsep]
  rcases cutAtFirst ';' piece with _ | ⟨target, parameters⟩
  · rfl
  · simp only [Option.map_some, trim_cons hc]

/-- A blank before links does not matter. -/
theorem nextLink_cons {c : Char} (hc : blank c = true) (hsep : c ≠ ';') (hcomma : c ≠ ',')
    (links : List Char) : nextLink (c :: links) = nextLink links := by
  rw [nextLink, nextLink, pieces, if_neg hcomma]
  rcases h : pieces ',' links with _ | ⟨p, ps⟩
  · exact absurd h (pieces_ne_nil _ _)
  · simp only [List.findSome?_cons, nextTarget_cons hc hsep]

/-- Of two texts with a comma between them, the next page is the one that the first names, or else the
one that the second names. -/
theorem nextLink_append (a b : List Char) :
    nextLink (a ++ ',' :: b) = (nextLink a).or (nextLink b) := by
  rw [nextLink, pieces_append_pieces, List.findSome?_append]
  rfl

/-- What is cut off behind a text without an opening bracket is no link. -/
theorem not_mem_front {text rest : List Char} (htext : '<' ∉ text) (hrest : ',' ∉ rest)
    (hfront : '<' ∉ front rest) : ∀ p ∈ pieces ',' (text ++ rest), '<' ∉ front p := by
  induction text with
  | nil =>
    rw [List.nil_append, pieces_of_not_mem hrest]
    simpa using hfront
  | cons c cs ih =>
    obtain ⟨hc, hcs⟩ := not_or.mp fun hm => htext (List.mem_cons.mpr hm)
    have ih := ih hcs
    rw [List.cons_append, pieces]
    split
    · intro p hp
      rcases List.mem_cons.mp hp with rfl | hp
      · exact List.not_mem_nil
      · exact ih p hp
    · rcases h : pieces ',' (cs ++ rest) with _ | ⟨q, qs⟩
      · exact absurd h (pieces_ne_nil _ _)
      · rw [h] at ih
        intro p hp
        rcases List.mem_cons.mp hp with rfl | hp
        · intro hm
          have hm' : '<' ∈ c :: front q := by
            rw [front, List.takeWhile_cons] at hm
            split at hm
            · exact hm
            · exact absurd hm List.not_mem_nil
          rcases List.mem_cons.mp hm' with rfl | hm'
          · exact hc rfl
          · exact ih q List.mem_cons_self hm'
        · exact ih p (List.mem_cons_of_mem _ hp)

/-! ## What is read of a written link -/

namespace Link

variable {l : Link}

/-- A link is passed over if there is a comma in its target. -/
theorem nextLink_print_of_comma (h : ',' ∈ l.target) : nextLink l.print = none := by
  obtain ⟨before, after, htarget, hbefore⟩ := List.eq_append_cons_of_mem h
  have hopen : '<' ∉ after := fun hm => l.no_brackets.1 (by simp [htarget, hm])
  have hclose : '>' ∉ '<' :: before := by
    have hm : '>' ∉ before := fun hm => l.no_brackets.2 (by simp [htarget, hm])
    simpa using hm
  have hprint : l.print = ('<' :: before) ++ ',' :: (after ++ '>' :: ';' :: l.parameter) := by
    simp [print, htarget]
  rw [nextLink, hprint, pieces_append _ (by simpa using hbefore), List.findSome?_cons,
    nextTarget_of_front (.inr fun hm => hclose (List.takeWhile_sublist _ |>.mem hm)),
    List.findSome?_eq_none_iff]
  intro p hp
  refine nextTarget_of_front (.inl (not_mem_front hopen ?_ ?_ p hp))
  · simp [not_mem_parameter]
  · simp [front]

/-- A link is passed over if there is a semicolon in its target. -/
theorem nextTarget_print_of_semicolon (h : ';' ∈ l.target) : nextTarget l.print = none := by
  obtain ⟨before, after, htarget, hbefore⟩ := List.eq_append_cons_of_mem h
  have hprint : l.print = ('<' :: before) ++ ';' :: (after ++ '>' :: ';' :: l.parameter) := by
    simp [print, htarget]
  refine nextTarget_of_front (.inr fun hm => ?_)
  rw [hprint, front_append (by simpa using hbefore)] at hm
  have hmem : '>' ∈ before := by simpa using hm
  exact l.no_brackets.2 (htarget ▸ List.mem_append_left _ hmem)

/-- Any other link is read as it was written. -/
theorem nextTarget_print (h : ';' ∉ l.target) :
    nextTarget l.print = if l.isNext then some l.target else none := by
  have hcut : cutAtFirst ';' l.print = some ('<' :: l.target ++ ['>'], l.parameter) := by
    have hprint : l.print = ('<' :: l.target ++ ['>']) ++ ';' :: l.parameter := by simp [print]
    rw [hprint, cutAtFirst_append (by simpa using h)]
  have htrim : trim ('<' :: l.target ++ ['>']) = '<' :: (l.target ++ ['>']) :=
    trim_of_ends (by decide) (by decide) _
  simp only [nextTarget, hcut, pieces_of_not_mem not_mem_parameter.2, List.any_cons, List.any_nil,
    Bool.or_false, decide_eq_true_eq, trim_parameter, htrim]
  simp

/-- The next page is read of a link that leads to it, unless the link is passed over. -/
theorem nextLink_print (l : Link) :
    nextLink l.print = if l.isNext && l.isPlain then some l.target else none := by
  by_cases hcomma : ',' ∈ l.target
  · have hplain : ¬l.isPlain = true := fun h => (isPlain_iff.mp h).1 hcomma
    rw [nextLink_print_of_comma hcomma, if_neg (by simp [hplain])]
  have hone : nextLink l.print = nextTarget l.print := by
    have hprint : ',' ∉ l.print := by simp [print, hcomma, not_mem_parameter]
    rw [nextLink, pieces_of_not_mem hprint]
    simp
  rw [hone]
  by_cases hsemicolon : ';' ∈ l.target
  · have hplain : ¬l.isPlain = true := fun h => (isPlain_iff.mp h).2 hsemicolon
    rw [nextTarget_print_of_semicolon hsemicolon, if_neg (by simp [hplain])]
  · rw [nextTarget_print hsemicolon, isPlain_iff.mpr ⟨hcomma, hsemicolon⟩, Bool.and_true]

end Link

/-- Of several links the next page is read of the first that leads to it and is not passed over. -/
theorem nextLink_written_eq (ls : List Link) :
    nextLink (written ls) = (ls.find? fun l => l.isNext && l.isPlain).map (·.target) := by
  induction ls with
  | nil => rfl
  | cons l rest ih =>
    have hstep : nextLink (written (l :: rest)) = (nextLink l.print).or (nextLink (written rest)) := by
      cases rest with
      | nil => exact (Option.or_none).symm
      | cons l' rest =>
        rw [written, nextLink_append, nextLink_cons (by decide) (by decide) (by decide)]
        nofun
    rw [hstep, ih, l.nextLink_print, List.find?_cons]
    cases l.isNext && l.isPlain
    · rfl
    · rfl

/-- The first link to the next page is the one that is read just when it is not passed over. -/
theorem find?_isPlain_iff (ls : List Link) :
    (ls.find? fun l => l.isNext && l.isPlain).map (·.target) =
        (ls.find? Link.isNext).map (·.target) ↔
      ∀ l, ls.find? Link.isNext = some l → l.isPlain = true := by
  induction ls with
  | nil => simp
  | cons l rest ih =>
    cases hnext : l.isNext with
    | false => simpa [List.find?_cons, hnext] using ih
    | true =>
      cases hplain : l.isPlain with
      | true => simp [hnext, hplain]
      | false =>
        -- another link cannot make up for it, as its target is plain
        simp only [List.find?_cons, hnext, hplain, Bool.and_false, Option.map_some]
        refine iff_of_false (fun h => ?_) fun h => Bool.false_ne_true (hplain ▸ h l rfl)
        obtain ⟨l', hfind, htarget⟩ := Option.map_eq_some_iff.mp h
        have hboth := List.find?_some hfind
        have hplain' : l'.isPlain = true := (Bool.and_eq_true_iff.mp hboth).2
        rw [Link.isPlain, htarget, ← Link.isPlain, hplain] at hplain'
        exact Bool.false_ne_true hplain'

/-- **When the next page is found.** What is read of a header of links is the target of the first link
that leads to the next page and holds no comma and no semicolon in its target. So the target of the
first link to the next page is found, or nothing if there is none, just when that link is of this
kind. -/
theorem nextLink_written (ls : List Link) :
    nextLink (written ls) = (ls.find? fun l => l.isNext && l.isPlain).map (·.target) ∧
      (nextLink (written ls) = (ls.find? Link.isNext).map (·.target) ↔
        ∀ l, ls.find? Link.isNext = some l → l.isPlain = true) := by
  have heq := nextLink_written_eq ls
  exact ⟨heq, heq ▸ find?_isPlain_iff ls⟩

/-- A link to the next page, where the pages list hooks by two kinds of event. -/
def byEvents : Link where
  target := "http://api.github.test/repos/acme/widgets/hooks?events=push,issues&page=2".toList
  rel := "next".toList
  no_brackets := by decide
  no_separators := by decide

/-- A link to the next page is passed over because of the comma in its target. -/
theorem next_passed_over : byEvents.isNext = true ∧ nextLink (written [byEvents]) = none := by
  decide

end WebhookRelay.Rest
