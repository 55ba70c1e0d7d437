import WebhookRelay.Proofs.Repositories

/-!
# Names of repositories, written and read

Reading a name and writing it undo each other, whichever comes first (`RepoName.parse_exact`). That a
text can be read is said by its slashes: there is one piece more than there are slashes
(`Text.length_pieces`), so a text with one slash has the two pieces that an owner and a name are.
-/

namespace WebhookRelay.RepoName

variable {text : String}

/-- The repository with the letters A to Z in lower case. -/
def lower (r : RepoName) : RepoName := ⟨Text.asciiLower r.owner, Text.asciiLower r.name⟩

/-- Whether a text has one slash in it, with something before it and something behind it. -/
def Divided (text : String) : Prop :=
  text.toList.count '/' = 1 ∧
    ∃ before after, before ≠ [] ∧ after ≠ [] ∧ text.toList = before ++ '/' :: after

/-- These are the texts that can be read. -/
theorem exists_parse_iff_divided : (∃ r, parse text = .ok r) ↔ Divided text := by
  constructor
  · rintro ⟨r, hr⟩
    obtain ⟨hpieces, howner, hname⟩ := parse_eq_ok_iff.mp hr
    refine ⟨?_, r.owner.toList, r.name.toList, howner, hname, ?_⟩
    · have hlength := Text.length_pieces '/' text.toList
      rw [hpieces] at hlength
      exact (Nat.succ.inj hlength).symm
    · rw [← fullName_of_parse hr]
      simp [fullName]
  · rintro ⟨hone, before, after, hbefore, hafter, htext⟩
    rw [htext, List.count_append, List.count_cons_self] at hone
    have hb : '/' ∉ before := List.count_eq_zero.mp (by omega)
    have ha : '/' ∉ after := List.count_eq_zero.mp (by omega)
    have hwhole : text = String.ofList before ++ "/" ++ String.ofList after := by
      rw [← String.toList_inj]
      simp [htext]
    rw [hwhole]
    exact ⟨_, parse_append ⟨by simpa using hbefore, by simpa using hb⟩
      ⟨by simpa using hafter, by simpa using ha⟩⟩

/-- What is read does not depend on letter case, but for the letters of the owner and the name. -/
theorem toOption_parse_asciiLower (text : String) :
    (parse (Text.asciiLower text)).toOption = (parse text).toOption.map lower := by
  rcases h : parse text with e | r
  · have hnot : ¬wellFormed (Text.asciiLower text) = true := by
      rw [wellFormed_asciiLower, wellFormed, h]
      exact Bool.false_ne_true
    rcases hlower : parse (Text.asciiLower text) with e' | r'
    · rfl
    · exact absurd (wellFormed_iff.mpr ⟨r', hlower⟩) hnot
  · rw [parse_asciiLower h]
    rfl

/-- **Reading and writing undo each other.** A text can be read as a repository just when it has one
slash in it, with something on each side; what is read is written as the text that it was read of; and
an owner and a name in which there are no slashes are read back as they are. A text in lower case can
be read just when the text itself can, and then as the same owner and name in lower case. -/
theorem parse_exact (text : String) :
    ((∃ r, parse text = .ok r) ↔ Divided text) ∧
    (∀ r, parse text = .ok r → r.fullName = text ∧ toString r = text) ∧
    (∀ owner name : String, owner ≠ "" ∧ '/' ∉ owner.toList → name ≠ "" ∧ '/' ∉ name.toList →
      parse (owner ++ "/" ++ name) = .ok ⟨owner, name⟩) ∧
    (parse (Text.asciiLower text)).toOption = (parse text).toOption.map lower := by
  refine ⟨exists_parse_iff_divided, fun r hr => ?_, fun owner name howner hname => ?_,
    toOption_parse_asciiLower text⟩
  · have hwritten := fullName_of_parse hr
    exact ⟨hwritten, hwritten⟩
  · exact parse_append howner hname

/-- A name with letters of both cases and characters beyond ASCII. -/
theorem parse_exact_mixed :
    parse "Ac-me/Wïdgets Ä" = .ok ⟨"Ac-me", "Wïdgets Ä"⟩ ∧
      (parse (Text.asciiLower "Ac-me/Wïdgets Ä")).toOption = some ⟨"ac-me", "wïdgets Ä"⟩ := by
  obtain ⟨-, -, hback, hlower⟩ := parse_exact "Ac-me/Wïdgets Ä"
  have hread : parse "Ac-me/Wïdgets Ä" = .ok ⟨"Ac-me", "Wïdgets Ä"⟩ :=
    hback "Ac-me" "Wïdgets Ä" (by decide) (by decide)
  refine ⟨hread, hlower.trans ?_⟩
  rw [hread]
  decide

/-- A second slash, and a slash at either end, are too much. -/
example : ["a/b/c", "a/b/", "/a", "a/", "/", "a", ""].all (!wellFormed ·) = true := by decide

end WebhookRelay.RepoName
