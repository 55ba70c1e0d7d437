import WebhookRelay.Proofs.Repositories

/-!
# The change from one declaration to the next

`RepoChange.between` is read off two sets of repositories. It leads from the one to the other and does
nothing besides (`RepoChange.leads_between`), and which repositories are in the sets can be said of the
rooms and their keys alone (`Service.mem_reposOf_iff`). So a change is empty just when the two
declarations name the same repositories, however their keys are written and whatever else is in them
(`Service.change_exact`).
-/

namespace WebhookRelay

/-! ## Texts that name a repository -/

/-- Whether a text is an owner and a name with a slash between them, neither of which is empty or has
a slash in it. -/
def RepoName.Spelled (text : String) : Prop :=
  ∃ owner name : String, (owner ≠ "" ∧ '/' ∉ owner.toList) ∧ (name ≠ "" ∧ '/' ∉ name.toList) ∧
    text = owner ++ "/" ++ name

/-- These are the texts that can be read as a repository. -/
theorem RepoName.wellFormed_iff_spelled {text : String} :
    wellFormed text = true ↔ Spelled text := by
  rw [wellFormed_iff]
  constructor
  · rintro ⟨⟨owner, name⟩, h⟩
    obtain ⟨hpieces, howner, hname⟩ := parse_eq_ok_iff.mp h
    have hslash : ∀ piece ∈ Text.pieces '/' text.toList, '/' ∉ piece :=
      Text.not_mem_of_mem_pieces
    rw [hpieces] at hslash
    refine ⟨owner, name, ⟨?_, hslash _ (by simp)⟩, ⟨?_, hslash _ (by simp)⟩, ?_⟩
    · simpa using howner
    · simpa using hname
    · exact (fullName_of_parse h).symm
  · rintro ⟨owner, name, howner, hname, rfl⟩
    exact ⟨_, parse_append howner hname⟩

/-! ## Sets of repositories -/

/-- A change leads from one set of repositories to another, and does nothing besides. -/
structure RepoChange.Leads (c : RepoChange) (old new : NameSet) : Prop where
  /-- without those that are lost and with those that are gained, the old set is the new one -/
  reaches : ∀ repo, (repo ∈ old ∧ repo ∉ c.removed) ∨ repo ∈ c.added ↔ repo ∈ new
  /-- what is gained was not there -/
  gained : ∀ repo ∈ c.added, repo ∈ new ∧ repo ∉ old
  /-- what is lost is there no more -/
  lost : ∀ repo ∈ c.removed, repo ∈ old ∧ repo ∉ new
  /-- those that are gained are listed in order, each once -/
  added_ascending : c.added.toList.Pairwise (· < ·)
  /-- and so are those that are lost -/
  removed_ascending : c.removed.toList.Pairwise (· < ·)

theorem RepoChange.leads_between (old new : NameSet) : (between old new).Leads old new := by
  constructor
  case reaches =>
    intro repo
    simp only [between, NameSet.mem_diff]
    by_cases hold : repo ∈ old
    · simp [hold]
    · simp [hold]
  case gained =>
    intro repo h
    exact NameSet.mem_diff.mp h
  case lost =>
    intro repo h
    exact NameSet.mem_diff.mp h
  case added_ascending => exact (between old new).added.ascending
  case removed_ascending => exact (between old new).removed.ascending

/-- Nothing changes just when the sets are the same. -/
theorem RepoChange.isEmpty_between {old new : NameSet} :
    (between old new).isEmpty = true ↔ ∀ repo, repo ∈ old ↔ repo ∈ new := by
  simp only [isEmpty, between, Bool.and_eq_true, NameSet.isEmpty_iff, NameSet.mem_diff, not_and,
    Classical.not_not]
  constructor
  · rintro ⟨hadded, hremoved⟩ repo
    exact ⟨hremoved repo, hadded repo⟩
  · intro h
    exact ⟨fun repo => (h repo).mpr, fun repo => (h repo).mp⟩

namespace Service

/-- Whether a room of a service has a key for a repository, letter case apart. -/
def Mentions (s : Service) (repo : String) : Prop :=
  ∃ room ∈ s.rooms.entries, ∃ key ∈ room.2.repos.keys, Text.asciiLower key = Text.asciiLower repo

theorem mentions_iff {s : Service} {repo : String} :
    s.Mentions repo ↔ ∃ key ∈ s.repoKeys, Text.asciiLower key = Text.asciiLower repo := by
  simp only [Mentions, repoKeys, List.mem_flatMap]
  constructor
  · rintro ⟨room, hroom, key, hkey, h⟩
    exact ⟨key, ⟨room, hroom, hkey⟩, h⟩
  · rintro ⟨key, ⟨room, hroom, hkey⟩, h⟩
    exact ⟨room, hroom, key, hkey, h⟩

theorem mentions_asciiLower {s : Service} {repo : String} :
    s.Mentions (Text.asciiLower repo) ↔ s.Mentions repo := by
  rw [Mentions, Mentions, Text.asciiLower_asciiLower]

/-- The repositories of a service are the well-formed texts in lower case that some room has a key
for. -/
theorem mem_reposOf_iff {s : Option Service} {repo : String} :
    repo ∈ reposOf s ↔
      RepoName.Spelled repo ∧ Text.asciiLower repo = repo ∧ ∃ t ∈ s, t.Mentions repo := by
  cases s with
  | none => simp [reposOf]
  | some s =>
    have hlower : Text.asciiLower repo ∈ s.repos ↔ RepoName.Spelled repo ∧ s.Mentions repo := by
      rw [asciiLower_mem_repos, RepoName.wellFormed_iff_spelled, mentions_iff]
    constructor
    · intro h
      have hsame := asciiLower_of_mem_repos h
      have hrepo : repo ∈ s.repos := h
      rw [← hsame, hlower] at hrepo
      exact ⟨hrepo.1, hsame, s, rfl, hrepo.2⟩
    · rintro ⟨hspelled, hsame, t, ht, hkey⟩
      obtain rfl := Option.some.inj ht
      rw [hsame] at hlower
      exact hlower.mpr ⟨hspelled, hkey⟩

/-- **The change between two declarations is exact.** It leads from the repositories of the one to those
of the other and does nothing besides; a text is among the repositories of a declaration just when it
is an owner and a name in lower case and some room has it for a key, letter case apart; and nothing
changes just when the two declarations have keys for the same repositories. -/
theorem change_exact (old new : Option Service) :
    (RepoChange.between (reposOf old) (reposOf new)).Leads (reposOf old) (reposOf new) ∧
      (∀ (s : Option Service) repo, repo ∈ reposOf s ↔
        RepoName.Spelled repo ∧ Text.asciiLower repo = repo ∧ ∃ t ∈ s, t.Mentions repo) ∧
      ((RepoChange.between (reposOf old) (reposOf new)).isEmpty = true ↔
        ∀ repo, RepoName.Spelled repo →
          ((∃ s ∈ old, s.Mentions repo) ↔ ∃ s ∈ new, s.Mentions repo)) := by
  refine ⟨RepoChange.leads_between _ _, fun s repo => mem_reposOf_iff, ?_⟩
  rw [RepoChange.isEmpty_between]
  constructor
  · intro h repo hspelled
    -- the members are in lower case, so the text is looked for as it is written there
    have hlower : RepoName.Spelled (Text.asciiLower repo) := by
      rwa [← RepoName.wellFormed_iff_spelled, RepoName.wellFormed_asciiLower,
        RepoName.wellFormed_iff_spelled]
    have hboth := h (Text.asciiLower repo)
    simpa [mem_reposOf_iff, hlower, mentions_asciiLower] using hboth
  · intro h repo
    rw [mem_reposOf_iff, mem_reposOf_iff]
    constructor
    · rintro ⟨hspelled, hsame, hkey⟩
      exact ⟨hspelled, hsame, (h repo hspelled).mp hkey⟩
    · rintro ⟨hspelled, hsame, hkey⟩
      exact ⟨hspelled, hsame, (h repo hspelled).mpr hkey⟩

/-- Another room, other events, another spelling of a repository and a key that is none change nothing. -/
example :
    let s : Service := { id := "svc", callbackUrl := "u" }
    (RepoChange.between (reposOf (s.bind "!a" "Acme/Widgets" ["push"]))
      (reposOf ((s.bind "!b" "acme/WIDGETS" ["issues"]).bind "!b" "acme" []))).isEmpty = true := by
  decide

end Service

end WebhookRelay
