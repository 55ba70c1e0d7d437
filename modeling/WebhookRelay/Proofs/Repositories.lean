import WebhookRelay.Service
import Mathlib.Data.List.Sort

/-!
# The repositories of a service

What `Service.repos` holds (`Service.mem_repos`), that every member can be read as the name of a
repository and is the key of that repository (`Service.exists_name_of_mem_repos`), and how this set
and `Service.bindings` fit together.

The bridge is that lowering letters and cutting at a slash do not get in each other's way
(`Text.pieces_map`, `RepoName.parse_asciiLower`).
-/

namespace WebhookRelay

/-! ## Cutting and letter case -/

namespace Text

/-- Lowering a character neither makes nor takes away a slash. -/
theorem toLower_eq_slash {c : Char} : c.toLower = '/' ↔ c = '/' := by
  constructor
  · exact fun h => eq_of_toLower h (by decide)
  · rintro rfl
    rfl

/-- Cutting at a separator goes along with changing characters, if the change neither makes nor
takes away a separator. -/
theorem pieces_map {sep : Char} {f : Char → Char} (hf : ∀ c, f c = sep ↔ c = sep)
    (text : List Char) : pieces sep (text.map f) = (pieces sep text).map (List.map f) := by
  induction text with
  | nil => rfl
  | cons c rest ih =>
    by_cases hc : c = sep
    · simp [pieces, hc, (hf sep).mpr rfl, ih]
    · have hfc : f c ≠ sep := fun e => hc ((hf c).mp e)
      rcases h : pieces sep rest with _ | ⟨p, ps⟩
      · exact absurd h (pieces_ne_nil sep rest)
      · simp [pieces, hc, hfc, ih, h]

end Text

/-! ## Names -/

namespace RepoName

/-- A text names a repository just when its pieces are the owner and the name, neither empty. -/
theorem parse_eq_ok_iff {text : String} {r : RepoName} :
    parse text = .ok r ↔
      Text.pieces '/' text.toList = [r.owner.toList, r.name.toList] ∧
        r.owner.toList ≠ [] ∧ r.name.toList ≠ [] := by
  obtain ⟨owner, name⟩ := r
  unfold parse
  split
  · next o n h =>
    rw [h]
    by_cases he : (o.isEmpty || n.isEmpty) = true
    · rw [if_pos he]
      constructor
      · intro hk
        cases hk
      · rintro ⟨hp, ho, hn⟩
        simp_all
    · rw [if_neg he]
      constructor
      · intro hk
        cases hk
        simp_all
      · rintro ⟨hp, ho, hn⟩
        simp only [List.cons.injEq, and_true] at hp
        simp [hp]
  · next h =>
    constructor
    · intro hk
      cases hk
    · rintro ⟨hp, -⟩
      exact absurd hp (h _ _)

/-- What was read is written back. -/
theorem fullName_of_parse {text : String} {r : RepoName} (h : parse text = .ok r) :
    r.fullName = text := by
  obtain ⟨hp, -⟩ := parse_eq_ok_iff.mp h
  rw [← String.toList_inj, ← Text.glue_pieces '/' text.toList, hp]
  simp [fullName, Text.glue]

/-- An owner and a name are read back with a slash between them. -/
theorem parse_append {owner name : String} (howner : owner ≠ "" ∧ '/' ∉ owner.toList)
    (hname : name ≠ "" ∧ '/' ∉ name.toList) : parse (owner ++ "/" ++ name) = .ok ⟨owner, name⟩ := by
  refine parse_eq_ok_iff.mpr ⟨?_, by simpa using howner.1, by simpa using hname.1⟩
  have hcut := Text.pieces_append name.toList howner.2
  rw [Text.pieces_of_not_mem hname.2] at hcut
  simpa using hcut

/-- Lowering a name lowers its owner and its name. -/
theorem parse_asciiLower {text : String} {r : RepoName} (h : parse text = .ok r) :
    parse (Text.asciiLower text) = .ok ⟨Text.asciiLower r.owner, Text.asciiLower r.name⟩ := by
  obtain ⟨hp, ho, hn⟩ := parse_eq_ok_iff.mp h
  rw [parse_eq_ok_iff, Text.toList_asciiLower, Text.pieces_map fun _ => Text.toLower_eq_slash, hp]
  simp_all

/-- A text names a repository just when it can be read as one. -/
theorem wellFormed_iff {text : String} : wellFormed text = true ↔ ∃ r, parse text = .ok r := by
  unfold wellFormed
  rcases parse text with e | r <;> simp [Except.isOk, Except.toBool]

/-- Whether a text names a repository does not depend on letter case. -/
@[simp] theorem wellFormed_asciiLower (text : String) :
    wellFormed (Text.asciiLower text) = wellFormed text := by
  rw [Bool.eq_iff_iff, wellFormed_iff, wellFormed_iff]
  constructor
  · rintro ⟨r, hr⟩
    obtain ⟨hp, ho, hn⟩ := parse_eq_ok_iff.mp hr
    rw [Text.toList_asciiLower, Text.pieces_map fun _ => Text.toLower_eq_slash] at hp
    -- the pieces are two before they are lowered, and as long
    obtain ⟨owner, rest, hpieces, howner, hrest⟩ := List.map_eq_cons_iff.mp hp
    obtain ⟨name, others, rfl, hname, hothers⟩ := List.map_eq_cons_iff.mp hrest
    obtain rfl := List.map_eq_nil_iff.mp hothers
    refine ⟨⟨String.ofList owner, String.ofList name⟩, parse_eq_ok_iff.mpr ⟨?_, ?_, ?_⟩⟩
    · simpa using hpieces
    · rintro h
      simp_all
    · rintro h
      simp_all
  · rintro ⟨r, hr⟩
    exact ⟨_, parse_asciiLower hr⟩

end RepoName

/-! ## Sets of names -/

/-- No member is listed twice. -/
theorem NameSet.nodup (s : NameSet) : s.toList.Nodup := s.ascending.imp String.ne_of_lt

/-- Sets with the same members are equal. -/
theorem NameSet.ext_mem {s t : NameSet} (h : ∀ name, name ∈ s ↔ name ∈ t) : s = t :=
  NameSet.ext (s.ascending.eq_of_mem_iff t.ascending h)

/-- A set without members has none to list. -/
theorem NameSet.isEmpty_iff {s : NameSet} : s.isEmpty = true ↔ ∀ name, name ∉ s := by
  obtain ⟨l, h⟩ := s
  simp [isEmpty, mem_def, List.eq_nil_iff_forall_not_mem]

theorem NameSet.eq_empty_of_isEmpty {s : NameSet} (h : s.isEmpty = true) : s = ∅ :=
  NameSet.ext (List.isEmpty_iff.mp h)

@[simp] theorem NameSet.diff_empty (s : NameSet) : s.diff ∅ = s :=
  NameSet.ext (List.filter_eq_self.mpr fun _ _ => decide_eq_true List.not_mem_nil)

/-- A set is the set of its members. -/
theorem NameSet.ofList_toList (s : NameSet) : ofList s.toList = s :=
  ext_mem fun _ => mem_ofList

/-! ## Repositories -/

namespace Service

/-- A service needs a hook on the repositories that its well-formed keys name. -/
theorem mem_repos {s : Service} {repo : String} :
    repo ∈ s.repos ↔
      ∃ key ∈ s.repoKeys, RepoName.wellFormed key = true ∧ Text.asciiLower key = repo := by
  simp [repos, NameSet.mem_ofList, and_assoc]

/-- Every repository of a service can be read as a name, and is the key of that name. -/
theorem exists_name_of_mem_repos {s : Service} {repo : String} (h : repo ∈ s.repos) :
    ∃ name, RepoName.parse repo = .ok name ∧ name.key = repo := by
  obtain ⟨key, -, hw, rfl⟩ := mem_repos.mp h
  obtain ⟨r, hr⟩ := RepoName.wellFormed_iff.mp hw
  refine ⟨_, RepoName.parse_asciiLower hr, ?_⟩
  rw [RepoName.key, RepoName.fullName_of_parse (RepoName.parse_asciiLower hr),
    Text.asciiLower_asciiLower]

/-- The repositories are in lower case. -/
theorem asciiLower_of_mem_repos {s : Service} {repo : String} (h : repo ∈ s.repos) :
    Text.asciiLower repo = repo := by
  obtain ⟨name, -, rfl⟩ := exists_name_of_mem_repos h
  rw [RepoName.key, Text.asciiLower_asciiLower]

/-- No room names a repository just when no key does, letter case apart. -/
theorem bindings_eq_nil_iff {s : Service} {repo : String} :
    s.bindings repo = [] ↔ ∀ key ∈ s.repoKeys, Text.asciiLower key ≠ Text.asciiLower repo := by
  simp only [bindings, repoKeys, Table.keys, List.flatMap_eq_nil_iff, List.map_eq_nil_iff,
    List.filter_eq_nil_iff, decide_eq_true_eq, List.mem_flatMap, List.mem_map]
  constructor
  · rintro h key ⟨room, hroom, entry, hentry, rfl⟩
    exact h room hroom entry hentry
  · intro h room hroom entry hentry
    exact h entry.1 ⟨room, hroom, entry, hentry, rfl⟩

/-- A service needs a hook on a repository, however it is written, if the repository is well-formed
and some key names it. -/
theorem asciiLower_mem_repos {s : Service} {repo : String} :
    Text.asciiLower repo ∈ s.repos ↔ RepoName.wellFormed repo = true ∧
      ∃ key ∈ s.repoKeys, Text.asciiLower key = Text.asciiLower repo := by
  rw [mem_repos]
  constructor
  · rintro ⟨key, hk, hw, hl⟩
    refine ⟨?_, key, hk, hl⟩
    rwa [← RepoName.wellFormed_asciiLower, ← hl, RepoName.wellFormed_asciiLower]
  · rintro ⟨hw, key, hk, hl⟩
    refine ⟨key, hk, ?_, hl⟩
    rwa [← RepoName.wellFormed_asciiLower, hl, RepoName.wellFormed_asciiLower]

/-- Of a well-formed repository, no room names it just when the service needs no hook on it. -/
theorem bindings_eq_nil_iff_not_mem_repos {s : Service} {repo : String}
    (hw : RepoName.wellFormed repo = true) :
    s.bindings repo = [] ↔ Text.asciiLower repo ∉ s.repos := by
  rw [bindings_eq_nil_iff, asciiLower_mem_repos]
  simp [hw]

/-- A repository that no room names is not one that the service needs a hook on. -/
theorem not_mem_repos_of_bindings_eq_nil {s : Service} {repo : String}
    (h : s.bindings repo = []) : Text.asciiLower repo ∉ s.repos := by
  intro hm
  obtain ⟨hw, -⟩ := asciiLower_mem_repos.mp hm
  exact (bindings_eq_nil_iff_not_mem_repos hw).mp h hm

end Service

end WebhookRelay
