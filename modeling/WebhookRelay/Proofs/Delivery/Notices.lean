import Mathlib.Data.List.Forall2
import WebhookRelay.Delivery.Notice

/-!
# Notices about pushes

A notice about a push is a headline, a line for each of the first three commits, and a line that counts
the others if there are any (`Payload.toList_push`). So it says how many commits there are, shows no
more of a push than that, and has as many lines as it should (`Payload.excerpt_of_push`).

The headline names the branch that was pushed to by what is left of the ref without `refs/heads/` at its
front. That is taken off as often as it is there (`dropStarts_eq_iff`), and so the branch is named just
when its own name does not begin with it (`Payload.named_if_plain`).
-/

namespace WebhookRelay

namespace Text

/-! ## First lines -/

/-- What the first line of a text is. A line feed ends it, with the carriage return that may stand
before the line feed. -/
inductive FirstLine : List Char → List Char → Prop where
  | whole {text : List Char} (h : '\n' ∉ text) : FirstLine text text
  | fed {line rest : List Char} (h : '\n' ∉ line) (hlast : line.getLast? ≠ some '\r') :
      FirstLine (line ++ '\n' :: rest) line
  | returned {line rest : List Char} (h : '\n' ∉ line) :
      FirstLine (line ++ '\r' :: '\n' :: rest) line

theorem FirstLine.not_mem {text line : List Char} (h : FirstLine text line) : '\n' ∉ line := by
  cases h with
  | whole h | fed h | returned h => exact h

/-- Whether two texts differ in nothing up to the end of the first line. -/
def SameFirstLine (a b : List Char) : Prop :=
  a = b ∨ ∃ line rest rest', '\n' ∉ line ∧ a = line ++ '\n' :: rest ∧ b = line ++ '\n' :: rest'

/-! ## Repeated starts -/

/-- Whether a text is what is left of another one without the copies of `start` at its front. -/
def Stripped (start text rest : List Char) : Prop :=
  ∃ copies, text = (List.replicate copies start).flatten ++ rest ∧ ¬start <+: rest

variable {start text rest : List Char}

theorem stripped_self_iff : Stripped start text text ↔ ¬start <+: text :=
  ⟨fun ⟨_, _, h⟩ => h, fun h => ⟨0, rfl, h⟩⟩

theorem Stripped.append (h : Stripped start text rest) : Stripped start (start ++ text) rest := by
  obtain ⟨copies, rfl, hrest⟩ := h
  refine ⟨copies + 1, ?_, hrest⟩
  rw [List.replicate_succ, List.flatten_cons, List.append_assoc]

end Text

namespace Delivery

open Text

/-! ## What is shown of a commit -/

theorem firstLine_of_not_mem {text : String} (h : '\n' ∉ text.toList) : firstLine text = text := by
  rw [firstLine, cutAtFirst_of_not_mem h]

theorem firstLine_of_append {text : String} {line rest : List Char} (h : '\n' ∉ line)
    (htext : text.toList = line ++ '\n' :: rest) :
    firstLine text = String.ofList (if line.getLast? = some '\r' then line.dropLast else line) := by
  rw [firstLine, htext, cutAtFirst_append h]

theorem firstLine_spec (text : String) : FirstLine text.toList (firstLine text).toList := by
  by_cases hfeed : '\n' ∈ text.toList
  · obtain ⟨line, rest, htext, hline⟩ := List.eq_append_cons_of_mem hfeed
    rw [firstLine_of_append hline htext, htext, String.toList_ofList]
    split
    · next hlast =>
      -- what comes before the carriage return is the line
      have hsplit : line.dropLast ++ ['\r'] = line := List.dropLast_append_getLast? _ hlast
      have hdrop : '\n' ∉ line.dropLast := fun hm => hline (List.dropLast_sublist line |>.mem hm)
      have hreturned := @FirstLine.returned _ rest hdrop
      rwa [← List.singleton_append, ← List.append_assoc, hsplit] at hreturned
    · next hlast => exact .fed hline hlast
  · rw [firstLine_of_not_mem hfeed]
    exact .whole hfeed

theorem firstLine_congr {a b : String} (h : SameFirstLine a.toList b.toList) :
    firstLine a = firstLine b := by
  rcases h with h | ⟨line, rest, rest', hline, ha, hb⟩
  · rw [String.toList_inj.mp h]
  · rw [firstLine_of_append hline ha, firstLine_of_append hline hb]

/-- The line about a commit, without the line feed before it. -/
def Commit.shown (c : Commit) : List Char :=
  c.id.toList.take 7 ++ [':', ' '] ++ (firstLine c.message).toList

/-- Whether a line tells of a commit: by up to seven characters of the id and the first line of the
message. -/
def Commit.ToldBy (c : Commit) (line : List Char) : Prop :=
  ∃ summary, FirstLine c.message.toList summary ∧ line = c.id.toList.take 7 ++ [':', ' '] ++ summary

theorem Commit.toldBy_shown (c : Commit) : c.ToldBy c.shown := ⟨_, firstLine_spec _, rfl⟩

/-- Whether two commits differ in nothing but the id behind its seventh character and the message
behind its first line. -/
structure Commit.Resembles (c d : Commit) : Prop where
  id : c.id.toList.take 7 = d.id.toList.take 7
  message : SameFirstLine c.message.toList d.message.toList

theorem Commit.Resembles.shown_eq {c d : Commit} (h : c.Resembles d) : c.shown = d.shown := by
  rw [shown, shown, h.id, firstLine_congr h.message]

/-! ## The branch that is named -/

section

variable {start text rest : List Char} {n : Nat}

theorem stripped_dropStarts (hstart : start ≠ []) (hn : text.length ≤ n) :
    Stripped start text (dropStarts start n text) := by
  -- a copy is not empty, so the text gets shorter with each one that is dropped
  induction n generalizing text with
  | zero =>
    obtain rfl := List.eq_nil_of_length_eq_zero (Nat.le_zero.mp hn)
    exact stripped_self_iff.mpr fun h => hstart (List.prefix_nil.mp h)
  | succ n ih =>
    rw [dropStarts]
    split
    · next after h =>
      obtain rfl := dropStart?_eq_some_iff.mp h
      have hpos := List.length_pos_of_ne_nil hstart
      rw [List.length_append] at hn
      exact (ih (by omega)).append
    · next h => exact stripped_self_iff.mpr (dropStart?_eq_none_iff.mp h)

theorem dropStarts_of_stripped (hstart : start ≠ []) (hn : text.length ≤ n)
    (h : Stripped start text rest) : dropStarts start n text = rest := by
  obtain ⟨copies, rfl, hrest⟩ := h
  induction copies generalizing n with
  | zero =>
    cases n with
    | zero => rfl
    | succ n =>
      rw [List.replicate_zero, List.flatten_nil, List.nil_append, dropStarts,
        dropStart?_eq_none_iff.mpr hrest]
  | succ copies ih =>
    have hpos := List.length_pos_of_ne_nil hstart
    rw [List.replicate_succ, List.flatten_cons, List.append_assoc] at hn ⊢
    rw [List.length_append] at hn
    cases n with
    | zero => omega
    | succ n =>
      rw [dropStarts, dropStart?_eq_some_iff.mpr rfl]
      exact ih (by omega)

/-- All copies are dropped if there is time for it, and nothing else is. -/
theorem dropStarts_eq_iff (hstart : start ≠ []) (hn : text.length ≤ n) :
    dropStarts start n text = rest ↔ Stripped start text rest := by
  constructor
  · rintro rfl
    exact stripped_dropStarts hstart hn
  · exact dropStarts_of_stripped hstart hn

end

theorem branchOf_eq_iff {ref name : String} :
    branchOf ref = name ↔ Stripped branchStart.toList ref.toList name.toList := by
  rw [← dropStarts_eq_iff (by decide) (Nat.le_refl _), ← String.toList_inj, branchOf,
    String.toList_ofList]

/-- Another copy of the start makes no difference. -/
theorem branchOf_append (branch : String) : branchOf (branchStart ++ branch) = branchOf branch := by
  rw [branchOf_eq_iff, String.toList_append]
  exact (branchOf_eq_iff.mp rfl).append

/-- No line feed comes with the name of a branch. -/
theorem not_mem_branchOf {ref : String} {c : Char} (h : c ∉ ref.toList) :
    c ∉ (branchOf ref).toList := by
  obtain ⟨copies, href, -⟩ := branchOf_eq_iff.mp (rfl : branchOf ref = branchOf ref)
  intro hm
  exact h (href ▸ List.mem_append_right _ hm)

namespace Payload

variable {p q : Payload}

/-! ## The parts of a notice -/

/-- The first line of the notice about a push. -/
def headline (p : Payload) : String :=
  p.pushHeadline (p.repoFullName.getD "unknown/unknown") p.senderLogin

/-- What the headline says before the branch: where it was, who pushed, and how much. -/
def opening (p : Payload) : String :=
  "[" ++ p.repoFullName.getD "unknown/unknown" ++ "] " ++ p.senderLogin ++ " pushed " ++
    toString p.commits.length ++ " " ++
    (if p.commits.length = 1 then "commit" else "commits") ++ " to "

/-- What the headline names as the branch. -/
def destination (p : Payload) : String := (p.ref.map branchOf).getD "?"

/-- What the headline says behind the branch. -/
def link (p : Payload) : String := (p.compare.map (": " ++ ·)).getD ""

theorem headline_eq (p : Payload) : p.headline = p.opening ++ p.destination ++ p.link := by
  simp only [headline, pushHeadline, opening, destination, link, String.append_assoc]
  rfl

/-- The lines about commits. -/
def told (p : Payload) : List (List Char) := (p.commits.take 3).map Commit.shown

/-- The line about the commits that are not listed, if there are any. -/
def remark (p : Payload) : List (List Char) :=
  if 3 < p.commits.length then [s!"... and {p.commits.length - 3} more".toList] else []

/-- All lines of the notice about a push. -/
def lines (p : Payload) : List (List Char) := p.headline.toList :: (p.told ++ p.remark)

theorem toList_commitLine (c : Commit) : (commitLine c).toList = '\n' :: c.shown := by
  have hline : commitLine c =
      "\n" ++ String.ofList (c.id.toList.take 7) ++ ": " ++ firstLine c.message := rfl
  rw [hline]
  simp [Commit.shown]

theorem toList_moreLine (p : Payload) : p.moreLine.toList = p.remark.flatMap ('\n' :: ·) := by
  rw [moreLine, remark, listedCommits]
  split
  · rw [List.flatMap_cons, List.flatMap_nil, List.append_nil]
    simp only [String.toList_append]
    rfl
  · rfl

/-- **The notice about a push is its lines**, with line feeds between them. -/
theorem toList_push (p : Payload) : (p.notice "push").body.toList = glue '\n' p.lines := by
  have hbody : (p.notice "push").body =
      p.headline ++ String.join ((p.commits.take 3).map commitLine) ++ p.moreLine := rfl
  rw [hbody, lines, glue_cons, String.toList_append, String.toList_append, String.toList_join,
    toList_moreLine, List.flatMap_append, List.append_assoc, told, List.flatMap_map,
    List.flatMap_map]
  simp only [toList_commitLine]

theorem length_lines (p : Payload) : p.lines.length =
    1 + min 3 p.commits.length + if 3 < p.commits.length then 1 else 0 := by
  have hremark : p.remark.length = if 3 < p.commits.length then 1 else 0 := by
    rw [remark]
    split
    · rfl
    · rfl
  rw [lines, List.length_cons, List.length_append, hremark, told, List.length_map, List.length_take]
  omega

/-! ### What the parts depend on -/

/-- Whether two payloads differ in nothing that a notice about a push shows: in no field but the
commits, of which there are as many, and in nothing that is shown of the first three. -/
structure Resembles (p q : Payload) : Prop where
  others : { p with commits := [] } = { q with commits := [] }
  count : p.commits.length = q.commits.length
  listed : List.Forall₂ Commit.Resembles (p.commits.take 3) (q.commits.take 3)

theorem Resembles.headline_eq (h : p.Resembles q) : p.headline = q.headline := by
  obtain ⟨hothers, hcount, -⟩ := h
  obtain ⟨hrepository, hsender, -, href, -, hcompare, -⟩ := Payload.mk.inj hothers
  simp only [headline, pushHeadline, repoFullName, senderLogin, hrepository, hsender, href, hcompare,
    hcount]

theorem Resembles.told_eq (h : p.Resembles q) : p.told = q.told := by
  rw [told, told, ← List.forall₂_eq_eq_eq, List.forall₂_map_left_iff, List.forall₂_map_right_iff]
  exact h.listed.imp fun _ _ hcommits => hcommits.shown_eq

theorem Resembles.lines_eq (h : p.Resembles q) : p.lines = q.lines := by
  rw [lines, lines, h.headline_eq, h.told_eq, remark, remark, h.count]

/-! ### Line feeds -/

/-- Whether there is no line feed in what a notice about a push shows, messages apart. -/
structure Unbroken (p : Payload) : Prop where
  repo : ∀ name ∈ p.repoFullName, '\n' ∉ name.toList
  sender : '\n' ∉ p.senderLogin.toList
  ref : ∀ ref ∈ p.ref, '\n' ∉ ref.toList
  compare : ∀ url ∈ p.compare, '\n' ∉ url.toList
  ids : ∀ c ∈ p.commits, '\n' ∉ c.id.toList.take 7

theorem newline_not_mem_toString (n : Nat) : '\n' ∉ (toString n).toList := fun h =>
  Bool.false_ne_true (isDigit_of_mem_toString h)

theorem Unbroken.not_mem_headline (h : p.Unbroken) : '\n' ∉ p.headline.toList := by
  have hrepo : '\n' ∉ (p.repoFullName.getD "unknown/unknown").toList := by
    cases hname : p.repoFullName with
    | none => decide
    | some name => exact h.repo name hname
  have hdestination : '\n' ∉ p.destination.toList := by
    rw [destination]
    cases href : p.ref with
    | none => decide
    | some ref => exact not_mem_branchOf (h.ref ref href)
  have hlink : '\n' ∉ p.link.toList := by
    rw [link]
    cases hurl : p.compare with
    | none => decide
    | some url => simpa using h.compare url hurl
  have hopening : '\n' ∉ p.opening.toList := by
    have hcount := newline_not_mem_toString p.commits.length
    have hnoun : '\n' ∉ (if p.commits.length = 1 then "commit" else "commits").toList := by
      split
      · decide
      · decide
    simp only [opening, String.toList_append, List.mem_append, not_or, and_assoc]
    exact ⟨by decide, hrepo, by decide, h.sender, by decide, hcount, by decide, hnoun, by decide⟩
  rw [headline_eq, String.toList_append, String.toList_append]
  simp [hopening, hdestination, hlink]

theorem Unbroken.not_mem_lines (h : p.Unbroken) : ∀ line ∈ p.lines, '\n' ∉ line := by
  have htold : ∀ line ∈ p.told, '\n' ∉ line := by
    intro line hline
    obtain ⟨c, hc, rfl⟩ := List.mem_map.mp hline
    have hid := h.ids c (List.mem_of_mem_take hc)
    have hmessage := (firstLine_spec c.message).not_mem
    simp [Commit.shown, hid, hmessage]
  have hremark : ∀ line ∈ p.remark, '\n' ∉ line := by
    intro line hline
    rw [remark] at hline
    split at hline
    · obtain rfl := List.mem_singleton.mp hline
      have hmore := newline_not_mem_toString (p.commits.length - 3)
      simp only [String.toList_append, List.mem_append, not_or, and_assoc]
      exact ⟨by decide, hmore, by decide⟩
    · exact absurd hline List.not_mem_nil
  intro line hline
  rcases List.mem_cons.mp hline with rfl | hline
  · exact h.not_mem_headline
  · rcases List.mem_append.mp hline with hline | hline
    · exact htold line hline
    · exact hremark line hline

/-- The lines of the notice can be told from each other. -/
theorem Unbroken.pieces_push (h : p.Unbroken) :
    pieces '\n' (p.notice "push").body.toList = p.lines := by
  rw [toList_push]
  exact pieces_glue (List.cons_ne_nil _ _) h.not_mem_lines

/-- **A notice about a push is a bounded excerpt of it.** It is the headline, which says how many
commits there are, one line for each of the first three commits in order, which tells of it by seven
characters of its id and the first line of its message, and a line that counts the other commits just
if there are any. Payloads that differ in nothing of this have the same notice. And unless a line feed
comes with the names or the ids, the notice has that many lines. -/
theorem excerpt_of_push (p : Payload) :
    (∃ told, told.length = min 3 p.commits.length ∧
      List.Forall₂ Commit.ToldBy (p.commits.take 3) told ∧
      (p.notice "push").body.toList = glue '\n' (p.headline.toList :: (told ++ p.remark))) ∧
    p.headline = p.opening ++ p.destination ++ p.link ∧
    (∀ q, p.Resembles q → (p.notice "push").body = (q.notice "push").body) ∧
    (p.Unbroken → (pieces '\n' (p.notice "push").body.toList).length =
      1 + min 3 p.commits.length + if 3 < p.commits.length then 1 else 0) := by
  refine ⟨⟨p.told, ?_, ?_, p.toList_push⟩, p.headline_eq, fun q hq => ?_, fun h => ?_⟩
  · rw [told, List.length_map, List.length_take]
  · rw [told, List.forall₂_map_right_iff]
    exact List.forall₂_same.mpr fun c _ => c.toldBy_shown
  · rw [← String.toList_inj, toList_push, toList_push, hq.lines_eq]
  · rw [h.pieces_push, length_lines]

/-- A push of four commits; what is not shown of them is the same text throughout. -/
def pushOfFour (hidden : String) : Payload where
  repository := some ⟨"acme/widgets", none⟩
  ref := some "refs/heads/dev"
  commits := [⟨"0123456" ++ hidden, "Fix\r\n" ++ hidden⟩, ⟨"c1", ""⟩, ⟨"c2", "m\n" ++ hidden⟩,
    ⟨hidden, hidden⟩]

theorem resembles_pushOfFour (a b : String) : (pushOfFour a).Resembles (pushOfFour b) where
  others := rfl
  count := rfl
  listed := by
    refine .cons ⟨?_, .inr ⟨['F', 'i', 'x', '\r'], a.toList, b.toList, by decide, ?_, ?_⟩⟩
      (.cons ⟨rfl, .inl rfl⟩
        (.cons ⟨rfl, .inr ⟨['m'], a.toList, b.toList, by decide, ?_, ?_⟩⟩ .nil))
    all_goals simp

/-- Its notice has five lines, whatever is hidden. -/
theorem excerpt_of_push_four :
    ((pushOfFour "x").notice "push").body = ((pushOfFour "a\nb").notice "push").body ∧
      (pieces '\n' ((pushOfFour "x").notice "push").body.toList).length = 5 := by
  obtain ⟨-, -, hsame, hlength⟩ := excerpt_of_push (pushOfFour "x")
  refine ⟨hsame _ (resembles_pushOfFour "x" "a\nb"), hlength ?_⟩
  constructor
  case repo => decide
  case sender => decide
  case ref => decide
  case compare => decide
  case ids => decide

example : ((pushOfFour "x").notice "push").body =
    "[acme/widgets] someone pushed 4 commits to dev\n0123456: Fix\nc1: \nc2: m\n... and 1 more" := by
  decide

/-! ## The branch that is pushed to -/

/-- Whether the headline says that the push went to a branch. -/
def Announces (p : Payload) (branch : String) : Prop := p.headline = p.opening ++ branch ++ p.link

theorem announces_iff {name : String} : p.Announces name ↔ p.destination = name := by
  rw [Announces, headline_eq, ← String.toList_inj]
  simp only [String.toList_append, List.append_cancel_right_eq, List.append_cancel_left_eq,
    String.toList_inj]

/-- What the notice about a push says behind the branch. -/
def remainder (p : Payload) : List Char := p.link.toList ++ (p.told ++ p.remark).flatMap ('\n' :: ·)

/-- The branch stands between what does not depend on it. -/
theorem toList_push_eq (p : Payload) : (p.notice "push").body.toList =
    p.opening.toList ++ p.destination.toList ++ p.remainder := by
  rw [toList_push, lines, glue_cons, headline_eq, String.toList_append, String.toList_append,
    remainder, List.append_assoc]

/-- Pushes to two branches have the same notice just when the branches have the same name there. -/
theorem notice_push_eq_iff {branch other : String} (h : p.ref = some (branchStart ++ branch)) :
    p.notice "push" = { p with ref := some (branchStart ++ other) }.notice "push" ↔
      branchOf branch = branchOf other := by
  have hdestination : p.destination = branchOf branch := by
    rw [destination, h]
    exact branchOf_append branch
  have hbody : p.notice "push" = { p with ref := some (branchStart ++ other) }.notice "push" ↔
      (p.notice "push").body.toList =
        ({ p with ref := some (branchStart ++ other) }.notice "push").body.toList := by
    rw [String.toList_inj]
    exact ⟨congrArg Message.body, congrArg Message.notice⟩
  have hother : ({ p with ref := some (branchStart ++ other) }.notice "push").body.toList =
      p.opening.toList ++ (branchOf other).toList ++ p.remainder := by
    rw [← branchOf_append]
    exact toList_push_eq _
  rw [hbody, hother, toList_push_eq, hdestination, List.append_cancel_right_eq,
    List.append_cancel_left_eq, String.toList_inj]

/-- **A branch is named if its name does not begin like a ref.** Of a push to a branch, the headline says
that it went to what is left of the name of the branch without the copies of `refs/heads/` at its front;
so it names the branch just when there is none. Pushes to two branches that differ in nothing else have
the same notice just when the same is left of both names. So they have different notices if the branches
are different and nothing is left out of either name. -/
theorem named_if_plain {branch : String} (h : p.ref = some (branchStart ++ branch)) :
    (∀ name, p.Announces name ↔ Stripped branchStart.toList branch.toList name.toList) ∧
    (p.Announces branch ↔ ¬branchStart.toList <+: branch.toList) ∧
    (∀ other, p.notice "push" = { p with ref := some (branchStart ++ other) }.notice "push" ↔
      ∀ name : String, Stripped branchStart.toList branch.toList name.toList ↔
        Stripped branchStart.toList other.toList name.toList) ∧
    (¬branchStart.toList <+: branch.toList → ∀ other, ¬branchStart.toList <+: other.toList →
      branch ≠ other →
        p.notice "push" ≠ { p with ref := some (branchStart ++ other) }.notice "push") := by
  have hnames : ∀ name,
      p.Announces name ↔ Stripped branchStart.toList branch.toList name.toList := by
    intro name
    rw [announces_iff, destination, h, ← branchOf_eq_iff, ← branchOf_append]
    rfl
  refine ⟨hnames, (hnames branch).trans stripped_self_iff, fun other => ?_, ?_⟩
  · simp only [notice_push_eq_iff h, ← branchOf_eq_iff]
    constructor
    · intro heq name
      rw [heq]
    · intro hall
      exact (hall (branchOf other)).mpr rfl
  · intro hbranch other hother hne heq
    rw [notice_push_eq_iff h, branchOf_eq_iff.mpr (stripped_self_iff.mpr hbranch),
      branchOf_eq_iff.mpr (stripped_self_iff.mpr hother)] at heq
    exact hne heq

/-- A push to a branch, of which nothing else is known. -/
def pushTo (branch : String) : Payload := { ref := some (branchStart ++ branch) }

/-- A branch with slashes in its name is announced, and not taken for another one. -/
theorem named_if_plain_slashes : (pushTo "fix/refs/heads/x").Announces "fix/refs/heads/x" ∧
    (pushTo "fix/refs/heads/x").notice "push" ≠ (pushTo "x").notice "push" := by
  obtain ⟨-, hplain, -, hdifferent⟩ :=
    @named_if_plain (pushTo "fix/refs/heads/x") "fix/refs/heads/x" rfl
  exact ⟨hplain.mpr (by decide), hdifferent (by decide) "x" (by decide) (by decide)⟩

/-- A branch whose name begins like a ref is not announced, and has the notice of another branch. -/
theorem misnamed :
    (pushTo "refs/heads/main").ref = some ("refs/heads/" ++ "refs/heads/main") ∧
    ¬(pushTo "refs/heads/main").Announces "refs/heads/main" ∧
    "refs/heads/main" ≠ "main" ∧
    (pushTo "refs/heads/main").notice "push" = (pushTo "main").notice "push" := by
  refine ⟨rfl, ?_, by decide, by decide⟩
  rw [announces_iff]
  decide

end Payload

end Delivery

end WebhookRelay
