import WebhookRelay.Proofs.Acceptance
import WebhookRelay.Proofs.Rest.Pages

/-!
# Where requests go

The URL of a request is that of an interface with segments added to it. Cut at slashes and with the
escapes read, what was added is what was asked for, as long as each segment is kept (`Url.Kept`). A
segment of one or two dots is passed over, and tabs and ends of lines vanish from a segment, so that
it is taken for another one, or for dots. The URL is the right one just when all segments are kept
(`Rest.addressed_if_kept`), and two repositories may have one URL (`Rest.addressed_astray`).

That no lost segment is made up for by another is a matter of counting slashes. A segment adds one
slash at most, and those that were added stand behind the folder unless there are fewer slashes than
segments (`Url.foldl_push_cases`).
-/

namespace WebhookRelay

/-! ## Escapes -/

theorem Utf8.encodeChars_inj {a b : List Char} : encodeChars a = encodeChars b ↔ a = b := by
  refine ⟨fun h => ?_, fun h => h ▸ rfl⟩
  have hmap : a.map some = b.map some := by rw [← decode_encodeChars, h, decode_encodeChars]
  exact List.map_injective_iff.mpr (Option.some_injective Char) hmap

theorem Utf8.encode_inj {s t : String} : encode s = encode t ↔ s = t :=
  encodeChars_inj.trans String.toList_inj

namespace Http.Percent

variable {reserved : Char → Bool}

theorem value?_upperDigit : ∀ n : Fin 16, Hex.value? (upperDigit n) = some n.val := by decide

theorem slash_ne_upperDigit : ∀ n : Fin 16, '/' ≠ upperDigit n := by decide

theorem decode_escape (b : UInt8) (rest : List Char) :
    decode (escape b ++ rest) = b :: decode rest := by
  have hb : b.toNat < 256 := b.toNat_lt
  have hhigh := value?_upperDigit ⟨b.toNat / 16, by omega⟩
  have hlow := value?_upperDigit ⟨b.toNat % 16, by omega⟩
  rw [escape, List.cons_append, List.cons_append, List.cons_append, List.nil_append, decode, hhigh,
    hlow]
  simp only [Nat.div_add_mod, UInt8.ofNat_toNat]

theorem decode_flatMap_escape (bytes : Bytes) (rest : List Char) :
    decode (bytes.flatMap escape ++ rest) = bytes ++ decode rest := by
  induction bytes with
  | nil => rfl
  | cons b more ih => rw [List.flatMap_cons, List.append_assoc, decode_escape, ih, List.cons_append]

/-- A character that is no percent sign stands for itself. -/
theorem decode_cons {c : Char} (hc : c ≠ '%') (rest : List Char) :
    decode (c :: rest) = Utf8.encodeChar c ++ decode rest := by
  rw [decode]
  rintro a b more rfl
  exact absurd rfl hc

/-- What was escaped is read back, if percent signs were. -/
theorem decode_encode (hr : reserved '%' = true) (cs : List Char) :
    decode (encode reserved cs) = Utf8.encodeChars cs := by
  induction cs with
  | nil => rfl
  | cons c rest ih =>
    rw [encode, List.flatMap_cons, Utf8.encodeChars_cons, ← ih, encodeChar]
    split
    · exact decode_flatMap_escape _ _
    · next hc => exact decode_cons (by rintro rfl; exact hc hr) _

/-- No slash is left in what was escaped, if slashes were. -/
theorem slash_not_mem_encode (hr : reserved '/' = true) (cs : List Char) :
    '/' ∉ encode reserved cs := by
  rw [encode, List.mem_flatMap]
  rintro ⟨c, -, hc⟩
  rw [encodeChar] at hc
  split at hc
  · obtain ⟨b, -, hb⟩ := List.mem_flatMap.mp hc
    have hlt : b.toNat < 256 := b.toNat_lt
    have hhigh := slash_ne_upperDigit ⟨b.toNat / 16, by omega⟩
    have hlow := slash_ne_upperDigit ⟨b.toNat % 16, by omega⟩
    simp [escape, hhigh, hlow] at hb
  · next hnot =>
    obtain rfl := List.mem_singleton.mp hc
    exact hnot hr

end Http.Percent

/-! ## Slashes -/

namespace Url

open Http Text

/-- How many slashes there are in the text of a path. -/
def slashes (path : List (List Char)) : Nat := (Path.segments path).print.count '/'

@[simp] theorem print_append (p q : List (List Char)) :
    (Path.segments (p ++ q)).print = (Path.segments p).print ++ (Path.segments q).print :=
  List.flatMap_append

@[simp] theorem slashes_append (p q : List (List Char)) :
    slashes (p ++ q) = slashes p + slashes q := by
  simp [slashes]

@[simp] theorem slashes_singleton (x : List Char) : slashes [x] = x.count '/' + 1 := by
  simp [slashes, Path.print]

theorem slashes_of_not_mem {x : List Char} (h : '/' ∉ x) : slashes [x] = 1 := by
  rw [slashes_singleton, List.count_eq_zero.mpr h]

/-- A path is written as a slash and its segments with slashes between them. -/
theorem print_cons (x : List Char) (xs : List (List Char)) :
    (Path.segments (x :: xs)).print = '/' :: glue '/' (x :: xs) := by
  induction xs generalizing x with
  | nil => simp [Path.print, glue]
  | cons y ys ih =>
    have hprint : (Path.segments (x :: y :: ys)).print =
        '/' :: x ++ (Path.segments (y :: ys)).print := rfl
    rw [hprint, ih]
    rfl

theorem slashes_above (p : List (List Char)) : above p = p ∨ slashes (above p) + 1 ≤ slashes p := by
  rw [above]
  split
  · exact .inl rfl
  · rcases List.eq_nil_or_concat p with rfl | ⟨q, x, rfl⟩
    · exact .inl rfl
    · right
      simp only [List.concat_eq_append, List.dropLast_concat, slashes_append, slashes_singleton]
      omega

/-- Adding a last segment: there are no more slashes than before, or it comes behind the others, or
an empty one does. -/
theorem addLast_cases (p : List (List Char)) (x : List Char) :
    slashes (addLast p x) ≤ slashes p ∨ addLast p x = p ++ [[]] ∨ addLast p x = p ++ [x] := by
  rw [addLast]
  split
  · rcases slashes_above p with h | h
    · exact .inr (.inl (by rw [h]))
    · exact .inl (by simpa using h)
  · split
    · exact .inr (.inl rfl)
    · exact .inr (.inr rfl)

/-! ## Dots -/

/-- A dot may be escaped, and is read as a dot all the same. -/
theorem decode_dot {x more : List Char}
    (h : x.map Char.toLower = '.' :: more ∨ x.map Char.toLower = '%' :: '2' :: 'e' :: more) :
    ∃ rest, rest.map Char.toLower = more ∧ Percent.decode x = 0x2E :: Percent.decode rest := by
  rcases h with h | h
  · obtain ⟨c, rest, rfl, hc, hrest⟩ := List.map_eq_cons_iff.mp h
    obtain rfl := eq_of_toLower hc (by decide)
    exact ⟨rest, hrest, Percent.decode_cons (by decide) rest⟩
  · obtain ⟨c, x, rfl, hc, h⟩ := List.map_eq_cons_iff.mp h
    obtain ⟨a, x, rfl, ha, h⟩ := List.map_eq_cons_iff.mp h
    obtain ⟨b, rest, rfl, hb, hrest⟩ := List.map_eq_cons_iff.mp h
    obtain rfl := eq_of_toLower hc (by decide)
    have ha : Hex.value? a = some 2 := Hex.value?_eq_some_iff.mpr ⟨by decide, ha⟩
    have hb : Hex.value? b = some 14 := Hex.value?_eq_some_iff.mpr ⟨by decide, hb⟩
    refine ⟨rest, hrest, ?_⟩
    rw [Percent.decode, ha, hb]
    rfl

theorem decode_of_isDot {x : List Char} (h : isDot x = true) :
    Percent.decode x = Utf8.encodeChars ['.'] := by
  simp only [isDot, List.contains_eq_mem, List.mem_cons, List.not_mem_nil, or_false,
    decide_eq_true_eq] at h
  obtain ⟨rest, hrest, hx⟩ := decode_dot h
  rw [hx, List.map_eq_nil_iff.mp hrest]
  rfl

theorem decode_of_isDotDot {x : List Char} (h : isDotDot x = true) :
    Percent.decode x = Utf8.encodeChars ['.', '.'] := by
  simp only [isDotDot, List.contains_eq_mem, List.mem_cons, List.not_mem_nil, or_false,
    decide_eq_true_eq] at h
  have hdots : ∃ more, (x.map Char.toLower = '.' :: more ∨
      x.map Char.toLower = '%' :: '2' :: 'e' :: more) ∧
        (more = ['.'] ∨ more = ['%', '2', 'e']) := by
    rcases h with h | h | h | h
    · exact ⟨_, .inl h, .inl rfl⟩
    · exact ⟨_, .inl h, .inr rfl⟩
    · exact ⟨_, .inr h, .inl rfl⟩
    · exact ⟨_, .inr h, .inr rfl⟩
  obtain ⟨more, hfirst, hsecond⟩ := hdots
  obtain ⟨y, rfl, hx⟩ := decode_dot hfirst
  obtain ⟨rest, hrest, hy⟩ := decode_dot hsecond
  rw [hx, hy, List.map_eq_nil_iff.mp hrest]
  rfl

/-! ## Segments that are kept -/

/-- Whether a segment is added to a path as it is. -/
@[mk_iff]
structure Kept (segment : List Char) : Prop where
  not_dot : segment ≠ ['.']
  not_dots : segment ≠ ['.', '.']
  lasts : ∀ c ∈ segment, vanishes c = false

instance (segment : List Char) : Decidable (Kept segment) :=
  decidable_of_iff
    (segment ≠ ['.'] ∧ segment ≠ ['.', '.'] ∧ segment.all (!vanishes ·) = true)
    (by simp [kept_iff])

variable {web : Bool} {p : List (List Char)} {s : List Char}

/-- A segment as it is written. -/
def written (web : Bool) (s : List Char) : List Char := Percent.encode (reservedInSegment web) s

theorem decode_written (web : Bool) (s : List Char) :
    Percent.decode (written web s) = Utf8.encodeChars s := by
  cases web <;> exact Percent.decode_encode (by decide) s

theorem slash_not_mem_written (web : Bool) (s : List Char) : '/' ∉ written web s := by
  cases web <;> exact Percent.slash_not_mem_encode (by decide) s

theorem slashes_written (web : Bool) (s : List Char) : slashes [written web s] = 1 :=
  slashes_of_not_mem (slash_not_mem_written web s)

theorem written_ne_nil (h : s ≠ []) : written web s ≠ [] := by
  intro hw
  have hdecode := decode_written web s
  rw [hw] at hdecode
  exact h (Utf8.encodeChars_inj.mp hdecode.symm)

/-- Escaping makes no dots of what is none. -/
theorem eq_of_isDot_written (h : isDot (written web s) = true) : s = ['.'] :=
  Utf8.encodeChars_inj.mp ((decode_written web s).symm.trans (decode_of_isDot h))

theorem eq_of_isDotDot_written (h : isDotDot (written web s) = true) : s = ['.', '.'] :=
  Utf8.encodeChars_inj.mp ((decode_written web s).symm.trans (decode_of_isDotDot h))

theorem filter_eq_self_of_kept (h : Kept s) : s.filter (!vanishes ·) = s :=
  List.filter_eq_self.mpr fun c hc => by rw [h.lasts c hc]; rfl

/-- A segment that is kept comes behind the others, or stands for them if they are nothing but a
slash. -/
theorem push_of_kept (h : Kept s) (p : List (List Char)) :
    push web p s = (if p = [[]] then [] else p) ++ [written web s] := by
  have hdots : ¬isDotDot (written web s) = true := fun hd => h.not_dots (eq_of_isDotDot_written hd)
  have hdot : ¬isDot (written web s) = true := fun hd => h.not_dot (eq_of_isDot_written hd)
  rw [push, if_neg (by simp [h.not_dot, h.not_dots]), filter_eq_self_of_kept h]
  change addLast _ (written web s) = _
  rw [addLast, if_neg hdots, if_neg hdot]

/-- What is written for a segment that is not kept is read as another one. -/
theorem encodeChars_filter_ne (h : ¬Kept s) (hdot : s ≠ ['.']) (hdots : s ≠ ['.', '.']) :
    Utf8.encodeChars (s.filter (!vanishes ·)) ≠ Utf8.encodeChars s := by
  intro he
  refine h ⟨hdot, hdots, fun c hc => ?_⟩
  have hall := List.filter_eq_self.mp (Utf8.encodeChars_inj.mp he) c hc
  simpa using hall

/-- Pushing a segment: there are no more slashes than before, or a segment comes behind the others
that is read as what was pushed just when that is kept. -/
theorem push_cases (web : Bool) (p : List (List Char)) (s : List Char) :
    (slashes (push web p s) ≤ slashes p ∧ (Kept s → p = [[]])) ∨
      ∃ x, push web p s = p ++ [x] ∧ '/' ∉ x ∧
        (Percent.decode x = Utf8.encodeChars s ↔ Kept s) := by
  by_cases hp : p = [[]]
  · -- the slash gives its place away, and nothing that takes it has more than one
    subst hp
    refine .inl ⟨?_, fun _ => rfl⟩
    rw [push, if_pos rfl]
    split
    · exact Nat.le_refl _
    · rcases addLast_cases [] (written web (s.filter (!vanishes ·))) with h | h | h
      · exact Nat.le_trans h (by decide)
      · exact h ▸ by decide
      · exact Nat.le_of_eq ((congrArg slashes h).trans (slashes_written web _))
  by_cases hk : Kept s
  · refine .inr ⟨written web s, ?_, slash_not_mem_written web s, ?_⟩
    · rw [push_of_kept hk, if_neg hp]
    · exact iff_of_true (decode_written web s) hk
  · rw [push, if_neg hp]
    split
    · exact .inl ⟨Nat.le_refl _, fun h => absurd h hk⟩
    · next hdots =>
      obtain ⟨hdot, hdots⟩ : s ≠ ['.'] ∧ s ≠ ['.', '.'] := by simpa using hdots
      have hne := encodeChars_filter_ne hk hdot hdots
      rcases addLast_cases p (written web (s.filter (!vanishes ·))) with h | h | h
      · exact .inl ⟨h, fun h => absurd h hk⟩
      · refine .inr ⟨[], h, List.not_mem_nil, iff_of_false (fun he => hne ?_) hk⟩
        -- only the empty segment has no bytes, and nothing vanishes from that
        have hs : s = [] := (Utf8.encodeChars_inj (a := [])).mp he |>.symm
        rw [hs]
        rfl
      · refine .inr ⟨_, h, slash_not_mem_written web _, iff_of_false (fun he => hne ?_) hk⟩
        rw [← he, decode_written]

/-- Each segment that is pushed adds one slash at most. -/
theorem slashes_foldl_push_le (web : Bool) (segments : List (List Char)) (p : List (List Char)) :
    slashes (segments.foldl (push web) p) ≤ slashes p + segments.length := by
  induction segments generalizing p with
  | nil => exact Nat.le_refl _
  | cons s rest ih =>
    have hrest := ih (push web p s)
    rw [List.foldl_cons, List.length_cons]
    rcases push_cases web p s with ⟨h, -⟩ | ⟨x, h, hx, -⟩
    · omega
    · rw [h, slashes_append, slashes_of_not_mem hx] at hrest
      rw [h]
      omega

/-- Pushing segments: one of them is not kept and fewer slashes are added than segments, or segments
come behind the others that are read as what was pushed just when all of it is kept. -/
theorem foldl_push_cases (web : Bool) (segments : List (List Char)) {p : List (List Char)}
    (hp : p ≠ [] ∧ p ≠ [[]]) :
    (slashes (segments.foldl (push web) p) < slashes p + segments.length ∧
        ¬∀ s ∈ segments, Kept s) ∨
      ∃ xs, segments.foldl (push web) p = p ++ xs ∧ (∀ x ∈ xs, '/' ∉ x) ∧
        (xs.map Percent.decode = segments.map Utf8.encodeChars ↔ ∀ s ∈ segments, Kept s) := by
  induction segments generalizing p with
  | nil => exact .inr ⟨[], (List.append_nil p).symm, nofun, iff_of_true rfl nofun⟩
  | cons s rest ih =>
    rw [List.foldl_cons, List.length_cons]
    rcases push_cases web p s with ⟨h, hk⟩ | ⟨x, h, hx, hk⟩
    · have hrest := slashes_foldl_push_le web rest (push web p s)
      exact .inl ⟨by omega, fun hall => hp.2 (hk (hall s List.mem_cons_self))⟩
    · have hne : p ++ [x] ≠ [] ∧ p ++ [x] ≠ [[]] :=
        ⟨by simp, fun he => hp.1 (List.append_eq_singleton_iff.mp he |>.elim (·.1) (nomatch ·.2))⟩
      rw [h]
      rcases ih hne with ⟨hlt, hnot⟩ | ⟨xs, hxs, hslash, hiff⟩
      · rw [slashes_append, slashes_of_not_mem hx] at hlt
        exact .inl ⟨by omega, fun hall => hnot (List.forall_mem_cons.mp hall).2⟩
      · refine .inr ⟨x :: xs, ?_, List.forall_mem_cons.mpr ⟨hx, hslash⟩, ?_⟩
        · rw [hxs, List.append_assoc, List.singleton_append]
        · rw [List.map_cons, List.map_cons, List.cons.injEq, hk, hiff, List.forall_mem_cons]

/-! ## What a URL addresses -/

/-- The folder that segments are added to: a path without the empty segment at its end. -/
def Path.folder : Path → Path
  | .segments ss => .segments (if dropEmptyEnd ss = [[]] then [] else dropEmptyEnd ss)
  | .plain text => .plain text

/-- Whether a URL addresses segments below another one: what stands in its path behind the folder
there, cut at slashes and with the escapes read, is these segments. -/
def Addresses (base url : Url) (segments : List String) : Prop :=
  ∃ rest, url.path.print = base.path.folder.print ++ '/' :: rest ∧
    (pieces '/' rest).map Percent.decode = segments.map Utf8.encode

/-- Nothing is addressed by two names. -/
theorem Addresses.segments_eq {base url : Url} {segments others : List String}
    (h : base.Addresses url segments) (h' : base.Addresses url others) : segments = others := by
  obtain ⟨rest, hprint, hrest⟩ := h
  obtain ⟨rest', hprint', hrest'⟩ := h'
  obtain rfl : rest = rest' := by simpa using hprint.symm.trans hprint'
  exact List.map_injective_iff.mpr (fun _ _ => Utf8.encode_inj.mp) (hrest.symm.trans hrest')

section Below

variable {base url : Url} {folder path : List (List Char)} {segments : List String}

/-- Behind the folder there is a slash for each segment. -/
theorem Addresses.slashes_eq (h : base.Addresses url segments)
    (hbase : base.path.folder = .segments folder) (hurl : url.path = .segments path) :
    slashes path = slashes folder + segments.length := by
  obtain ⟨rest, hprint, hrest⟩ := h
  rw [hbase, hurl] at hprint
  have hlength := congrArg List.length hrest
  rw [List.length_map, length_pieces, List.length_map] at hlength
  rw [slashes, hprint, List.count_append, List.count_cons_self, hlength, slashes]

/-- Of segments without slashes, those behind the folder are what a URL addresses. -/
theorem addresses_iff {x : List Char} {xs : List (List Char)}
    (hbase : base.path.folder = .segments folder) (hurl : url.path = .segments (folder ++ x :: xs))
    (hslash : ∀ y ∈ x :: xs, '/' ∉ y) :
    base.Addresses url segments ↔
      (x :: xs).map Percent.decode = segments.map Utf8.encode := by
  have hpieces : pieces '/' (glue '/' (x :: xs)) = x :: xs :=
    pieces_glue (List.cons_ne_nil x xs) hslash
  rw [Addresses, hbase, hurl, print_append, print_cons]
  constructor
  · rintro ⟨rest, hprint, hrest⟩
    obtain rfl : glue '/' (x :: xs) = rest := by simpa using hprint
    rwa [hpieces] at hrest
  · intro h
    exact ⟨glue '/' (x :: xs), rfl, by rwa [hpieces]⟩

/-- Segments that are added to a URL are what the new URL addresses just when they are kept. The
first of them is one that the interface itself names. -/
theorem extend_addresses (hbase : base.path = .segments path) {first : String}
    (hfirst : Kept first.toList) (hne : first ≠ "") (rest : List String) :
    ∃ url, base.extend ((first :: rest).map String.toList) = some url ∧
      (base.Addresses url (first :: rest) ↔ ∀ s ∈ rest, Kept s.toList) := by
  obtain ⟨folder, hfolder, hpush⟩ : ∃ folder, base.path.folder = .segments folder ∧
      push (isWeb base.scheme) (dropEmptyEnd path) first.toList =
        folder ++ [written (isWeb base.scheme) first.toList] :=
    ⟨_, by rw [hbase, Path.folder], push_of_kept hfirst _⟩
  refine ⟨_, by rw [extend, hbase], ?_⟩
  rw [List.map_cons, List.foldl_cons, hpush]
  generalize isWeb base.scheme = web
  have hwritten : written web first.toList ≠ [] := written_ne_nil (by simpa using hne)
  have hp : folder ++ [written web first.toList] ≠ [] ∧
      folder ++ [written web first.toList] ≠ [[]] :=
    ⟨by simp, fun h => hwritten (by simpa using congrArg List.getLast? h)⟩
  rw [← List.forall_mem_map (P := Kept)]
  rcases foldl_push_cases web (rest.map String.toList) hp with ⟨hlt, hnot⟩ | ⟨xs, hxs, hslash, hiff⟩
  · refine iff_of_false (fun h => ?_) hnot
    have heq := h.slashes_eq hfolder rfl
    rw [slashes_append, slashes_written, List.length_map] at hlt
    rw [List.length_cons] at heq
    omega
  · have hall : ∀ x ∈ written web first.toList :: xs, '/' ∉ x :=
      List.forall_mem_cons.mpr ⟨slash_not_mem_written web _, hslash⟩
    have hurl : folder ++ [written web first.toList] ++ xs =
        folder ++ written web first.toList :: xs := by simp
    have hdecode : Percent.decode (written web first.toList) = Utf8.encode first :=
      decode_written web _
    rw [← hiff, addresses_iff hfolder (by rw [hxs, hurl]) hall, List.map_cons, List.map_cons,
      List.cons.injEq, and_iff_right hdecode, List.map_map]
    rfl

end Below

/-! ## Interfaces -/

/-- Whether a text is a URL of the web, as that of an interface is. -/
structure IsBase (text : String) (u : Url) : Prop where
  reads : read text.toList = .ok u
  scheme : u.scheme = "http".toList ∨ u.scheme = "https".toList

/-- What is between the scheme and the query of a URL of the web has a path made of segments. -/
theorem segments_of_readMiddle {scheme text : List Char} {followed : Bool} {site : Option Site}
    {path : Path} (hweb : (defaultPort? scheme).isSome = true)
    (h : readMiddle scheme text followed = .ok (site, path)) : ∃ ss, path = .segments ss := by
  unfold readMiddle at h
  rw [if_pos hweb] at h
  dsimp only at h
  generalize readSite scheme _ _ = read at h
  cases read with
  | error e => cases h
  | ok r =>
    cases h
    exact ⟨_, rfl⟩

/-- The path of a URL of the web is made of segments. -/
theorem IsBase.segments {text : String} {u : Url} (h : IsBase text u) :
    ∃ ss, u.path = .segments ss := by
  obtain ⟨hread, hscheme⟩ := h
  have hweb : (defaultPort? u.scheme).isSome = true := by
    rcases hscheme with h | h <;> rw [h] <;> decide
  rw [read] at hread
  rcases hcut : cutScheme (clean text.toList) with _ | ⟨scheme, rest⟩
  · rw [hcut] at hread
    cases hread
  · rw [hcut] at hread
    dsimp only at hread
    generalize hmiddle : readMiddle scheme _ _ = middle at hread
    rcases middle with e | ⟨site, path⟩
    · cases hread
    · cases hread
      exact segments_of_readMiddle hweb hmiddle

end Url

namespace Rest

open Url

/-! ## Operations -/

/-- What is known of the URLs of an operation that is asked for in terms of `α`: each addresses what
is asked for just when that is kept, and different things that are kept have different URLs. -/
structure Addressed {α : Type} (base : Url) (segments : α → List String) (kept : α → Prop)
    (url : α → Except Failure Url) : Prop where
  exact_iff : ∀ a, ∃ u, url a = .ok u ∧ (base.Addresses u (segments a) ↔ kept a)
  distinct : ∀ a b, kept a → kept b → url a = url b → a = b

/-- The segments that are asked for where hooks are: those on a repository, or the one with a
number. -/
def HookClient.segments (asked : RepoName × Option UInt64) : List String :=
  ["repos", asked.1.owner, asked.1.name, "hooks"] ++ (asked.2.map (toString ·.toNat)).toList

/-- The segments that are asked for where a room is joined. -/
def Chat.joinSegments (room : String) : List String := ["_matrix", "client", "v3", "join", room]

/-- The segments that are asked for where a message is sent, which is told by its mark. -/
def Chat.sendSegments (asked : String × String) : List String :=
  ["_matrix", "client", "v3", "rooms", asked.1, "send", "m.room.message", asked.2]

theorem toString_injective : Function.Injective fun n : Nat => toString n := fun m n h => by
  have hdigits : Nat.toDigits 10 m = Nat.toDigits 10 n := by
    rw [← Nat.toList_repr, ← Nat.toList_repr]
    exact congrArg String.toList h
  rw [← Nat.ofDigitChars_ten_toDigits (n := m), hdigits, Nat.ofDigitChars_ten_toDigits]

theorem HookClient.segments_injective : Function.Injective HookClient.segments := by
  rintro ⟨⟨owner, name⟩, id⟩ ⟨⟨owner', name'⟩, id'⟩ h
  obtain ⟨rfl, rfl, hid⟩ : owner = owner' ∧ name = name' ∧
      (id.map (toString ·.toNat)).toList = (id'.map (toString ·.toNat)).toList := by
    simpa [segments] using h
  have hnumber : Function.Injective fun n : UInt64 => toString n.toNat := fun m n hmn =>
    UInt64.toNat_inj.mp (toString_injective hmn)
  have hids := congrArg List.head? hid
  rw [Option.head?_toList, Option.head?_toList] at hids
  rw [Option.map_injective hnumber hids]

theorem Chat.joinSegments_injective : Function.Injective Chat.joinSegments := by
  intro room room' h
  simpa [joinSegments] using h

theorem Chat.sendSegments_injective : Function.Injective Chat.sendSegments := by
  rintro ⟨room, mark⟩ ⟨room', mark'⟩ h
  simpa [sendSegments] using h

/-- Numbers are kept. -/
theorem kept_toString (n : Nat) : Kept (toString n).toList := by
  have hdigits : ∀ c ∈ (toString n).toList, c.isDigit = true := fun _ =>
    Text.isDigit_of_mem_toString
  have hdot : '.' ∉ (toString n).toList := fun hm => nomatch hdigits '.' hm
  refine ⟨fun h => hdot (h ▸ List.mem_cons_self), fun h => hdot (h ▸ List.mem_cons_self),
    fun c hc => ?_⟩
  rw [Bool.eq_false_iff]
  intro hv
  simp only [vanishes, Bool.or_eq_true, decide_eq_true_eq] at hv
  rcases hv with (rfl | rfl) | rfl <;> cases hdigits _ hc

/-- The segments of hooks are kept if those of the repository are. -/
theorem HookClient.kept_segments (asked : RepoName × Option UInt64) :
    (∀ s ∈ segments asked, Kept s.toList) ↔
      Kept asked.1.owner.toList ∧ Kept asked.1.name.toList := by
  obtain ⟨⟨owner, name⟩, id⟩ := asked
  have hnumber : ∀ s ∈ (id.map (toString ·.toNat)).toList, Kept s.toList := by
    intro s hs
    obtain ⟨n, -, rfl⟩ := Option.map_eq_some_iff.mp (Option.mem_toList.mp hs)
    exact kept_toString _
  have hrepos : Kept "repos".toList := by decide
  have hhooks : ∀ s ∈ ["hooks"], Kept s.toList := by decide
  rw [segments, List.forall_mem_append, and_iff_left hnumber, List.forall_mem_cons,
    and_iff_right hrepos, List.forall_mem_cons, List.forall_mem_cons, and_iff_left hhooks]

theorem Chat.kept_joinSegments (room : String) :
    (∀ s ∈ joinSegments room, Kept s.toList) ↔ Kept room.toList := by
  have hnames : ∀ s ∈ ["_matrix", "client", "v3", "join"], Kept s.toList := by decide
  have hsplit : joinSegments room = ["_matrix", "client", "v3", "join"] ++ [room] := rfl
  rw [hsplit, List.forall_mem_append, and_iff_right hnames, List.forall_mem_singleton]

theorem Chat.kept_sendSegments (asked : String × String) :
    (∀ s ∈ sendSegments asked, Kept s.toList) ↔ Kept asked.1.toList ∧ Kept asked.2.toList := by
  obtain ⟨room, mark⟩ := asked
  have hnames : ∀ s ∈ ["_matrix", "client", "v3", "rooms"], Kept s.toList := by decide
  have hsend : ∀ s ∈ ["send", "m.room.message"], Kept s.toList := by decide
  have hsplit : sendSegments (room, mark) =
      ["_matrix", "client", "v3", "rooms"] ++ room :: (["send", "m.room.message"] ++ [mark]) := rfl
  rw [hsplit, List.forall_mem_append, and_iff_right hnames, List.forall_mem_cons,
    List.forall_mem_append, and_iff_right hsend, List.forall_mem_singleton]

/-- The URLs of an operation are those of an interface with segments added, the first of which is
always the same. -/
theorem Addressed.of_extend {α : Type} {text : String} {base : Url} {segments : α → List String}
    {kept : α → Prop} {url : α → Except Failure Url} (h : IsBase text base) (first : String)
    (hfirst : Kept first.toList ∧ first ≠ "") (hhead : ∀ a, (segments a).head? = some first)
    (hinj : Function.Injective segments) (hkept : ∀ a, (∀ s ∈ segments a, Kept s.toList) ↔ kept a)
    (hurl : ∀ a u, base.extend ((segments a).map String.toList) = some u → url a = .ok u) :
    Addressed base segments kept url := by
  obtain ⟨ss, hss⟩ := h.segments
  have hexact : ∀ a, ∃ u, url a = .ok u ∧ (base.Addresses u (segments a) ↔ kept a) := by
    intro a
    obtain ⟨rest, hrest⟩ := List.head?_eq_some_iff.mp (hhead a)
    obtain ⟨u, hu, hiff⟩ := extend_addresses hss hfirst.1 hfirst.2 rest
    rw [← hrest] at hu hiff
    refine ⟨u, hurl a u hu, hiff.trans ?_⟩
    rw [← hkept, hrest, List.forall_mem_cons, and_iff_right hfirst.1]
  refine ⟨hexact, fun a b ha hb hab => hinj ?_⟩
  obtain ⟨u, hu, ha'⟩ := hexact a
  obtain ⟨v, hv, hb'⟩ := hexact b
  obtain rfl : u = v := Except.ok.inj (hu.symm.trans (hab.trans hv))
  exact (ha'.mpr ha).segments_eq (hb'.mpr hb)

/-- The URLs of hooks. -/
theorem HookClient.addressed {c : HookClient} {api : Url} (h : IsBase c.apiUrl api) :
    Addressed api HookClient.segments
      (fun a => Kept a.1.owner.toList ∧ Kept a.1.name.toList) fun a => c.url a.1 a.2 := by
  refine .of_extend h "repos" (by decide) (fun _ => rfl) segments_injective kept_segments
    fun a u hu => ?_
  rw [segments] at hu
  rw [url, h.reads]
  dsimp only
  rw [hu]

theorem Chat.url_of_extend {chat : ChatSettings} {home url : Url} {segments : List String}
    (h : IsBase chat.homeserverUrl home)
    (hurl : home.extend ((["_matrix", "client", "v3"] ++ segments).map String.toList) = some url) :
    Chat.url chat segments = .ok url := by
  rw [Chat.url, h.reads]
  dsimp only
  rw [hurl]

/-- The URLs by which rooms are joined. -/
theorem Chat.addressed_join {chat : ChatSettings} {home : Url}
    (h : IsBase chat.homeserverUrl home) :
    Addressed home Chat.joinSegments (fun room => Kept room.toList) (Chat.joinUrl chat) :=
  .of_extend h "_matrix" (by decide) (fun _ => rfl) joinSegments_injective kept_joinSegments
    fun _ _ hu => url_of_extend h hu

/-- The URLs by which messages are sent. -/
theorem Chat.addressed_send {chat : ChatSettings} {home : Url}
    (h : IsBase chat.homeserverUrl home) :
    Addressed home Chat.sendSegments (fun a => Kept a.1.toList ∧ Kept a.2.toList)
      fun a => Chat.sendUrl chat a.1 a.2 :=
  .of_extend h "_matrix" (by decide) (fun _ => rfl) sendSegments_injective kept_sendSegments
    fun _ _ hu => url_of_extend h hu

/-- **Requests go where they should, if the names are kept.** Below any URL of the web: the URL of
hooks addresses the repository that was asked for, and the hook of the number, just when the owner
and the name are kept; the URL by which a room is joined addresses the room just when that is kept,
and the one by which a message is sent, the room and the mark just when both are. -/
theorem addressed_if_kept {c : HookClient} {chat : ChatSettings} {api home : Url}
    (hapi : IsBase c.apiUrl api) (hhome : IsBase chat.homeserverUrl home) :
    Addressed api HookClient.segments (fun a => Kept a.1.owner.toList ∧ Kept a.1.name.toList)
      (fun a => c.url a.1 a.2) ∧
    Addressed home Chat.joinSegments (fun room => Kept room.toList) (Chat.joinUrl chat) ∧
    Addressed home Chat.sendSegments (fun a => Kept a.1.toList ∧ Kept a.2.toList)
      fun a => Chat.sendUrl chat a.1 a.2 :=
  ⟨HookClient.addressed hapi, Chat.addressed_join hhome, Chat.addressed_send hhome⟩

/-- The interface of the provider of the web. -/
def api : Url where
  scheme := "https".toList
  site := some { host := "api.github.com".toList }
  path := .segments [[]]

theorem isBase_api : IsBase (Server.hookClient settings "main").apiUrl api where
  reads := by rfl
  scheme := .inr rfl

/-- The chat server of the settings. -/
def home : Url where
  scheme := "http".toList
  site := some { host := "localhost".toList }
  path := .segments [[]]

theorem isBase_home : IsBase settings.chat.homeserverUrl home where
  reads := by rfl
  scheme := .inl rfl

/-- A name with a blank and an alias with a slash are addressed. -/
theorem addressed_if_kept_settings : ∃ hook join,
    (Server.hookClient settings "main").url ⟨"acme", "two words"⟩ (some 7) = .ok hook ∧
    api.Addresses hook ["repos", "acme", "two words", "hooks", "7"] ∧
    Chat.joinUrl settings.chat "#room/with slash" = .ok join ∧
    home.Addresses join ["_matrix", "client", "v3", "join", "#room/with slash"] := by
  obtain ⟨hhooks, hjoin, -⟩ := addressed_if_kept isBase_api isBase_home
  obtain ⟨hook, hhook, hook_iff⟩ := hhooks.exact_iff (⟨"acme", "two words"⟩, some 7)
  obtain ⟨join, hurl, join_iff⟩ := hjoin.exact_iff "#room/with slash"
  exact ⟨hook, join, hhook, hook_iff.mpr (by decide), hurl, join_iff.mpr (by decide)⟩

/-- Two repositories have one URL, which addresses the other of them; and a name of two dots is
missing from the URL, which is that of a repository called `hooks`. -/
theorem addressed_astray : ∃ broken whole dotted shared short,
    RepoName.parse "acme/wid\tgets" = .ok broken ∧ RepoName.parse "acme/widgets" = .ok whole ∧
    RepoName.parse "acme/.." = .ok dotted ∧ broken ≠ whole ∧
    (Server.hookClient settings "main").url broken none = .ok shared ∧
    (Server.hookClient settings "main").url whole none = .ok shared ∧
    ¬api.Addresses shared (HookClient.segments (broken, none)) ∧
    (Server.hookClient settings "main").url dotted none = .ok short ∧
    api.Addresses short ["repos", "acme", "hooks"] := by
  obtain ⟨shared, hshared, hiff⟩ :=
    (HookClient.addressed isBase_api).exact_iff (⟨"acme", "wid\tgets"⟩, none)
  refine ⟨⟨"acme", "wid\tgets"⟩, ⟨"acme", "widgets"⟩, ⟨"acme", ".."⟩, shared, _, by rfl, by rfl,
    by rfl, by decide, hshared, ?_, fun h => absurd (hiff.mp h) (by decide), by rfl, ?_⟩
  · rw [← hshared]
    rfl
  · exact ⟨"repos/acme/hooks".toList, by rfl, by rfl⟩

end Rest

end WebhookRelay
