import WebhookRelay.Proofs.Signatures
import WebhookRelay.Text.Ascii
import Mathlib.Data.List.TakeWhile

/-!
# Which signatures are accepted

A header is accepted as the signature of a body just when it is `sha256=` and 64 digits that spell the
keyed hash of the body, in either letter case and with or without blanks around them
(`Signature.check_exact`). So a digest from which digits are missing, or to which some were added, is
never accepted, whatever the digits are.

Neither half of this mentions how a header is read. What trimming leaves of a text is said by
`Text.Trimmed`, with the blanks that were taken off; and a text is read as some bytes just when, letter
case apart, it is the text of these bytes (`Hex.decode_eq_some_iff`).
-/

namespace WebhookRelay

/-! ## Blanks -/

namespace Text

/-- Whether a text has no blank at either end. -/
structure Bare (text : List Char) : Prop where
  first : ∀ c ∈ text.head?, blank c = false
  last : ∀ c ∈ text.getLast?, blank c = false

/-- Whether a text is what is left of another one without the blanks around it. -/
def Trimmed (whole text : List Char) : Prop :=
  ∃ before after, whole = before ++ text ++ after ∧ (∀ c ∈ before, blank c = true) ∧
    (∀ c ∈ after, blank c = true) ∧ Bare text

theorem dropWhile_blank {before text : List Char} (hbefore : ∀ c ∈ before, blank c = true)
    (htext : ∀ c ∈ text.head?, blank c = false) : (before ++ text).dropWhile blank = text := by
  rw [List.dropWhile_append_of_pos hbefore]
  cases text with
  | nil => rfl
  | cons c cs => exact List.dropWhile_cons_of_neg (Bool.eq_false_iff.mp (htext c rfl))

theorem head?_dropWhile_blank (text : List Char) :
    ∀ c ∈ (text.dropWhile blank).head?, blank c = false := by
  intro c hc
  have hnot := List.head?_dropWhile_not blank text
  rw [hc] at hnot
  simpa using hnot

/-- A text is blanks, what trimming leaves of it, and blanks. -/
theorem trimmed_trim (whole : List Char) : Trimmed whole (trim whole) := by
  have hfirst := head?_dropWhile_blank whole
  have hwhole : whole.takeWhile blank ++ whole.dropWhile blank = whole :=
    List.takeWhile_append_dropWhile
  rw [trim, dropEndWhile]
  generalize whole.dropWhile blank = middle at hfirst hwhole
  have hmiddle : (middle.reverse.dropWhile blank).reverse ++
      (middle.reverse.takeWhile blank).reverse = middle := by
    rw [← List.reverse_append, List.takeWhile_append_dropWhile, List.reverse_reverse]
  refine ⟨whole.takeWhile blank, (middle.reverse.takeWhile blank).reverse, ?_,
    fun c hc => List.mem_takeWhile_imp hc,
    fun c hc => List.mem_takeWhile_imp (List.mem_reverse.mp hc), fun c hc => ?_, ?_⟩
  · rw [List.append_assoc, hmiddle, hwhole]
  · refine hfirst c ?_
    rw [← hmiddle, List.head?_append, hc]
    rfl
  · rw [List.getLast?_reverse]
    exact head?_dropWhile_blank _

/-- Trimming takes off the blanks around a text, and nothing else. -/
theorem trim_eq_iff {whole text : List Char} : trim whole = text ↔ Trimmed whole text := by
  constructor
  · rintro rfl
    exact trimmed_trim whole
  · rintro ⟨before, after, rfl, hbefore, hafter, hfirst, hlast⟩
    have hend : ((text ++ after).reverse.dropWhile blank).reverse = text := by
      rw [List.reverse_append, dropWhile_blank (by simpa using hafter), List.reverse_reverse]
      rwa [List.head?_reverse]
    rw [trim, dropEndWhile, List.append_assoc]
    rcases text with _ | ⟨c, cs⟩
    · -- there are only blanks, and the front takes them all
      have hall : ∀ c ∈ before ++ ([] ++ after), blank c = true := fun c hc =>
        (List.mem_append.mp hc).elim (hbefore c) (hafter c)
      rw [List.dropWhile_eq_nil_iff.mpr hall]
      rfl
    · rw [dropWhile_blank hbefore (by simpa using hfirst), hend]

end Text

/-! ## Digits -/

namespace Hex

/-- Whether a character is a hexadecimal digit, of either letter case. -/
def isDigit (c : Char) : Bool :=
  ('0' ≤ c && c ≤ '9') || ('a' ≤ c && c ≤ 'f') || ('A' ≤ c && c ≤ 'F')

/-- The digits are what has a value. -/
theorem isSome_value? (c : Char) : (value? c).isSome = isDigit c := by
  have hle : ∀ a b : Char, a ≤ b ↔ a.toNat ≤ b.toNat := fun a b => UInt32.le_iff_toNat_le
  rw [Bool.eq_iff_iff]
  simp only [value?, isDigit, hle, Bool.or_eq_true, Bool.and_eq_true, decide_eq_true_eq]
  split
  · simp_all
  · split
    · simp_all
    · split
      · simp_all
      · simp_all

theorem value?_toLower (c : Char) : value? c.toLower = value? c := by
  simp only [value?, Text.toNat_toLower]
  grind

theorem toNat_digit : ∀ n : Fin 16,
    (digit n).toNat = if n.val < 10 then 0x30 + n.val else 0x61 + (n.val - 10) := by
  decide

/-- A character has the value of a digit just when, letter case apart, it is that digit. -/
theorem value?_eq_some_iff {c : Char} {n : Nat} :
    value? c = some n ↔ n < 16 ∧ c.toLower = digit n := by
  constructor
  · intro h
    simp only [value?] at h
    have hn : n < 16 := by grind
    refine ⟨hn, ?_⟩
    rw [← Char.toNat_inj, Text.toNat_toLower, toNat_digit ⟨n, hn⟩]
    grind
  · rintro ⟨hn, hc⟩
    rw [← value?_toLower, hc]
    exact value?_digit ⟨n, hn⟩

variable {a b : Char} {rest : List Char}

theorem decode_cons_cons_ne_nil : decode (a :: b :: rest) ≠ some [] := by
  rw [decode]
  split <;> simp

/-- Two digits are read as the byte of which they are the halves. -/
theorem decode_cons_cons_eq_some_iff {byte : UInt8} {more : Bytes} :
    decode (a :: b :: rest) = some (byte :: more) ↔ value? a = some (byte.toNat / 16) ∧
      value? b = some (byte.toNat % 16) ∧ decode rest = some more := by
  rw [decode]
  split
  · next x y more' ha hb hr =>
    have hx := (value?_eq_some_iff.mp ha).1
    have hy := (value?_eq_some_iff.mp hb).1
    have hbyte : (UInt8.ofNat (16 * x + y)).toNat = 16 * x + y := by
      rw [UInt8.toNat_ofNat']
      omega
    rw [ha, hb, hr]
    constructor
    · rintro ⟨⟩
      rw [hbyte, show (16 * x + y) / 16 = x by omega, show (16 * x + y) % 16 = y by omega]
      exact ⟨rfl, rfl, rfl⟩
    · rintro ⟨⟨⟩, ⟨⟩, ⟨⟩⟩
      rw [Nat.div_add_mod, UInt8.ofNat_toNat]
  · next hnot =>
    refine iff_of_false (Option.some_ne_none _).symm ?_
    rintro ⟨ha, hb, hr⟩
    exact hnot _ _ _ ha hb hr

/-- A text is read as some bytes just when, letter case apart, it is the text of these bytes. -/
theorem decode_eq_some_iff : ∀ {text : List Char} {bytes : Bytes},
    decode text = some bytes ↔ text.map Char.toLower = encode bytes
  | [], [] | [], _ :: _ | [_], [] | [_], _ :: _ => by simp [decode, encode]
  | a :: b :: rest, [] => by simp [decode_cons_cons_ne_nil, encode]
  | a :: b :: rest, byte :: more => by
    have hbyte : byte.toNat < 256 := byte.toNat_lt
    have hhigh : byte.toNat / 16 < 16 := by omega
    have hlow : byte.toNat % 16 < 16 := by omega
    have ih : decode rest = some more ↔ rest.map Char.toLower = encode more := decode_eq_some_iff
    simp [decode_cons_cons_eq_some_iff, value?_eq_some_iff, encode, hhigh, hlow, ih]

/-- Whether a text is an even number of digits and nothing else. -/
structure WellFormed (text : List Char) : Prop where
  even : text.length % 2 = 0
  digits : ∀ c ∈ text, isDigit c = true

/-- A text is read as bytes just when it is well-formed. -/
theorem isSome_decode_iff : ∀ {text : List Char}, (decode text).isSome = true ↔ WellFormed text
  | [] => iff_of_true rfl ⟨rfl, nofun⟩
  | [_] => iff_of_false nofun fun h => Nat.one_ne_zero h.even
  | a :: b :: rest => by
    have ih : (decode rest).isSome = true ↔ WellFormed rest := isSome_decode_iff
    have hlength : (a :: b :: rest).length % 2 = rest.length % 2 := by
      simp only [List.length_cons]
      omega
    have hdecode : (decode (a :: b :: rest)).isSome =
        ((value? a).isSome && (value? b).isSome && (decode rest).isSome) := by
      rw [decode]
      cases value? a <;> cases value? b <;> cases decode rest <;> rfl
    rw [hdecode, isSome_value?, isSome_value?, Bool.and_eq_true, Bool.and_eq_true, ih]
    constructor
    · rintro ⟨⟨ha, hb⟩, heven, hrest⟩
      exact ⟨hlength.trans heven,
        List.forall_mem_cons.mpr ⟨ha, List.forall_mem_cons.mpr ⟨hb, hrest⟩⟩⟩
    · rintro ⟨heven, hall⟩
      obtain ⟨ha, hall⟩ := List.forall_mem_cons.mp hall
      obtain ⟨hb, hrest⟩ := List.forall_mem_cons.mp hall
      exact ⟨⟨ha, hb⟩, hlength.symm.trans heven, hrest⟩

/-- Each byte is written with two digits. -/
theorem length_encode (bytes : Bytes) : (encode bytes).length = 2 * bytes.length := by
  induction bytes with
  | nil => rfl
  | cons b rest ih =>
    simp only [encode, List.length_cons, ih]
    omega

end Hex

/-! ## Signatures -/

namespace Signature

variable {secret value : String} {body : Bytes} {digits : List Char}

/-- Whether a header is `sha256=` and some digits behind it, blanks around the whole apart. -/
def Carries (value : String) (digits : List Char) : Prop :=
  Text.Trimmed value.toList (scheme.toList ++ digits)

/-- Whether digits, in either letter case, spell the keyed hash of a body. -/
def Spells (digits : List Char) (secret : String) (body : Bytes) : Prop :=
  digits.map Char.toLower = Hex.encode (Digest.hmac (Utf8.encode secret) body)

theorem carries_iff : Carries value digits ↔
    Text.dropStart? scheme.toList (Text.trim value.toList) = some digits := by
  rw [Text.dropStart?_eq_some_iff, Text.trim_eq_iff, Carries]

/-- A header carries nothing besides its digits. -/
theorem Carries.eq {digits' : List Char} (h : Carries value digits) (h' : Carries value digits') :
    digits' = digits :=
  Option.some.inj ((carries_iff.mp h').symm.trans (carries_iff.mp h))

/-- A keyed hash has 32 bytes, so 64 digits spell it. -/
theorem Spells.length_eq (h : Spells digits secret body) : digits.length = 64 := by
  have hlength := congrArg List.length h
  rwa [List.length_map, Hex.length_encode, Digest.length_hmac] at hlength

theorem check_of_spells (h : Carries value digits) (hs : Spells digits secret body) :
    check secret value body = .ok () := by
  simp only [check, carries_iff.mp h, Hex.decode_eq_some_iff.mpr hs, if_true]

theorem check_of_not_spells (h : Carries value digits) (hw : Hex.WellFormed digits)
    (hs : ¬Spells digits secret body) : check secret value body = .error .mismatch := by
  obtain ⟨digest, hd⟩ := Option.isSome_iff_exists.mp (Hex.isSome_decode_iff.mpr hw)
  have hne : digest ≠ Digest.hmac (Utf8.encode secret) body := by
    rintro rfl
    exact hs (Hex.decode_eq_some_iff.mp hd)
  simp only [check, carries_iff.mp h, hd, if_neg hne]

theorem check_of_not_wellFormed (h : ¬∃ digits, Carries value digits ∧ Hex.WellFormed digits) :
    check secret value body = .error .format := by
  rcases hd : Text.dropStart? scheme.toList (Text.trim value.toList) with _ | digits
  · simp only [check, hd]
  · have hnone : Hex.decode digits = none := Option.not_isSome_iff_eq_none.mp fun hs =>
      h ⟨digits, carries_iff.mpr hd, Hex.isSome_decode_iff.mp hs⟩
    simp only [check, hd, hnone]

/-- What a header can be found to be, and what it carries then. -/
inductive Judged (secret value : String) (body : Bytes) : Except Fault Unit → Prop where
  /-- it carries the keyed hash -/
  | accepted {digits : List Char} (hc : Carries value digits) (hs : Spells digits secret body) :
      Judged secret value body (.ok ())
  /-- it does not carry an even number of digits -/
  | malformed (h : ¬∃ digits, Carries value digits ∧ Hex.WellFormed digits) :
      Judged secret value body (.error .format)
  /-- it carries an even number of digits, but not the keyed hash -/
  | wrong {digits : List Char} (hc : Carries value digits) (hw : Hex.WellFormed digits)
      (hs : ¬Spells digits secret body) : Judged secret value body (.error .mismatch)

theorem judged_check (secret value : String) (body : Bytes) :
    Judged secret value body (check secret value body) := by
  by_cases hwell : ∃ digits, Carries value digits ∧ Hex.WellFormed digits
  · obtain ⟨digits, hc, hw⟩ := hwell
    by_cases hs : Spells digits secret body
    · rw [check_of_spells hc hs]
      exact .accepted hc hs
    · rw [check_of_not_spells hc hw hs]
      exact .wrong hc hw hs
  · rw [check_of_not_wellFormed hwell]
    exact .malformed hwell

/-- **Which signatures are accepted.** A header comes with a body. It is accepted just when it carries
64 digits that spell the keyed hash of the body. It is found to be no signature just when it does not
carry an even number of digits, and a wrong one in all other cases, that is, when it carries an even
number of digits that do not spell the hash. So the header that was made for the body is accepted, and
one with fewer digits or more never is. -/
theorem check_exact (secret value : String) (body : Bytes) :
    (check secret value body = .ok () ↔
      ∃ digits, Carries value digits ∧ digits.length = 64 ∧ Spells digits secret body) ∧
    (check secret value body = .error .format ↔
      ¬∃ digits, Carries value digits ∧ Hex.WellFormed digits) ∧
    (check secret value body = .error .mismatch ↔
      ∃ digits, Carries value digits ∧ Hex.WellFormed digits ∧ ¬Spells digits secret body) ∧
    check secret (header secret body) body = .ok () ∧
    ∀ digits, Carries value digits → digits.length ≠ 64 → check secret value body ≠ .ok () := by
  have hjudged := judged_check secret value body
  refine ⟨⟨fun h => ?_, fun ⟨_, hc, _, hs⟩ => check_of_spells hc hs⟩,
    ⟨fun h => ?_, check_of_not_wellFormed⟩,
    ⟨fun h => ?_, fun ⟨_, hc, hw, hs⟩ => check_of_not_spells hc hw hs⟩, ?_,
    fun digits hc hlength h => ?_⟩
  · rw [h] at hjudged
    cases hjudged with
    | accepted hc hs => exact ⟨_, hc, hs.length_eq, hs⟩
  · rw [h] at hjudged
    cases hjudged with
    | malformed hnot => exact hnot
  · rw [h] at hjudged
    cases hjudged with
    | wrong hc hw hs => exact ⟨_, hc, hw, hs⟩
  · rw [check_header, if_pos rfl]
  · rw [h] at hjudged
    cases hjudged with
    | accepted hc' hs => exact hlength (hc.eq hc' ▸ hs.length_eq)

end Signature

end WebhookRelay
