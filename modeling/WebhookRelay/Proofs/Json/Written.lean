import WebhookRelay.Json.Decode
import WebhookRelay.Json.Print

/-!
# Reading what was written

A value that is written out is read back: the characters are cut into the tokens of the value
(`Scanner.ended_print`), and the tokens make the document that the value is (`Reading.foldl_tokens`).
So decoding what was written is decoding that document (`decode_toBytes`). Numbers are whole here, and
a word of 64 bits holds them (`Value.Readable`).

The scanner knows only from the next character that a number is over. What can be said of it behind a
value is that it has come to the end of a token, or that it will have with any character that may
stand there (`Scanner.Ended`).
-/

namespace WebhookRelay.Json

/-- Whether the numbers of a value are whole, and words of 64 bits hold them. -/
inductive Value.Readable : Value → Prop where
  | null : Value.null.Readable
  | bool (b : Bool) : (Value.bool b).Readable
  | number {n : Int} (hlow : -0x8000000000000000 ≤ n) (hhigh : n < 0x10000000000000000) :
      (Value.number (.whole n)).Readable
  | text (s : String) : (Value.text s).Readable
  | array {items : List Value} (h : ∀ v ∈ items, v.Readable) : (Value.array items).Readable
  | object {members : List (String × Value)} (h : ∀ m ∈ members, m.2.Readable) :
      (Value.object members).Readable

/-! ## What a value is written as -/

mutual

/-- The tokens of a value. -/
def Value.tokens : Value → List Token
  | .null => [.null]
  | .bool b => [.bool b]
  | .number n => [.number (some n)]
  | .text s => [.text (some s)]
  | .array items => .openArray :: itemTokens items ++ [.closeArray]
  | .object members => .openObject :: memberTokens members ++ [.closeObject]

/-- The tokens of the items of an array. -/
def itemTokens : List Value → List Token
  | [] => []
  | [v] => v.tokens
  | v :: w :: rest => v.tokens ++ .comma :: itemTokens (w :: rest)

/-- The tokens of the members of an object. -/
def memberTokens : List (String × Value) → List Token
  | [] => []
  | [(k, v)] => .text (some k) :: .colon :: v.tokens
  | (k, v) :: m :: rest =>
    .text (some k) :: .colon :: v.tokens ++ .comma :: memberTokens (m :: rest)

end

mutual

/-- The document that a value is. -/
def Value.doc : Value → Doc
  | .null => .null
  | .bool b => .bool b
  | .number n => .number (some n)
  | .text s => .text (some s)
  | .array items => .array (itemDocs items) true
  | .object members => .object (memberDocs members) true

/-- The documents that the items of an array are. -/
def itemDocs : List Value → List Doc
  | [] => []
  | v :: rest => v.doc :: itemDocs rest

/-- The members of an object as members of a document. -/
def memberDocs : List (String × Value) → List (Option String × Doc)
  | [] => []
  | (k, v) :: rest => (some k, v.doc) :: memberDocs rest

end

theorem itemDocs_eq_map (items : List Value) : itemDocs items = items.map Value.doc := by
  induction items with
  | nil => rfl
  | cons v rest ih => rw [itemDocs, ih, List.map_cons]

theorem memberDocs_eq_map (members : List (String × Value)) :
    memberDocs members = members.map fun m => (some m.1, m.2.doc) := by
  induction members with
  | nil => rfl
  | cons m rest ih => rw [memberDocs, ih, List.map_cons]

/-! ## Numbers -/

namespace NumberScan

variable {negative : Bool} {n d : Nat}

/-- A whole number that has been read, of which no digit was lost. -/
def ofNat (negative : Bool) (n : Nat) : NumberScan :=
  { position := if n = 0 then .zero else .whole, negative := negative, digits := n }

theorem digit?_digitChar (hd : d < 10) : digit? d.digitChar = some d := by
  rw [digit?, Nat.isDigit_digitChar, if_pos (decide_eq_true hd)]
  exact congrArg some (Nat.toNat_digitChar_sub_48_of_lt_ten hd)

theorem step_ofNat (negative : Bool) (hn : 0 < n) (hd : d < 10) (h : n * 10 + d < UInt64.size) :
    (ofNat negative n).step d.digitChar = .more (ofNat negative (n * 10 + d)) := by
  have hne : n * 10 + d ≠ 0 := by omega
  simp only [ofNat, if_neg (Nat.ne_of_gt hn), if_neg hne, step, digit?_digitChar hd, addWhole, fits,
    Bool.not_false, Bool.true_and, decide_eq_true h, if_true]

theorem token?_ofNat : (ofNat negative n).token? =
    some (.number (some (.ofDigits negative n))) := by
  rcases Nat.eq_zero_or_pos n with rfl | hn
  · rfl
  · rw [ofNat, if_neg (Nat.ne_of_gt hn)]
    rfl

end NumberScan

namespace Scanner

variable {s : Scanner} {done : List Token} {n : Nat}

/-- A scanner behind the minus sign of a number, or before a number that has none. -/
def signed (done : List Token) (negative : Bool) : Scanner :=
  ⟨done, if negative then .number { position := .minus, negative := true } else .between⟩

theorem step_signed {negative : Bool} {d : Nat} (hd : d < 10) :
    (signed done negative).step (some d.digitChar) = ⟨done, .number (.ofNat negative d)⟩ := by
  have hcases : ∀ d : Fin 10, (signed done negative).step (some (Nat.digitChar d)) =
      ⟨done, .number (.ofNat negative d)⟩ := by
    intro d
    cases negative with
    | false => match d with | 0 | 1 | 2 | 3 | 4 | 5 | 6 | 7 | 8 | 9 => rfl
    | true => match d with | 0 | 1 | 2 | 3 | 4 | 5 | 6 | 7 | 8 | 9 => rfl
  exact hcases ⟨d, hd⟩

/-- The digits of a natural number are read as the number. -/
theorem foldl_printNat {negative : Bool} (hn : n < UInt64.size) :
    ((printNat n).map some).foldl step (signed done negative) =
      ⟨done, .number (.ofNat negative n)⟩ := by
  induction n using Nat.strongRecOn with
  | _ n ih =>
    rw [printNat, Nat.toDigits_eq_if (by decide)]
    split
    · next hlt => exact step_signed hlt
    · next hge =>
      -- all digits but the last, and then the last
      have hmod : n % 10 < 10 := Nat.mod_lt n (by decide)
      have hsplit : n / 10 * 10 + n % 10 = n := by omega
      have hfirst := ih (n / 10) (by omega) (by omega)
      have hlast := NumberScan.step_ofNat negative (show 0 < n / 10 by omega) hmod
        (hsplit.symm ▸ hn)
      rw [printNat] at hfirst
      rw [List.map_append, List.foldl_append, hfirst]
      simp only [List.map_cons, List.map_nil, List.foldl_cons, List.foldl_nil, step, hlast, hsplit]

/-- Whether a scanner has come to the end of a token, and these are the tokens so far, last first. -/
inductive Ended : Scanner → List Token → Prop where
  | between (done : List Token) : Ended ⟨done, .between⟩ done
  | number (done : List Token) (negative : Bool) (n : Nat) : Ended
      ⟨done, .number (.ofNat negative n)⟩ (.number (some (.ofDigits negative n)) :: done)

/-- A character that may stand behind a value ends a number. -/
theorem Ended.step {s : Scanner} {done : List Token} (h : s.Ended done) {c : Char}
    (hc : c = ',' ∨ c = ']' ∨ c = '\x7d') : s.step (some c) = start done (some c) := by
  cases h with
  | between => rfl
  | number done negative n =>
    have hover : (NumberScan.ofNat negative n).step c = .over := by
      rw [NumberScan.ofNat]
      split
      · rcases hc with rfl | rfl | rfl <;> rfl
      · rcases hc with rfl | rfl | rfl <;> rfl
    simp only [Scanner.step, hover, afterNumber, NumberScan.token?_ofNat]

theorem Ended.comma {s : Scanner} {done : List Token} (h : s.Ended done) :
    s.step (some ',') = ⟨.comma :: done, .between⟩ :=
  h.step (.inl rfl)

theorem Ended.closeArray {s : Scanner} {done : List Token} (h : s.Ended done) :
    s.step (some ']') = ⟨.closeArray :: done, .between⟩ :=
  h.step (.inr (.inl rfl))

theorem Ended.closeObject {s : Scanner} {done : List Token} (h : s.Ended done) :
    s.step (some '\x7d') = ⟨.closeObject :: done, .between⟩ :=
  h.step (.inr (.inr rfl))

theorem Ended.finish {s : Scanner} {done : List Token} (h : s.Ended done) :
    s.finish = done.reverse := by
  cases h with
  | between => rfl
  | number done negative n => simp only [Scanner.finish, NumberScan.token?_ofNat]

/-- A number that a word of 64 bits holds is read back. -/
theorem ended_printNumber {i : Int} (hlow : -0x8000000000000000 ≤ i)
    (hhigh : i < 0x10000000000000000) (done : List Token) :
    (((Number.whole i).print.map some).foldl step ⟨done, .between⟩).Ended
      (.number (some (.whole i)) :: done) := by
  have hsize : i.natAbs < UInt64.size := by
    rw [UInt64.size]
    omega
  have hsign : ((if i < 0 then ['-'] else []).map some).foldl step ⟨done, .between⟩ =
      signed done (decide (i < 0)) := by
    by_cases hneg : i < 0
    · simp only [if_pos hneg, decide_eq_true hneg]
      rfl
    · simp only [if_neg hneg, decide_eq_false hneg]
      rfl
  have hvalue : Number.ofDigits (decide (i < 0)) i.natAbs = .whole i := by
    by_cases hneg : i < 0
    · have hpos : 0 < i.natAbs ∧ i.natAbs ≤ Nat.pow 2 63 := by
        show 0 < i.natAbs ∧ i.natAbs ≤ 0x8000000000000000
        omega
      simp only [Number.ofDigits, decide_eq_true hneg, hpos, decide_true, Bool.and_self, if_true]
      congr 1
      omega
    · simp only [Number.ofDigits, decide_eq_false hneg, Bool.false_eq_true, if_false]
      congr 1
      omega
  rw [Number.print, List.map_append, List.foldl_append, hsign, foldl_printNat hsize]
  have hend := Ended.number done (decide (i < 0)) i.natAbs
  rwa [hvalue] at hend

/-! ## Texts -/

/-- A character of a text is read as itself, however it is written. -/
theorem foldl_escapeChar (done : List Token) (chars : List Char) (c : Char) :
    ((escapeChar c).map some).foldl step ⟨done, .text ⟨chars, true, .none⟩⟩ =
      ⟨done, .text ⟨c :: chars, true, .none⟩⟩ := by
  unfold escapeChar
  split
  · next h => subst h; rfl
  split
  · next h => subst h; rfl
  split
  · next h => subst h; rfl
  split
  · next h => subst h; rfl
  split
  · next h => subst h; rfl
  split
  · next h => subst h; rfl
  split
  · next h => subst h; rfl
  split
  · next hctrl =>
    -- four digits, the first two of which are zeros
    have hhigh := Hex.value?_digit ⟨c.toNat / 16, by omega⟩
    have hlow := Hex.value?_digit ⟨c.toNat % 16, by omega⟩
    dsimp only at hhigh hlow
    have hunit : (0 * 16 + c.toNat / 16) * 16 + c.toNat % 16 = c.toNat := by omega
    have hpaired : ¬(0xD800 ≤ c.toNat ∧ c.toNat ≤ 0xDBFF) := by omega
    have hlone : ¬(0xDC00 ≤ c.toNat ∧ c.toNat ≤ 0xDFFF) := by omega
    show step (step ⟨done, .text ⟨chars, true, .unit none 2 0⟩⟩ (some (Hex.digit (c.toNat / 16))))
      (some (Hex.digit (c.toNat % 16))) = _
    simp only [step, TextScan.step, hhigh, hlow, hunit, TextScan.addUnit, if_neg hpaired,
      if_neg hlone, TextScan.add, Char.ofNat_toNat]
  · next hquote hslash _ _ _ _ _ hctrl =>
    simp only [List.map_cons, List.map_nil, List.foldl_cons, List.foldl_nil, step, TextScan.step,
      TextScan.plain, if_neg hctrl, TextScan.add]

/-- A text is read back. -/
theorem foldl_printText (done : List Token) (s : String) :
    ((printText s).map some).foldl step ⟨done, .between⟩ = ⟨.text (some s) :: done, .between⟩ := by
  have hchars : ∀ (cs chars : List Char),
      ((cs.flatMap escapeChar).map some).foldl step ⟨done, .text ⟨chars, true, .none⟩⟩ =
        ⟨done, .text ⟨cs.reverse ++ chars, true, .none⟩⟩ := by
    intro cs
    induction cs with
    | nil => exact fun _ => rfl
    | cons c rest ih =>
      intro chars
      rw [List.flatMap_cons, List.map_append, List.foldl_append, foldl_escapeChar, ih,
        List.reverse_cons, List.append_assoc]
      rfl
  have hopen : step ⟨done, .between⟩ (some '"') = ⟨done, .text ⟨[], true, .none⟩⟩ := rfl
  have hclose : ∀ chars, step ⟨done, .text ⟨chars, true, .none⟩⟩ (some '"') =
      ⟨.text (some (String.ofList chars.reverse)) :: done, .between⟩ := fun _ => rfl
  rw [printText, List.map_append, List.foldl_append, List.map_cons, List.foldl_cons, hopen, hchars,
    List.append_nil, List.map_cons, List.foldl_cons, hclose, List.reverse_reverse,
    String.ofList_toList]
  rfl

/-! ## Values -/

/-- Items that are read back one by one are read back with commas between them. -/
theorem ended_printItems {items : List Value}
    (h : ∀ v ∈ items, ∀ done, ((v.print.map some).foldl step ⟨done, .between⟩).Ended
      (v.tokens.reverse ++ done)) (done : List Token) :
    (((printItems items).map some).foldl step ⟨done, .between⟩).Ended
      ((itemTokens items).reverse ++ done) := by
  induction items generalizing done with
  | nil => exact .between done
  | cons v rest ih =>
    have hv := h v List.mem_cons_self done
    cases rest with
    | nil => exact hv
    | cons w rest =>
      have hrest := ih (fun u hu => h u (List.mem_cons_of_mem _ hu))
        (.comma :: (v.tokens.reverse ++ done))
      rw [printItems, itemTokens, List.map_append, List.foldl_append, List.map_cons,
        List.foldl_cons, hv.comma, List.reverse_append, List.reverse_cons,
        List.append_assoc, List.append_assoc]
      exact hrest

/-- Members whose values are read back are read back with commas between them. -/
theorem ended_printMembers {members : List (String × Value)}
    (h : ∀ m ∈ members, ∀ done, ((m.2.print.map some).foldl step ⟨done, .between⟩).Ended
      (m.2.tokens.reverse ++ done)) (done : List Token) :
    (((printMembers members).map some).foldl step ⟨done, .between⟩).Ended
      ((memberTokens members).reverse ++ done) := by
  have hcolon : ∀ done, step ⟨done, .between⟩ (some ':') = ⟨.colon :: done, .between⟩ :=
    fun _ => rfl
  induction members generalizing done with
  | nil => exact .between done
  | cons m rest ih =>
    obtain ⟨k, v⟩ := m
    have hv := h (k, v) List.mem_cons_self (.colon :: .text (some k) :: done)
    cases rest with
    | nil =>
      rw [printMembers, memberTokens, List.map_append, List.foldl_append, foldl_printText,
        List.map_cons, List.foldl_cons, hcolon, List.reverse_cons, List.reverse_cons,
        List.append_assoc, List.append_assoc]
      exact hv
    | cons w rest =>
      have hrest := ih (fun u hu => h u (List.mem_cons_of_mem _ hu))
        (.comma :: (v.tokens.reverse ++ .colon :: .text (some k) :: done))
      rw [printMembers, memberTokens, List.append_assoc, List.map_append, List.foldl_append,
        foldl_printText, List.cons_append, List.map_cons, List.foldl_cons, hcolon, List.map_append,
        List.foldl_append, List.map_cons, List.foldl_cons, hv.comma]
      simpa using hrest

/-- The characters of a value are cut into its tokens. -/
theorem ended_print {v : Value} (hv : v.Readable) (done : List Token) :
    ((v.print.map some).foldl step ⟨done, .between⟩).Ended (v.tokens.reverse ++ done) := by
  induction hv generalizing done with
  | null => exact .between _
  | bool b =>
    cases b with
    | false => exact .between _
    | true => exact .between _
  | number hlow hhigh => exact ended_printNumber hlow hhigh done
  | text s =>
    rw [Value.print, foldl_printText]
    exact .between _
  | @array items h ih =>
    have hitems := ended_printItems ih (.openArray :: done)
    have hopen : step ⟨done, .between⟩ (some '[') = ⟨.openArray :: done, .between⟩ := rfl
    rw [Value.print, List.map_append, List.foldl_append, List.map_cons, List.foldl_cons, hopen,
      List.map_cons, List.foldl_cons, hitems.closeArray]
    simpa [Value.tokens] using Ended.between _
  | @object members h ih =>
    have hmembers := ended_printMembers ih (.openObject :: done)
    have hopen : step ⟨done, .between⟩ (some '\x7b') = ⟨.openObject :: done, .between⟩ := rfl
    rw [Value.print, List.map_append, List.foldl_append, List.map_cons, List.foldl_cons, hopen,
      List.map_cons, List.foldl_cons, hmembers.closeObject]
    simpa [Value.tokens] using Ended.between _

end Scanner

/-! ## Documents -/

namespace Reading

/-- A first item does not end the array. -/
theorem foldl_firstItem (v : Value) (items : List Value) (f : Frame) (stack : List Frame) :
    (itemTokens (v :: items)).foldl step (.open (f :: stack) .firstItem) =
      (itemTokens (v :: items)).foldl step (.open (f :: stack) .value) := by
  cases items with
  | nil => cases v with | null | bool | number | text | array | object => rfl
  | cons w rest => cases v with | null | bool | number | text | array | object => rfl

/-- A first name does not end the object. -/
theorem foldl_firstName (m : String × Value) (members : List (String × Value)) (f : Frame)
    (stack : List Frame) :
    (memberTokens (m :: members)).foldl step (.open (f :: stack) .firstName) =
      (memberTokens (m :: members)).foldl step (.open (f :: stack) .name) := by
  cases members with
  | nil | cons => rfl

/-- Items that are documents one by one are so with commas between them. -/
theorem foldl_itemTokens {v : Value} {items : List Value}
    (h : ∀ u ∈ v :: items, ∀ stack,
      u.tokens.foldl step (.open stack .value) = take u.doc stack)
    (before : List Doc) (stack : List Frame) :
    (itemTokens (v :: items)).foldl step (.open (.array before :: stack) .value) =
      .open (.array ((itemDocs (v :: items)).reverse ++ before) :: stack) .afterItem := by
  induction items generalizing v before with
  | nil => exact h v List.mem_cons_self _
  | cons w rest ih =>
    have hcomma : step (take v.doc (.array before :: stack)) .comma =
        .open (.array (v.doc :: before) :: stack) .value := rfl
    have hdocs : itemDocs (v :: w :: rest) = v.doc :: itemDocs (w :: rest) := rfl
    rw [itemTokens, List.foldl_append, h v List.mem_cons_self, List.foldl_cons, hcomma,
      ih (fun u hu => h u (List.mem_cons_of_mem _ hu)), hdocs, List.reverse_cons,
      List.append_assoc]
    rfl

/-- Members whose values are documents are members of a document. -/
theorem foldl_memberTokens {m : String × Value} {members : List (String × Value)}
    (h : ∀ u ∈ m :: members, ∀ stack,
      u.2.tokens.foldl step (.open stack .value) = take u.2.doc stack)
    (before : List (Option String × Doc)) (stack : List Frame) :
    (memberTokens (m :: members)).foldl step (.open (.object before :: stack) .name) =
      .open (.object ((memberDocs (m :: members)).reverse ++ before) :: stack) .afterMember := by
  induction members generalizing m before with
  | nil => exact h m List.mem_cons_self _
  | cons w rest ih =>
    obtain ⟨k, v⟩ := m
    have hmember : (.text (some k) :: .colon :: v.tokens).foldl step
        (.open (.object before :: stack) .name) = take v.doc (.member before (some k) :: stack) :=
      h (k, v) List.mem_cons_self _
    have hcomma : step (take v.doc (.member before (some k) :: stack)) .comma =
        .open (.object ((some k, v.doc) :: before) :: stack) .name := rfl
    have hdocs : memberDocs ((k, v) :: w :: rest) = (some k, v.doc) :: memberDocs (w :: rest) := rfl
    rw [memberTokens, List.foldl_append, hmember, List.foldl_cons, hcomma,
      ih (fun u hu => h u (List.mem_cons_of_mem _ hu)), hdocs, List.reverse_cons,
      List.append_assoc]
    rfl

/-- The tokens of a value make the document that the value is. -/
theorem foldl_tokens {v : Value} (hv : v.Readable) (stack : List Frame) :
    v.tokens.foldl step (.open stack .value) = take v.doc stack := by
  induction hv generalizing stack with
  | null | bool | number | text => rfl
  | @array items h ih =>
    cases items with
    | nil => rfl
    | cons v rest =>
      have hopen : (.openArray :: itemTokens (v :: rest)).foldl step (.open stack .value) =
          (itemTokens (v :: rest)).foldl step (.open (.array [] :: stack) .firstItem) := rfl
      have hclose : ∀ docs, step (.open (.array docs :: stack) .afterItem) .closeArray =
          take (.array docs.reverse true) stack := fun _ => rfl
      rw [Value.tokens, List.foldl_append, hopen, foldl_firstItem, foldl_itemTokens ih,
        List.append_nil, List.foldl_cons, hclose, List.reverse_reverse]
      rfl
  | @object members h ih =>
    cases members with
    | nil => rfl
    | cons m rest =>
      have hopen : (.openObject :: memberTokens (m :: rest)).foldl step (.open stack .value) =
          (memberTokens (m :: rest)).foldl step (.open (.object [] :: stack) .firstName) := rfl
      have hclose : ∀ docs, step (.open (.object docs :: stack) .afterMember) .closeObject =
          take (.object docs.reverse true) stack := fun _ => rfl
      rw [Value.tokens, List.foldl_append, hopen, foldl_firstName, foldl_memberTokens ih,
        List.append_nil, List.foldl_cons, hclose, List.reverse_reverse]
      rfl

end Reading

/-- What was written is the document that the value is. -/
theorem Document.ofBytes_toBytes {v : Value} (hv : v.Readable) :
    Document.ofBytes v.toBytes = ⟨v.doc, false⟩ := by
  have hend := (Scanner.ended_print hv []).finish
  rw [List.append_nil, List.reverse_reverse] at hend
  rw [ofBytes, Value.toBytes, Utf8.decode_encodeChars, read, scan, hend, ofTokens,
    Reading.foldl_tokens hv]
  rfl

/-- Decoding what was written is decoding the document that the value is. -/
theorem decode_toBytes {α : Type} {f : Doc → Except Fault α} {v : Value} (hv : v.Readable) :
    decode f v.toBytes = f v.doc := by
  rw [decode, Document.ofBytes_toBytes hv, Document.decode]
  rcases f v.doc with e | a
  · rfl
  · rfl

end WebhookRelay.Json
