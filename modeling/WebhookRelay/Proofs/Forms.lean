import WebhookRelay.Delivery.Payload
import WebhookRelay.Proofs.Json.Shapes
import WebhookRelay.Proofs.Json.Written
import WebhookRelay.Proofs.Repositories

/-!
# Forms that are read back

What is written in JSON is read as what it was: services, hooks to be created, messages and payloads
(`Json.forms_survive`). Decoding what was written is decoding the document that a value is
(`Json.decode_toBytes`), so all that is left to show is how such documents are read. A structure is
written in full and in the order of its fields, and is then read as one that is written as an array
(`Json.record_inOrder`), field by field. A table is read entry by entry, each of which comes behind
those before it (`Json.ReadBack.table`).
-/

namespace WebhookRelay

/-! ## Tables -/

theorem Entries.put_of_not_mem {α : Type} {key : String} {value : α} {entries : List (String × α)}
    (h : key ∉ entries.map Prod.fst) : put key value entries = entries ++ [(key, value)] := by
  induction entries with
  | nil => rfl
  | cons e rest ih =>
    obtain ⟨hne, hrest⟩ := not_or.mp fun hm => h (List.mem_cons.mpr hm)
    rw [put, if_neg (Ne.symm hne), ih hrest]
    rfl

namespace Json

/-! ## Structures -/

section Structures

variable {ρ : Type} {fields : List (Field ρ)} {docs : List Doc} {start r : ρ}

/-- The members of an object that gives fields in order. -/
def inOrder (fields : List (Field ρ)) (docs : List Doc) : List (Option String × Doc) :=
  (fields.map fun f => some f.name).zip docs

/-- A field is found by its name. -/
theorem find?_field {before after : List (Field ρ)} {f : Field ρ}
    (hf : f.name ∉ before.map (·.name)) :
    (before ++ f :: after).find? (·.name = f.name) = some f := by
  have hnone : before.find? (·.name = f.name) = none :=
    List.find?_eq_none.mpr fun g hg hname =>
      hf (List.mem_map.mpr ⟨g, hg, of_decide_eq_true hname⟩)
  rw [List.find?_append, hnone, Option.none_or]
  exact List.find?_cons_of_pos (decide_eq_true rfl)

/-- The fields at the end of a structure, given in order, are read as items of an array. -/
theorem foldlM_member_inOrder (before : List (Field ρ)) {after : List (Field ρ)}
    (hn : ((before ++ after).map (·.name)).Nodup) (hl : docs.length = after.length) :
    (inOrder after docs).foldlM (Record.member (before ++ after))
        (r, (before.map (·.name)).reverse) =
      (Record.positional after docs true r).map
        fun r => (r, ((before ++ after).map (·.name)).reverse) := by
  induction after generalizing before docs r with
  | nil =>
    obtain rfl := List.eq_nil_of_length_eq_zero hl
    rw [List.append_nil]
    rfl
  | cons f fs ih =>
    obtain ⟨d, ds, rfl⟩ := List.exists_cons_of_length_eq_add_one hl
    have hf : f.name ∉ before.map (·.name) := by
      rw [List.map_append, List.map_cons, List.nodup_append] at hn
      exact fun hm => hn.2.2 _ hm _ List.mem_cons_self rfl
    have hmember : Record.member (before ++ f :: fs) (r, (before.map (·.name)).reverse)
        (some f.name, d) = (f.read d r).map (·, ((before ++ [f]).map (·.name)).reverse) := by
      rw [Record.member_of_not_mem (find?_field hf) (by simpa using hf)]
      simp
    have hfields : before ++ f :: fs = (before ++ [f]) ++ fs := by simp
    have hstep : inOrder (f :: fs) (d :: ds) = (some f.name, d) :: inOrder fs ds := rfl
    rw [hstep, List.foldlM_cons, hmember, Record.positional]
    rcases f.read d r with e | r'
    · rfl
    · show (inOrder fs ds).foldlM _ _ = Except.map _ (Record.positional fs ds true r')
      rw [hfields]
      exact ih _ (by simpa using hn) (Nat.succ.inj hl)

/-- A structure whose fields are all given in order is read as an array of them. -/
theorem record_inOrder (hn : (fields.map (·.name)).Nodup) (hl : docs.length = fields.length) :
    record fields start (.object (inOrder fields docs) true) =
      Record.positional fields docs true start := by
  have hall : (fields.any fun f => f.absence = .required && f.name ∉ fields.map (·.name)) =
      false := by
    rw [List.any_eq_false]
    intro f hf
    have hm : f.name ∈ fields.map (·.name) := List.mem_map_of_mem hf
    simp [hm]
  have hfold : (inOrder fields docs).foldlM (Record.member fields) (start, []) =
      (Record.positional fields docs true start).map fun r => (r, (fields.map (·.name)).reverse) :=
    foldlM_member_inOrder [] hn hl
  rw [record, hfold]
  rcases Record.positional fields docs true start with e | r
  · rfl
  · simp only [Except.map, bind, Except.bind, Bool.not_true, List.mem_reverse, hall]
    rfl

end Structures

/-! ## Forms -/

/-- Whether what is written in a form is read as what it was. -/
structure ReadBack {α : Type} (toJson : α → Value) (ofDoc : Doc → Except Fault α) : Prop where
  /-- the numbers in it are such that they can be read -/
  readable : ∀ a, (toJson a).Readable
  /-- the document is read as the value -/
  reads : ∀ a, ofDoc (toJson a).doc = .ok a

namespace ReadBack

variable {α : Type} {toJson : α → Value} {ofDoc : Doc → Except Fault α}

theorem decode_toBytes (h : ReadBack toJson ofDoc) (a : α) :
    decode ofDoc (toJson a).toBytes = .ok a :=
  (Json.decode_toBytes (h.readable a)).trans (h.reads a)

theorem text : ReadBack .text Doc.toText := ⟨.text, fun _ => rfl⟩

theorem bool : ReadBack .bool Doc.toBool := ⟨.bool, fun _ => rfl⟩

theorem uint64 : ReadBack (fun n => .number (.ofNat n.toNat)) Doc.toUInt64 := by
  have hlow : ∀ n : UInt64, -0x8000000000000000 ≤ (n.toNat : Int) := fun n => by omega
  refine ⟨fun n => .number (hlow n) (Int.ofNat_lt.mpr n.toNat_lt_size), fun n => ?_⟩
  have hfits : (0 ≤ (n.toNat : Int) && (n.toNat : Int) < UInt64.size) = true :=
    Bool.and_eq_true_iff.mpr ⟨decide_eq_true (Int.natCast_nonneg _),
      decide_eq_true (Int.ofNat_lt.mpr n.toNat_lt_size)⟩
  have hread : Number.toUInt64? (.ofNat n.toNat) = some n := by
    rw [Number.ofNat, Number.toUInt64?, if_pos hfits, Int.toNat_natCast, UInt64.ofNat_toNat]
  rw [Value.doc, Doc.toUInt64, hread]

/-- A list is read back item by item. -/
theorem list (h : ReadBack toJson ofDoc) :
    ReadBack (fun l => .array (l.map toJson)) (Doc.toList ofDoc) := by
  refine ⟨fun l => .array fun v hv => ?_, fun l => ?_⟩
  · obtain ⟨a, -, rfl⟩ := List.mem_map.mp hv
    exact h.readable a
  · have hitems : (l.map fun a => (toJson a).doc).mapM ofDoc = .ok l := by
      induction l with
      | nil => rfl
      | cons a rest ih =>
        rw [List.map_cons, List.mapM_cons, h.reads, ih]
        rfl
    rw [Value.doc, itemDocs_eq_map, List.map_map]
    show (List.mapM ofDoc (l.map fun a => (toJson a).doc)).bind _ = _
    rw [hitems]
    rfl

theorem texts : ReadBack .texts (Doc.toList Doc.toText) := text.list

/-- The members behind those that are in a table already come behind its entries. -/
theorem foldlM_putMember (h : ReadBack toJson ofDoc) {t u : Table α} {rest : List (String × α)}
    (hu : u.entries = t.entries ++ rest) :
    (rest.map fun e => (some e.1, (toJson e.2).doc)).foldlM (Doc.putMember ofDoc) t = .ok u := by
  induction rest generalizing t with
  | nil =>
    rw [List.append_nil] at hu
    exact congrArg Except.ok (Table.ext hu.symm)
  | cons e rest ih =>
    obtain ⟨k, v⟩ := e
    have hnew : k ∉ t.entries.map Prod.fst := by
      have hn := u.nodup
      rw [hu, List.map_append, List.map_cons, List.nodup_append] at hn
      exact fun hm => hn.2.2 _ hm _ List.mem_cons_self rfl
    have hput : Doc.putMember ofDoc t (some k, (toJson v).doc) = .ok (t.insert k v) := by
      simp only [Doc.putMember, Doc.nameOf, h.reads, bind, Except.bind]
    rw [List.map_cons, List.foldlM_cons, hput]
    have hentries : (t.insert k v).entries = t.entries ++ [(k, v)] := Entries.put_of_not_mem hnew
    refine ih ?_
    rw [hu, hentries, List.append_assoc]
    rfl

/-- A table is read back entry by entry. -/
theorem table (h : ReadBack toJson ofDoc) : ReadBack (Table.toJson toJson) (Doc.toTable ofDoc) := by
  refine ⟨fun t => .object fun m hm => ?_, fun t => ?_⟩
  · obtain ⟨e, -, rfl⟩ := List.mem_map.mp hm
    exact h.readable e.2
  · have hentries := h.foldlM_putMember (t := ∅) (u := t) rfl
    rw [Table.toJson, Value.doc, memberDocs_eq_map, List.map_map]
    show (List.foldlM (Doc.putMember ofDoc) ∅
      (t.entries.map fun e => (some e.1, (toJson e.2).doc))).bind _ = _
    rw [hentries]
    rfl

/-- A value that may be absent is read back, if it is not written as an absent one. -/
theorem option (h : ReadBack toJson ofDoc) (hnull : ∀ a, toJson a ≠ .null) :
    ReadBack (.ofOption toJson) (Doc.toOption ofDoc) := by
  refine ⟨fun o => ?_, fun o => ?_⟩
  · cases o with
    | none => exact .null
    | some a => exact h.readable a
  · cases o with
    | none => rfl
    | some a =>
      have hread : Doc.toOption ofDoc (toJson a).doc = (ofDoc (toJson a).doc).map some := by
        have hne := hnull a
        cases htoJson : toJson a with
        | null => exact absurd htoJson hne
        | bool | number | text | array | object => rfl
      rw [Value.ofOption, hread, h.reads]
      rfl

/-- A structure is read back if its fields are written in order, and each of them is read as what it
was. -/
theorem record {fields : List (Field α)} {start : α} (values : α → List Value)
    (hn : (fields.map (·.name)).Nodup)
    (hwritten : ∀ a, toJson a = .object ((fields.map (·.name)).zip (values a)))
    (hl : ∀ a, (values a).length = fields.length)
    (hreadable : ∀ a, ∀ v ∈ values a, v.Readable)
    (hreads : ∀ a, Record.positional fields ((values a).map Value.doc) true start = .ok a) :
    ReadBack toJson (Json.record fields start) := by
  refine ⟨fun a => ?_, fun a => ?_⟩
  · rw [hwritten]
    exact .object fun m hm => hreadable a m.2 (List.of_mem_zip hm).2
  · have hdocs : memberDocs ((fields.map (·.name)).zip (values a)) =
        inOrder fields ((values a).map Value.doc) := by
      have hnames : (fields.map fun f => some f.name) = (fields.map (·.name)).map some := by
        rw [List.map_map]
        rfl
      rw [memberDocs_eq_map, inOrder, hnames, List.zip_map]
      rfl
    rw [hwritten, Value.doc, hdocs, record_inOrder hn (by rw [List.length_map, hl]), hreads]

end ReadBack

end Json

open Json

/-! ### Services -/

theorem Watch.readBack : ReadBack toJson ofDoc := by
  refine .record (fun w => [.texts w.events.toList]) (by decide) (fun _ => rfl) (fun _ => rfl)
    (fun w => ?_) fun w => ?_
  · simp [ReadBack.texts.readable]
  · simp only [List.map, fields, Record.positional, ReadBack.texts.reads, bind, Except.bind,
      NameSet.ofList_toList]

theorem Room.readBack : ReadBack toJson ofDoc := by
  have hrepos := Watch.readBack.table
  refine .record (fun r => [r.repos.toJson Watch.toJson]) (by decide) (fun _ => rfl) (fun _ => rfl)
    (fun r => ?_) fun r => ?_
  · simp [hrepos.readable]
  · simp only [List.map, fields, Record.positional, hrepos.reads]
    rfl

theorem Service.readBack : ReadBack toJson ofDoc := by
  have hrooms := Room.readBack.table
  refine .record (fun s => [.text s.id, .text s.callbackUrl, .text s.realm, .text s.user,
    .text s.secretToken, s.rooms.toJson Room.toJson]) (by decide) (fun _ => rfl) (fun _ => rfl)
    (fun s => ?_) fun s => ?_
  · simp [ReadBack.text.readable, hrooms.readable]
  · simp only [List.map, idField, callbackUrlField, optionalFields, Record.positional, hrooms.reads]
    rfl

/-! ### Hooks and messages -/

theorem HookSpec.readBack : ReadBack toJson ofDoc := by
  have hconfig := ReadBack.text.table
  refine .record (fun h => [.text h.name, .bool h.active, .texts h.events, h.config.toJson .text])
    (by decide) (fun _ => rfl) (fun _ => rfl) (fun h => ?_) fun h => ?_
  · simp [ReadBack.text.readable, ReadBack.bool.readable, ReadBack.texts.readable,
      hconfig.readable]
  · simp only [List.map, fields, Record.positional, ReadBack.texts.reads, hconfig.reads]
    rfl

theorem Message.readBack : ReadBack toJson ofDoc := by
  refine .record (fun m => [.text m.msgtype, .text m.body]) (by decide) (fun _ => rfl)
    (fun _ => rfl) (fun m => ?_) fun _ => rfl
  simp [ReadBack.text.readable]

/-! ### Payloads -/

namespace Delivery

/-- A text that may be absent is read back. -/
theorem readBack_optionText : ReadBack (.ofOption .text) (Doc.toOption Doc.toText) :=
  ReadBack.text.option fun _ => nofun

theorem Repository.readBack : ReadBack toJson ofDoc := by
  refine .record (fun r => [.text r.fullName, .ofOption .text r.htmlUrl]) (by decide)
    (fun _ => rfl) (fun _ => rfl) (fun r => ?_) fun r => ?_
  · simp [ReadBack.text.readable, readBack_optionText.readable]
  · simp only [List.map, fields, Record.positional, readBack_optionText.reads]
    rfl

theorem Account.readBack : ReadBack toJson ofDoc := by
  refine .record (fun a => [.text a.login]) (by decide) (fun _ => rfl) (fun _ => rfl)
    (fun a => ?_) fun _ => rfl
  simp [ReadBack.text.readable]

theorem Commit.readBack : ReadBack toJson ofDoc := by
  refine .record (fun c => [.text c.id, .text c.message]) (by decide) (fun _ => rfl)
    (fun _ => rfl) (fun c => ?_) fun _ => rfl
  simp [ReadBack.text.readable]

theorem Issue.readBack : ReadBack toJson ofDoc := by
  refine .record (fun i => [.number (.ofNat i.number.toNat), .text i.title,
    .ofOption .text i.htmlUrl]) (by decide) (fun _ => rfl) (fun _ => rfl) (fun i => ?_) fun i => ?_
  · simp [ReadBack.uint64.readable, ReadBack.text.readable, readBack_optionText.readable]
  · simp only [List.map, fields, Record.positional, ReadBack.uint64.reads,
      readBack_optionText.reads]
    rfl

theorem Comment.readBack : ReadBack toJson ofDoc := by
  refine .record (fun c => [.text c.body, .ofOption .text c.htmlUrl]) (by decide) (fun _ => rfl)
    (fun _ => rfl) (fun c => ?_) fun c => ?_
  · simp [ReadBack.text.readable, readBack_optionText.readable]
  · simp only [List.map, fields, Record.positional, readBack_optionText.reads]
    rfl

theorem Payload.readBack : ReadBack toJson ofDoc := by
  have hrepository := Repository.readBack.option fun _ => nofun
  have hsender := Account.readBack.option fun _ => nofun
  have hcommits := Commit.readBack.list
  have hissue := Issue.readBack.option fun _ => nofun
  have hcomment := Comment.readBack.option fun _ => nofun
  refine .record (fun p => [.ofOption Repository.toJson p.repository,
    .ofOption Account.toJson p.sender, .ofOption .text p.action, .ofOption .text p.ref,
    .array (p.commits.map Commit.toJson), .ofOption .text p.compare, .ofOption Issue.toJson p.issue,
    .ofOption Issue.toJson p.pullRequest, .ofOption Comment.toJson p.comment]) (by decide)
    (fun _ => rfl) (fun _ => rfl) (fun p => ?_) fun p => ?_
  · simp [hrepository.readable, hsender.readable, readBack_optionText.readable,
      hcommits.readable, hissue.readable, hcomment.readable]
  · simp only [List.map, fields, Record.positional, hrepository.reads, hsender.reads,
      readBack_optionText.reads, hcommits.reads, hissue.reads, hcomment.reads]
    rfl

end Delivery

/-- **What is written is read as what it was.** Whatever the names, the texts and the numbers are, and
whichever of the values that may be absent are there: a service, a hook to be created, a message and
a payload are each decoded from the bytes that they are encoded in. -/
theorem Json.forms_survive :
    (∀ s : Service, decode Service.ofDoc s.toJson.toBytes = .ok s) ∧
      (∀ h : HookSpec, decode HookSpec.ofDoc h.toJson.toBytes = .ok h) ∧
        (∀ m : Message, decode Message.ofDoc m.toJson.toBytes = .ok m) ∧
          ∀ p : Delivery.Payload, decode Delivery.Payload.ofDoc p.toJson.toBytes = .ok p :=
  ⟨Service.readBack.decode_toBytes, HookSpec.readBack.decode_toBytes,
    Message.readBack.decode_toBytes, Delivery.Payload.readBack.decode_toBytes⟩

end WebhookRelay
