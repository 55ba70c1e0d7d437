import WebhookRelay.Proofs.Json.Shapes
import WebhookRelay.Proofs.Json.Written
import WebhookRelay.Proofs.Rest.Pages

/-!
# Refusals that are told

A provider that refuses a hook because there is one already says so in the details of its refusal. The
body of the refusal is read as a whole or not at all: so the words are found just when the whole body
has the shape of a refusal, down to every other detail in it (`Service.recognized_if_shaped`), and are
lost with a body that has not (`Service.unrecognized_null`).
-/

namespace WebhookRelay

open Json Rest

/-- A word occurs in a text just when the text has it between two others. -/
theorem Failure.occursIn_iff {word text : List Char} :
    occursIn word text = true ↔ word <:+: text := by
  induction text with
  | nil => simp [occursIn]
  | cons c rest ih =>
    rw [occursIn, Bool.or_eq_true, List.isPrefixOf_iff_prefix, ih, List.infix_cons_iff]

namespace Rest.HookClient

/-! ## The shape of a refusal -/

/-- The members of a detail that count, and what they must be. -/
def detailShape : List (String × (Doc → Prop)) := [("message", Doc.IsText)]

/-- Whether a value is a detail of a refusal, as an object or as an array. -/
inductive IsDetail : Doc → Prop where
  | object {members : List (Option String × Doc)} (h : Shaped detailShape members) :
      IsDetail (.object members true)
  | empty : IsDetail (.array [] true)
  | single (t : String) : IsDetail (.array [.text (some t)] true)

/-- Whether a value is an array of details. -/
def AreDetails (d : Doc) : Prop := ∃ items, d = .array items true ∧ ∀ item ∈ items, IsDetail item

/-- The members of a refusal that count, and what they must be. -/
def refusalShape : List (String × (Doc → Prop)) := [("message", Doc.IsText), ("errors", AreDetails)]

variable {d : Doc} {members : List (Option String × Doc)}

theorem describes_detail : Describes detailShape detailFields where
  names := rfl
  absence := by decide
  reads := by
    intro p hp
    obtain rfl := List.mem_singleton.mp hp
    exact ⟨_, rfl, fun d r _ => Doc.exists_toText_iff⟩

/-- A detail can be read from what is one. -/
theorem exists_detail_iff (hd : d.Whole) :
    (∃ s, record detailFields "" d = .ok s) ↔ IsDetail d := by
  cases hd with
  | null | bool | number | text => exact iff_of_false nofun nofun
  | object h =>
    rw [exists_record_iff describes_detail h]
    constructor
    · exact .object
    · rintro ⟨h⟩
      exact h
  | @array items h =>
    match items with
    | [] => exact iff_of_true ⟨"", rfl⟩ .empty
    | [item] =>
      have hread : (∃ s, record detailFields "" (.array [item] true) = .ok s) ↔ Doc.IsText item :=
        exists_map_iff.trans Doc.exists_toText_iff
      rw [hread]
      constructor
      · rintro ⟨t, rfl⟩
        exact .single t
      · intro hdetail
        cases hdetail with
        | single t => exact ⟨t, rfl⟩
    | item :: more :: rest =>
      refine iff_of_false ?_ nofun
      rintro ⟨s, hs⟩
      obtain ⟨t, -, hs⟩ := bind_eq_ok_iff.mp hs
      cases hs

theorem exists_details_iff (hd : d.Whole) :
    (∃ l, d.toList (record detailFields "") = .ok l) ↔ AreDetails d := by
  cases hd with
  | null | bool | number | text | object => exact iff_of_false nofun nofun
  | @array items h =>
    have hread : (∃ l, (Doc.array items true).toList (record detailFields "") = .ok l) ↔
        ∀ item ∈ items, ∃ s, record detailFields "" item = .ok s :=
      exists_map_iff.trans exists_mapM_iff
    rw [hread]
    constructor
    · intro hall
      exact ⟨items, rfl, fun item hi => (exists_detail_iff (h item hi)).mp (hall item hi)⟩
    · rintro ⟨_, ⟨⟩, hall⟩ item hi
      exact (exists_detail_iff (h item hi)).mpr (hall item hi)

theorem describes_refusal : Describes refusalShape refusalFields where
  names := rfl
  absence := by decide
  reads := by
    intro p hp
    obtain rfl | hp := List.mem_cons.mp hp
    · exact ⟨_, rfl, fun d r _ => exists_map_iff.trans Doc.exists_toText_iff⟩
    · obtain rfl := List.mem_singleton.mp hp
      exact ⟨_, rfl, fun d r hd => exists_map_iff.trans (exists_details_iff hd)⟩

/-! ## Words that are there -/

/-- Whether the members of a refusal say that the hook is there already: one of its errors is an object
whose message has the words in it. -/
def Tells (members : List (Option String × Doc)) : Prop :=
  ∃ items entry t, (some "errors", .array items true) ∈ members ∧ .object entry true ∈ items ∧
    (some "message", .text (some t)) ∈ entry ∧ Failure.existsPhrase.toList <:+: t.toList

/-- A detail that is read from an object is the message of it. -/
theorem read_detail {entry : List (Option String × Doc)} {t s : String}
    (hm : (some "message", .text (some t)) ∈ entry)
    (h : record detailFields "" (.object entry true) = .ok s) : s = t := by
  have hothers : ∀ g ∈ detailFields, g.name ≠ "message" → ∀ d (r r' : String),
      g.read d r = .ok r' → id r' = id r := by
    intro g hg hne
    obtain rfl := List.mem_singleton.mp hg
    exact absurd rfl hne
  obtain ⟨r₀, r₁, hread, hkept⟩ := read_of_record hothers rfl hm h
  cases hread
  exact hkept

/-- The details of a refusal that is read are what its errors are read as. -/
theorem read_details {items : List Doc} {refusal : Refusal}
    (hm : (some "errors", .array items true) ∈ members)
    (h : record refusalFields {} (.object members true) = .ok refusal) :
    items.mapM (record detailFields "") = .ok refusal.details := by
  have hothers : ∀ g ∈ refusalFields, g.name ≠ "errors" → ∀ d (r r' : Refusal),
      g.read d r = .ok r' → r'.details = r.details := by
    intro g hg hne d r r' hread
    obtain rfl | hg := List.mem_cons.mp hg
    · obtain ⟨t, -, hread⟩ := bind_eq_ok_iff.mp hread
      cases hread
      rfl
    · obtain rfl := List.mem_singleton.mp hg
      exact absurd rfl hne
  obtain ⟨r₀, r₁, hread, hkept⟩ := read_of_record hothers rfl hm h
  obtain ⟨l, hlist, hread⟩ := bind_eq_ok_iff.mp hread
  obtain ⟨l', hitems, hlist⟩ := bind_eq_ok_iff.mp hlist
  cases hread
  cases hlist
  rw [hkept, hitems]

/-- A refusal that is read tells what its errors tell. -/
theorem exists_detail_of_tells (htells : Tells members) {refusal : Refusal}
    (h : record refusalFields {} (.object members true) = .ok refusal) :
    ∃ t ∈ refusal.details, Failure.existsPhrase.toList <:+: t.toList := by
  obtain ⟨items, entry, t, herrors, hentry, hmessage, hwords⟩ := htells
  have hdetails := read_details herrors h
  obtain ⟨s, hs⟩ := exists_mapM_iff.mp ⟨_, hdetails⟩ _ hentry
  obtain rfl := read_detail hmessage hs
  exact ⟨s, mem_of_mapM hdetails hentry hs, hwords⟩

/-! ## What becomes of a refusal -/

/-- A body that is an object is read just when it has the shape of a refusal, and says nothing
otherwise. -/
theorem refusalIn_of_object {body : Bytes}
    (hbody : Document.ofBytes body = ⟨.object members true, false⟩) :
    (Shaped refusalShape members →
        record refusalFields {} (.object members true) = .ok (refusalIn body)) ∧
      (¬Shaped refusalShape members → refusalIn body = {}) := by
  have hwhole : (Doc.object members true).Whole := by
    have hread := @Document.whole_ofBytes body
    rw [hbody] at hread
    exact hread rfl
  have hin : refusalIn body =
      (record refusalFields {} (.object members true)).toOption.getD {} := by
    rw [refusalIn, Json.decode, hbody, Document.decode]
    rcases record refusalFields {} (.object members true) with e | r <;> rfl
  cases hwhole with
  | object hmembers =>
    rw [← exists_record_iff describes_refusal hmembers {}, hin]
    constructor
    · rintro ⟨r, hr⟩
      rw [hr]
      rfl
    · intro hnot
      rcases hr : record refusalFields {} (.object members true) with e | r
      · rfl
      · exact absurd ⟨r, hr⟩ hnot

variable {σ : Type} {peer : Peer σ} {c : HookClient} {repo : RepoName} {spec : HookSpec} {p p' : σ}
  {url : Url} {a : Answer}

/-- A hook that is refused is not created. -/
theorem create_of_refused (hurl : c.url repo none = .ok url)
    (hreply : exchange peer (c.request "POST" url (some spec.toJson)) p = (.ok a, p'))
    (ha : a.isSuccess = false) :
    c.create peer repo spec p = (.error (.refused a.status (refusalIn a.body).message
      (refusalIn a.body).details), p') := by
  simp only [create, hurl, send, hreply, accept, ha]
  rfl

end Rest.HookClient

/-! ## What becomes of an existing hook -/

open Rest.HookClient

/-- **An existing hook is recognised where the whole refusal can be read.** The request for the hook
of a service is answered with status 422, and the body of the answer is an object which says in one of
its errors that the hook is there. Then the hook is there already if the body has the shape of a
refusal: all names can be read, `message` is there at most once and is a text, `errors` is there once
and all its items are details, of which the same holds. If it has not, the words are lost, and what is
reported is a refusal with neither a message nor a detail. -/
theorem Service.recognized_if_shaped {σ : Type} (s : Service) {settings : Settings} {peer : Peer σ}
    {pages : Nat} {server : Server σ} {token text : String} {repo : RepoName} {url : Url} {a : Answer}
    {p : σ} {members : List (Option String × Doc)} (hname : RepoName.parse text = .ok repo)
    (hurl : (Server.hookClient settings token).url repo none = .ok url)
    (hreply : exchange peer ((Server.hookClient settings token).request "POST" url
      (some s.hookSpec.toJson)) server.peer = (.ok a, p)) (hstatus : a.status = 422)
    (hbody : Document.ofBytes a.body = ⟨.object members true, false⟩) (htells : Tells members) :
    (Shaped refusalShape members →
      (s.install token text).run (Server.answer settings peer pages) server =
        (.ok .alreadyThere, { server with peer := p })) ∧
    (¬Shaped refusalShape members →
      (s.install token text).run (Server.answer settings peer pages) server =
        (.error (.refused 422 "" []), { server with peer := p })) := by
  have hrefused : a.isSuccess = false := by
    rw [Answer.isSuccess, hstatus]
    rfl
  have hrun : (s.install token text).run (Server.answer settings peer pages) server =
      (if (Failure.refused 422 (refusalIn a.body).message (refusalIn a.body).details).isHookExists then
        .ok .alreadyThere
      else .error (.refused 422 (refusalIn a.body).message (refusalIn a.body).details),
        { server with peer := p }) := by
    simp only [install, hname, Program.run_call, Server.answer, create_of_refused hurl hreply hrefused,
      hstatus]
    rfl
  obtain ⟨hread, hlost⟩ := refusalIn_of_object hbody
  rw [hrun]
  constructor
  · intro hshaped
    obtain ⟨t, ht, hwords⟩ := exists_detail_of_tells htells (hread hshaped)
    have hexists : (Failure.refused 422 (refusalIn a.body).message
        (refusalIn a.body).details).isHookExists = true :=
      List.any_eq_true.mpr ⟨t, ht, Failure.occursIn_iff.mpr hwords⟩
    rw [if_pos hexists]
  · intro hnot
    rw [hlost hnot]
    rfl

/-! ### Two refusals -/

/-- What a provider says that has the hook already, after a message of its own. -/
def said (message : Value) : Value :=
  .object [("message", message), ("errors", .array [.object [("message", .text "Hook already exists")]])]

/-- The members of that. -/
def saidMembers (message : Doc) : List (Option String × Doc) :=
  [(some "message", message),
    (some "errors", .array [.object [(some "message", .text (some "Hook already exists"))] true] true)]

theorem readable_said {message : Value} (h : message.Readable) : (said message).Readable :=
  .object (by simpa using ⟨h, .array (by simpa using .object (by simpa using .text _))⟩)

theorem tells_saidMembers (message : Doc) : Tells (saidMembers message) :=
  ⟨_, _, _, List.mem_cons_of_mem _ List.mem_cons_self, List.mem_cons_self, List.mem_cons_self,
    Failure.occursIn_iff.mp (by decide)⟩

theorem isDetail_said (t : String) :
    IsDetail (.object [(some "message", .text (some t))] true) := by
  refine .object ⟨by simp, by simp [given, detailShape], ?_⟩
  simp [detailShape, Doc.IsText]

theorem shaped_saidMembers (t : String) : Shaped refusalShape (saidMembers (.text (some t))) where
  named := by simp [saidMembers]
  once := by simp [given, refusalShape, saidMembers]
  fits := by simp [refusalShape, saidMembers, Doc.IsText, AreDetails, isDetail_said]

/-- The answer in which a provider says it. -/
def saying (message : Value) : Answer where
  status := 422
  body := (said message).toBytes

theorem document_saying {message : Value} (h : message.Readable) :
    Document.ofBytes (saying message).body = ⟨.object (saidMembers message.doc) true, false⟩ :=
  Document.ofBytes_toBytes (readable_said h)

/-- The service, at a provider that always answers the same. -/
def installedAt (a : Answer) : Except Failure Installed × Server Unit :=
  ((Memory.watching "svc" "u" []).install "main" "acme/a").run
    (Server.answer settings (fun _ p => (.answer a, p)) 1) { peer := () }

/-- After a message that is a text the words are found. -/
theorem Service.recognized_if_shaped_text :
    installedAt (saying (.text "Invalid")) = (.ok .alreadyThere, { peer := () }) :=
  (@Service.recognized_if_shaped Unit (Memory.watching "svc" "u" []) settings
    (fun _ p => (.answer (saying (.text "Invalid")), p)) 1 { peer := () } "main" "acme/a" ⟨"acme", "a"⟩ _
    _ () _ (by rfl) (by rfl) (by rfl) (by rfl) (document_saying (.text _)) (tells_saidMembers _)).1
      (shaped_saidMembers _)

/-- After a message that is `null` the words are lost with it. -/
theorem Service.unrecognized_null :
    Document.ofBytes (saying .null).body = ⟨.object (saidMembers .null) true, false⟩ ∧
      Tells (saidMembers .null) ∧
        (installedAt (saying .null)).1 = .error (.refused 422 "" []) := by
  refine ⟨document_saying .null, tells_saidMembers _, ?_⟩
  decide +kernel

end WebhookRelay
