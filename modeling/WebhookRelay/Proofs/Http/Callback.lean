import WebhookRelay.Http.Router
import WebhookRelay.Proofs.Memory.Hazards
import WebhookRelay.Proofs.Utf8
import Mathlib.Data.List.TakeWhile

/-!
# Where deliveries come in

The URL that is registered for a service ends in its id as it stands. An id that comes in with a path
is the rest of one segment, and is taken for percent encoded. So a delivery reaches its own service
just when both take the id alike, that is, when it holds no character that ends the segment and no
escape (`Http.Plain`); with any other id it is answered as one to another service or to nobody
(`Http.callback_reaches_iff`).

That nothing can make up for an escape is a matter of length: it is three characters long and read as
one byte, and no character is read as more bytes than it is written with (`Http.Percent.Reads`).
-/

namespace WebhookRelay.Http

open Program

/-! ## Escapes -/

namespace Percent

/-- Whether a text holds an escape: a percent sign that two digits follow. -/
inductive HasEscape : List Char → Prop where
  | here {a b : Char} {x y : Nat} {rest : List Char} (ha : Hex.value? a = some x)
      (hb : Hex.value? b = some y) : HasEscape ('%' :: a :: b :: rest)
  | later {c : Char} {rest : List Char} (h : HasEscape rest) : HasEscape (c :: rest)

theorem HasEscape.mem {cs : List Char} (h : HasEscape cs) : '%' ∈ cs := by
  induction h with
  | here => exact List.mem_cons_self
  | later _ ih => exact List.mem_cons_of_mem _ ih

theorem length_encodeChar_pos (c : Char) : 0 < (Utf8.encodeChar c).length := by
  unfold Utf8.encodeChar
  dsimp only
  split
  · exact Nat.zero_lt_succ _
  split
  · exact Nat.zero_lt_succ _
  split
  · exact Nat.zero_lt_succ _
  · exact Nat.zero_lt_succ _

/-- How a text is read: it stands for itself, or it holds an escape and stands for fewer bytes. -/
def Reads (cs : List Char) (bytes : Bytes) : Prop :=
  (HasEscape cs ∧ bytes.length < (Utf8.encodeChars cs).length) ∨
    (¬HasEscape cs ∧ bytes = Utf8.encodeChars cs)

theorem Reads.length_le {cs : List Char} {bytes : Bytes} (h : Reads cs bytes) :
    bytes.length ≤ (Utf8.encodeChars cs).length := by
  rcases h with ⟨-, hlt⟩ | ⟨-, rfl⟩
  · exact Nat.le_of_lt hlt
  · exact Nat.le_refl _

/-- A character that begins no escape is read as it stands. -/
theorem Reads.cons {c : Char} {rest : List Char} {bytes : Bytes} (h : Reads rest bytes)
    (hc : HasEscape (c :: rest) → HasEscape rest) :
    Reads (c :: rest) (Utf8.encodeChar c ++ bytes) := by
  rw [Reads, Utf8.encodeChars_cons, List.length_append, List.length_append]
  rcases h with ⟨he, hlt⟩ | ⟨hne, rfl⟩
  · exact .inl ⟨.later he, Nat.add_lt_add_left hlt _⟩
  · exact .inr ⟨fun he => hne (hc he), rfl⟩

theorem reads_decode (cs : List Char) : Reads cs (decode cs) := by
  fun_induction decode cs with
  | case1 => exact .inr ⟨fun h => (nomatch h), rfl⟩
  | case2 a b rest x y hb ha ih =>
    -- one byte for three characters
    refine .inl ⟨.here ha hb, ?_⟩
    have hle := ih.length_le
    have hpercent := length_encodeChar_pos '%'
    have hdigit := length_encodeChar_pos a
    simp only [Utf8.encodeChars_cons, List.length_append, List.length_cons]
    omega
  | case3 a b rest hnot ih =>
    refine ih.cons fun he => ?_
    cases he with
    | here ha hb => exact (hnot _ _ ha hb).elim
    | later h => exact h
  | case4 c rest hnot ih =>
    refine ih.cons fun he => ?_
    cases he with
    | here => exact (hnot _ _ _ rfl rfl).elim
    | later h => exact h

/-- A text is read as it stands just when it holds no escape. -/
theorem decode_eq_encodeChars_iff {cs : List Char} :
    decode cs = Utf8.encodeChars cs ↔ ¬HasEscape cs := by
  rcases reads_decode cs with ⟨he, hlt⟩ | ⟨hne, heq⟩
  · exact ⟨fun h => absurd (congrArg List.length h) (Nat.ne_of_lt hlt), fun h => absurd he h⟩
  · exact ⟨fun _ => hne, fun _ => heq⟩

end Percent

/-! ## Where a path leads -/

/-- The service that a path leads to, if it leads to one. -/
def addressee? (path : List Char) : Option String :=
  match Route.ofPath path with
  | some (.hooks id) => Utf8.decode? (Percent.decode id)
  | _ => none

theorem Route.ofPath_hooks (id : List Char) : Route.ofPath (hooksPath.toList ++ id) =
    if id.isEmpty || id.contains '/' then none else some (.hooks id) := by
  have hne : hooksPath.toList ++ id ≠ "/admin/configureService".toList := by
    intro h
    have hsecond := congrArg (·[1]?) h
    simp [hooksPath] at hsecond
  rw [ofPath, if_neg hne, Text.dropStart?_eq_some_iff.mpr rfl]

/-- A path leads to a service if it goes on with one segment, which is read as the service's id. -/
theorem addressee?_hooks {id : List Char} {other : String} :
    addressee? (hooksPath.toList ++ id) = some other ↔
      id ≠ [] ∧ '/' ∉ id ∧ Percent.decode id = Utf8.encode other := by
  rw [addressee?, Route.ofPath_hooks]
  by_cases hempty : id = []
  · simp [hempty]
  by_cases hslash : '/' ∈ id
  · simp [hslash]
  · simp [hempty, hslash, Utf8.decode?_eq_some_iff]

/-! ## The path of a URL -/

/-- Whether a character is one that a path may hold, and a query or a fragment does not begin. -/
def pathChar (c : Char) : Bool := c ≠ '?' && c ≠ '#'

/-- What stands behind the scheme of a URL. -/
def behindScheme : List Char → List Char
  | [] => []
  | ':' :: '/' :: '/' :: rest => rest
  | _ :: rest => behindScheme rest

/-- The path of a URL, as it is written there: what stands behind the host, up to a query or a
fragment. -/
def writtenPath (url : String) : List Char :=
  ((behindScheme url.toList).dropWhile fun c => c ≠ '/' && pathChar c).takeWhile pathChar

/-- Whether a server is reached under an origin, which is a scheme and a host; slashes behind it do
not count. -/
def AtOrigin (s : ServerSettings) : Prop :=
  ∃ scheme host, Text.dropEndWhile (· = '/') s.publicUrl.toList =
      scheme ++ ':' :: '/' :: '/' :: host ∧
    ':' ∉ scheme ∧ '/' ∉ host ∧ '?' ∉ host ∧ '#' ∉ host

theorem behindScheme_append {scheme rest : List Char} (h : ':' ∉ scheme) :
    behindScheme (scheme ++ ':' :: '/' :: '/' :: rest) = rest := by
  induction scheme with
  | nil => rfl
  | cons c cs ih =>
    obtain ⟨hc, hcs⟩ := not_or.mp fun hm => h (List.mem_cons.mpr hm)
    rw [List.cons_append, behindScheme, ih hcs]
    rintro rest' rfl
    exact absurd rfl hc

/-- The path of a callback URL ends in the id, up to a query or a fragment that the id begins. -/
theorem writtenPath_callbackUrl {settings : ServerSettings} {id : String}
    (ho : AtOrigin settings) : writtenPath (settings.callbackUrl id) =
      hooksPath.toList ++ id.toList.takeWhile pathChar := by
  obtain ⟨scheme, host, hbase, hscheme, hslash, hquery, hfragment⟩ := ho
  have hpath : ∀ c ∈ hooksPath.toList, pathChar c = true := List.all_eq_true.mp (by decide)
  have hurl : (settings.callbackUrl id).toList =
      scheme ++ ':' :: '/' :: '/' :: (host ++ (hooksPath.toList ++ id.toList)) := by
    simp [ServerSettings.callbackUrl, hbase]
  rw [writtenPath, hurl, behindScheme_append hscheme, List.dropWhile_append_of_pos]
  · rw [← List.takeWhile_append_of_pos hpath]
    rfl
  · intro c hc
    simp only [pathChar, ne_eq, Bool.and_eq_true, decide_eq_true_eq]
    exact ⟨fun h => hslash (h ▸ hc), fun h => hquery (h ▸ hc), fun h => hfragment (h ▸ hc)⟩

/-! ## Round trips -/

/-- Whether an id is one that a path holds as it stands: it does not end the segment, and is not
read as something else. -/
structure Plain (id : String) : Prop where
  slash : '/' ∉ id.toList
  query : '?' ∉ id.toList
  fragment : '#' ∉ id.toList
  escapes : ¬Percent.HasEscape id.toList

/-- A part of an id that is read as the whole id is the whole id. -/
theorem dropWhile_eq_nil_of_decode {id : String} {p : Char → Bool}
    (h : Percent.decode (id.toList.takeWhile p) = Utf8.encode id) : id.toList.dropWhile p = [] := by
  have hle := (Percent.reads_decode (id.toList.takeWhile p)).length_le
  have hsplit : Utf8.encode id = Utf8.encodeChars (id.toList.takeWhile p) ++
      Utf8.encodeChars (id.toList.dropWhile p) := by
    rw [Utf8.encodeChars, Utf8.encodeChars, ← List.flatMap_append,
      List.takeWhile_append_dropWhile]
    rfl
  rw [h, hsplit, List.length_append] at hle
  rcases hrest : id.toList.dropWhile p with _ | ⟨c, rest⟩
  · rfl
  · have hc := Percent.length_encodeChar_pos c
    rw [hrest, Utf8.encodeChars_cons, List.length_append] at hle
    omega

/-- What comes in under the callback URL of a service is for that service just when its id is
plain. -/
theorem addressee?_callbackUrl_iff {settings : ServerSettings} {id : String}
    (ho : AtOrigin settings) (hid : id ≠ "") :
    addressee? (writtenPath (settings.callbackUrl id)) = some id ↔ Plain id := by
  rw [writtenPath_callbackUrl ho, addressee?_hooks]
  constructor
  · rintro ⟨-, hslash, hread⟩
    have hpath := List.dropWhile_eq_nil_iff.mp (dropWhile_eq_nil_of_decode hread)
    rw [List.takeWhile_eq_self_iff.mpr hpath] at hslash hread
    refine ⟨hslash, fun hm => ?_, fun hm => ?_, Percent.decode_eq_encodeChars_iff.mp hread⟩
    · cases hpath _ hm
    · cases hpath _ hm
  · intro hplain
    have hpath : ∀ c ∈ id.toList, pathChar c = true := by
      intro c hc
      simp only [pathChar, ne_eq, Bool.and_eq_true, decide_eq_true_eq]
      exact ⟨fun h => hplain.query (h ▸ hc), fun h => hplain.fragment (h ▸ hc)⟩
    rw [List.takeWhile_eq_self_iff.mpr hpath]
    exact ⟨fun h => hid (by simpa using h), hplain.slash,
      Percent.decode_eq_encodeChars_iff.mpr hplain.escapes⟩

/-! ## Requests -/

variable {C : Type} {credentials : Credentials C} {settings : ServerSettings} {r : Request}

/-- A delivery to a service is handled for it. -/
theorem answer_of_addressee? {id : String} (hm : r.method = "POST")
    (h : addressee? r.path = some id) : answer settings credentials r =
      (Delivery.handleFor credentials id r.toDelivery).bind fun response =>
        .done ⟨statusOf response.status, none⟩ := by
  unfold addressee? at h
  split at h
  · next segment hroute =>
    rw [answer, hroute]
    simp only [hm, ne_eq, not_true_eq_false, if_false, deliver, h]
  · cases h

/-- A delivery to nobody is turned away. -/
theorem answer_of_addressee?_eq_none {id : List Char} (hm : r.method = "POST")
    (hpath : r.path = hooksPath.toList ++ id) (h : addressee? r.path = none) :
    ∃ status, (status = 404 ∨ status = 400) ∧
      answer settings credentials r = .done ⟨status, none⟩ := by
  rw [addressee?, hpath, Route.ofPath_hooks] at h
  rw [answer, hpath, Route.ofPath_hooks]
  by_cases hsegment : (id.isEmpty || id.contains '/') = true
  · rw [if_pos hsegment]
    exact ⟨404, .inl rfl, rfl⟩
  · rw [if_neg hsegment] at h ⊢
    refine ⟨400, .inr rfl, ?_⟩
    simp only [hm, ne_eq, not_true_eq_false, if_false, deliver, h]

/-- The path of a request that is sent to a URL. -/
theorem path_of_target {url : String} (ht : r.target = String.ofList (writtenPath url)) :
    r.path = writtenPath url := by
  rw [Request.path, ht, String.toList_ofList]
  show (writtenPath url).takeWhile pathChar = writtenPath url
  exact List.takeWhile_eq_self_iff.mpr fun c hc => List.mem_takeWhile_imp hc

/-- **Which callback URLs lead back to their service.** A server is reached under an origin, a
service has a callback URL there, and a delivery is posted to the path of that URL. It is for the
service just when the id of the service is plain. Whoever it is for, it is handled for that service;
and if it is for nobody, it is turned away. -/
theorem callback_reaches_iff {id : String} (ho : AtOrigin settings) (hid : id ≠ "")
    (hm : r.method = "POST")
    (ht : r.target = String.ofList (writtenPath (settings.callbackUrl id))) :
    (addressee? r.path = some id ↔ Plain id) ∧
      (∀ other, addressee? r.path = some other → answer settings credentials r =
        (Delivery.handleFor credentials other r.toDelivery).bind fun response =>
          .done ⟨statusOf response.status, none⟩) ∧
      (addressee? r.path = none → ∃ status, (status = 404 ∨ status = 400) ∧
        answer settings credentials r = .done ⟨status, none⟩) := by
  have hpath := path_of_target ht
  refine ⟨?_, fun other => answer_of_addressee? hm,
    answer_of_addressee?_eq_none hm (hpath.trans (writtenPath_callbackUrl ho))⟩
  rw [hpath]
  exact addressee?_callbackUrl_iff ho hid

/-- A delivery to the path of the callback URL of a service. -/
def posted (id : String) : Request where
  method := "POST"
  target := String.ofList (writtenPath (({} : ServerSettings).callbackUrl id))

/-- An id in plain letters leads back to its service. -/
theorem callback_reaches_plain : answer {} Memory.soleUser (posted "svc") =
    (Delivery.handleFor Memory.soleUser "svc" (posted "svc").toDelivery).bind fun response =>
      .done ⟨statusOf response.status, none⟩ := by
  have ho : AtOrigin {} := ⟨"http".toList, "localhost:9000".toList, by decide, by decide,
    by decide, by decide, by decide⟩
  have hplain : Plain "svc" :=
    ⟨by decide, by decide, by decide, fun h => absurd h.mem (by decide)⟩
  have hid : "svc" ≠ "" := by decide
  refine (callback_reaches_iff ho hid rfl rfl).2.1 "svc" ?_
  rw [path_of_target rfl]
  exact (addressee?_callbackUrl_iff ho hid).mpr hplain

/-- One with a slash leads to nobody, and one with an escape leads to another service. -/
theorem callback_astray : "team/svc" ≠ "" ∧
    answer {} Memory.soleUser (posted "team/svc") = .done ⟨404, none⟩ ∧
    addressee? (posted "team/svc").path = none ∧ addressee? (posted "sv%63").path = some "svc" := by
  refine ⟨by decide, ?_, by decide +kernel, by decide +kernel⟩
  have hroute : Route.ofPath (posted "team/svc").path = none := by decide +kernel
  rw [answer, hroute]

end WebhookRelay.Http
