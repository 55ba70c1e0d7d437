import WebhookRelay.Proofs.Sync.Phases
import WebhookRelay.Settings
import Mathlib.Data.Set.Card

/-!
# Who is signed in by tokens

A list of tokens is gone through twice. Of a realm the first token counts, which says of what kind it
is (`TokenBook.realmType_ofTokens`); of a user the last one does, which is the client
(`TokenBook.client_ofTokens`). Either pass is a fold, and what it finds is what was there before it
unless a token says otherwise.

Clients are handed out for realms of the right kind only, so what the first phase asks of a realm is so
whenever there is a client (`TokenBook.lookups_agree`).
-/

namespace WebhookRelay.TokenBook

variable {tokens : List AccessToken} {realm user : String}

/-! ## The kinds of realms -/

/-- A realm is of the kind that it is known to be of, or else of the kind that the first token says. -/
theorem get?_foldl_alter (tokens : List AccessToken) (known : Table String) (realm : String) :
    (tokens.foldl (fun t c => t.alter c.realm (·.getD c.realmType)) known).get? realm =
      (known.get? realm).or ((tokens.find? (·.realm = realm)).map (·.realmType)) := by
  induction tokens generalizing known with
  | nil => simp
  | cons c rest ih =>
    rw [List.foldl_cons, ih, Table.alter, Table.get?_insert]
    by_cases h : c.realm = realm
    · subst h
      cases known.get? c.realm with
      | none => simp
      | some kind => simp
    · simp [h]

theorem realmType_ofTokens : (ofTokens tokens).credentials.realmType realm =
    (tokens.find? (·.realm = realm)).map (·.realmType) := by
  have h := get?_foldl_alter tokens ∅ realm
  rwa [Table.get?_empty, Option.none_or] at h

/-! ## The clients of users -/

/-- Takes in a token, in place of an earlier one of the same user. -/
def enter (clients : List ((String × String) × String)) (c : AccessToken) :
    List ((String × String) × String) :=
  ((c.realm, c.user), c.token) :: clients.filter (·.1 ≠ (c.realm, c.user))

theorem clients_ofTokens : (ofTokens tokens).clients =
    (tokens.filter fun c =>
      (ofTokens tokens).credentials.realmType c.realm = some githubRealm).foldl enter [] := rfl

/-- The clients of other users are not taken out. -/
theorem lookup_filter_ne {key other : String × String} (h : other ≠ key)
    (clients : List ((String × String) × String)) :
    (clients.filter (·.1 ≠ other)).lookup key = clients.lookup key := by
  induction clients with
  | nil => rfl
  | cons e rest ih =>
    rw [List.lookup_cons]
    by_cases he : e.1 = other
    · have hkey : (key == e.1) = false := beq_eq_false_iff_ne.mpr (he ▸ Ne.symm h)
      rw [List.filter_cons_of_neg (by simpa using he), ih, hkey]
    · rw [List.filter_cons_of_pos (by simpa using he), List.lookup_cons, ih]

theorem lookup_enter (clients : List ((String × String) × String)) (c : AccessToken)
    (key : String × String) : (enter clients c).lookup key =
      if (c.realm, c.user) = key then some c.token else clients.lookup key := by
  rw [enter, List.lookup_cons]
  by_cases h : (c.realm, c.user) = key
  · simp [h]
  · have hkey : (key == (c.realm, c.user)) = false := beq_eq_false_iff_ne.mpr (Ne.symm h)
    rw [hkey, if_neg h]
    exact lookup_filter_ne h clients

/-- The client of a user is the last token, or else what it was before. -/
theorem lookup_foldl_enter (tokens : List AccessToken)
    (clients : List ((String × String) × String)) (key : String × String) :
    (tokens.foldl enter clients).lookup key =
      ((tokens.reverse.find? fun c => (c.realm, c.user) = key).map (·.token)).or
        (clients.lookup key) := by
  induction tokens generalizing clients with
  | nil => rfl
  | cons c rest ih =>
    rw [List.foldl_cons, ih, lookup_enter, List.reverse_cons, List.find?_append]
    cases rest.reverse.find? fun c => (c.realm, c.user) = key with
    | some d => rfl
    | none =>
      by_cases h : (c.realm, c.user) = key
      · simp [h]
      · simp [h]

/-- Each user is entered once. -/
theorem nodup_foldl_enter (tokens : List AccessToken) {clients : List ((String × String) × String)}
    (h : (clients.map (·.1)).Nodup) : ((tokens.foldl enter clients).map (·.1)).Nodup := by
  induction tokens generalizing clients with
  | nil => exact h
  | cons c rest ih =>
    apply ih
    rw [enter, List.map_cons, List.nodup_cons]
    constructor
    · simp
    · exact h.sublist (List.filter_sublist.map _)

/-- The token of a user that counts. -/
def lastToken? (tokens : List AccessToken) (realm user : String) : Option String :=
  (tokens.reverse.find? fun c => c.realm = realm ∧ c.user = user).map (·.token)

theorem isSome_lastToken? : (lastToken? tokens realm user).isSome = true ↔
    ∃ c ∈ tokens, c.realm = realm ∧ c.user = user := by
  simp [lastToken?]

theorem client_ofTokens : (ofTokens tokens).credentials.client realm user =
    if (ofTokens tokens).credentials.realmType realm = some githubRealm then
      lastToken? tokens realm user
    else none := by
  have hfold := lookup_foldl_enter (tokens.filter fun c =>
    (ofTokens tokens).credentials.realmType c.realm = some githubRealm) [] (realm, user)
  rw [← clients_ofTokens, List.lookup_nil, Option.or_none, ← List.filter_reverse,
    List.find?_filter] at hfold
  refine hfold.trans ?_
  -- of the tokens of the user, all are of the realm, so all of them count or none does
  split
  · next hkind =>
    rw [lastToken?]
    congr 2
    funext c
    by_cases hc : c.realm = realm
    · simp [hc, hkind]
    · simp [hc]
  · next hkind =>
    rw [Option.map_eq_none_iff, List.find?_eq_none]
    intro c _
    by_cases hc : c.realm = realm
    · simp [hc, hkind]
    · simp [hc]

/-- There are as many clients as there are users who are signed in. -/
theorem encard_signedIn (tokens : List AccessToken) :
    {p : String × String |
      ((ofTokens tokens).credentials.client p.1 p.2).isSome = true}.encard =
        (ofTokens tokens).size := by
  have hnodup : ((ofTokens tokens).clients.map (·.1)).Nodup := by
    rw [clients_ofTokens]
    exact nodup_foldl_enter _ List.nodup_nil
  have hset : {p : String × String |
      ((ofTokens tokens).credentials.client p.1 p.2).isSome = true} =
        ((ofTokens tokens).clients.map (·.1)).toFinset := by
    ext p
    rw [List.coe_toFinset, Set.mem_ofPred_eq, Set.mem_ofPred_eq, Option.isSome_iff_ne_none, ne_eq]
    show ¬(ofTokens tokens).clients.lookup p = none ↔ _
    rw [List.lookup_eq_none_iff]
    simp only [bne_iff_ne, ne_eq, not_forall, Classical.not_not, List.mem_map, exists_prop]
    exact exists_congr fun e => and_congr_right fun _ => eq_comm
  rw [hset, Set.encard_coe_eq_coe_finsetCard, List.toFinset_card_of_nodup hnodup, List.length_map,
    size]

/-! ## Both together -/

/-- **What tokens say of realms and users fits together.** A realm is of the kind that its first token
says, and known just when there is one. A user has a client just when the realm is of the kind that the
relay works with and some token is that user's in that realm, and then the client is the last such
token; and as many users are counted as have a client. So the first phase takes the client of any
service that names a realm and a user and has one, as its realm is never turned down. -/
theorem lookups_agree (tokens : List AccessToken) :
    (∀ realm, (ofTokens tokens).credentials.realmType realm =
      (tokens.find? (·.realm = realm)).map (·.realmType)) ∧
    (∀ realm user, ((ofTokens tokens).credentials.client realm user).isSome = true ↔
      (ofTokens tokens).credentials.realmType realm = some githubRealm ∧
        ∃ c ∈ tokens, c.realm = realm ∧ c.user = user) ∧
    (∀ realm user, (ofTokens tokens).credentials.client realm user =
      if (ofTokens tokens).credentials.realmType realm = some githubRealm then
        lastToken? tokens realm user
      else none) ∧
    {p : String × String |
      ((ofTokens tokens).credentials.client p.1 p.2).isSome = true}.encard =
        (ofTokens tokens).size ∧
    ∀ (s : Service) token, Reconcile.clientFor (ofTokens tokens).credentials s = .ok token ↔
      (s.realm ≠ "" ∧ s.user ≠ "") ∧ s.client? (ofTokens tokens).credentials = some token := by
  have hpresent : ∀ realm user,
      ((ofTokens tokens).credentials.client realm user).isSome = true ↔
        (ofTokens tokens).credentials.realmType realm = some githubRealm ∧
          ∃ c ∈ tokens, c.realm = realm ∧ c.user = user := by
    intro realm user
    rw [client_ofTokens]
    split
    · next hkind => simp [hkind, isSome_lastToken?]
    · next hkind => simp [hkind]
  refine ⟨fun realm => realmType_ofTokens, hpresent, fun realm user => client_ofTokens,
    encard_signedIn tokens, ?_⟩
  intro s token
  rw [Reconcile.clientFor_eq_ok_iff]
  constructor
  · rintro ⟨hnamed, -, hclient⟩
    exact ⟨hnamed, hclient⟩
  · rintro ⟨hnamed, hclient⟩
    obtain ⟨hkind, -⟩ := (hpresent s.realm s.user).mp (Option.isSome_of_eq_some hclient)
    exact ⟨hnamed, hkind, hclient⟩

/-- The first token of a realm says its kind, the last one of a user is the client, and a realm of
another kind has no clients. -/
example :
    let tokens : List AccessToken := [⟨"a", "github", "x", "1"⟩, ⟨"a", "jira", "x", "2"⟩,
      ⟨"b", "jira", "x", "3"⟩, ⟨"b", "github", "x", "4"⟩]
    (ofTokens tokens).credentials.client "a" "x" = some "2" ∧
      (ofTokens tokens).credentials.client "b" "x" = none ∧ (ofTokens tokens).size = 1 := by
  decide

end WebhookRelay.TokenBook
