import Mathlib.Data.List.Forall2
import WebhookRelay.Json.Decode
import WebhookRelay.SettingsFile

/-!
# The tokens in a settings file

If what stands under `credentials` is a list, each of its items is read as a token or the file is turned
down. If it is anything else, it is passed over without a word (`Settings.kept_if_listed`), which is not
how the sections of a file are treated.

What an item says is told by `AccessToken.Says`, from the keys of a table or the places of a list. The
lemmas about `named` and `positional` take in one field each.
-/

namespace WebhookRelay

open Toml (Value)

theorem mapM_eq_some_iff {α β : Type} {f : α → Option β} {items : List α} {results : List β} :
    items.mapM f = some results ↔ List.Forall₂ (fun a b => f a = some b) items results := by
  induction items generalizing results with
  | nil =>
    rw [List.mapM_nil, List.forall₂_nil_left_iff, eq_comm]
    exact Option.some_inj
  | cons a rest ih =>
    rw [List.mapM_cons, List.forall₂_cons_left_iff, Option.bind_eq_bind, Option.bind_eq_some_iff]
    refine exists_congr fun b => ?_
    rw [Option.bind_eq_bind, Option.bind_eq_some_iff]
    constructor
    · rintro ⟨hb, bs, hbs, h⟩
      exact ⟨bs, hb, ih.mp hbs, (Option.some.inj h).symm⟩
    · rintro ⟨bs, hb, hbs, rfl⟩
      exact ⟨hb, bs, ih.mpr hbs, rfl⟩

namespace Toml

/-! ## Texts -/

/-- Whether a value is a text. A date or time is the text that it is written as. -/
inductive Value.IsText : Value → String → Prop where
  | text (s : String) : IsText (.text s) s
  | moment (m : Moment) : IsText (.moment m) (String.ofList m.print)

theorem Value.toText_eq_some_iff {v : Value} {s : String} : v.toText = some s ↔ v.IsText s := by
  constructor
  · intro h
    cases v with
    | text t =>
      obtain rfl := Option.some.inj h
      exact .text t
    | moment m =>
      obtain rfl := Option.some.inj h
      exact .moment m
    | _ => cases h
  · rintro (_ | _)
    · rfl
    · rfl

/-- The items of a value, if it is a list. -/
def Value.items? : Value → Option (List Value)
  | array items => some items
  | _ => none

/-- Whether a text stands under a key. -/
def Holds (entries : List (String × Value)) (key text : String) : Prop :=
  ∃ v, Entries.find? key entries = some v ∧ v.IsText text

/-! ## Fields that are texts -/

variable {ρ : Type} {name : String} {set : ρ → String → ρ} {fields : List (Field ρ)} {r c : ρ}
  {entries : List (String × Value)}

/-- A field is taken in if its value is a text, and what follows goes on from there. -/
theorem bind_read_text_iff {defaulted : Bool} {v : Value} {next : ρ → Option ρ} :
    ((Field.text name defaulted set).read v r).bind next = some c ↔
      ∃ s, v.IsText s ∧ next (set r s) = some c := by
  simp only [Field.text, Option.bind_map, Option.bind_eq_some_iff, Value.toText_eq_some_iff,
    Function.comp_apply]

theorem named_of_found {f : Field ρ} {v : Value} (h : Entries.find? f.name entries = some v) :
    named entries (f :: fields) r = (f.read v r).bind (named entries fields) := by
  rw [named, List.foldlM_cons, h]
  rfl

theorem named_of_missing {f : Field ρ} (h : Entries.find? f.name entries = none) :
    named entries (f :: fields) r = if f.defaulted then named entries fields r else none := by
  rw [named, List.foldlM_cons, h]
  cases hdefaulted : f.defaulted with
  | false => rfl
  | true => rfl

/-- A field is read off a table if a text stands under its key, and may otherwise be left out. -/
theorem named_text_iff {defaulted : Bool} :
    named entries (.text name defaulted set :: fields) r = some c ↔
      (∃ s, Holds entries name s ∧ named entries fields (set r s) = some c) ∨
        (Entries.find? name entries = none ∧ defaulted = true ∧ named entries fields r = some c) := by
  cases hfind : Entries.find? name entries with
  | none =>
    rw [named_of_missing hfind]
    cases defaulted with
    | false => simp [Holds, hfind, Field.text]
    | true => simp [Holds, hfind, Field.text]
  | some v =>
    rw [named_of_found hfind, bind_read_text_iff]
    simp [Holds, hfind]

/-- A field is read off a list if its item is a text. -/
theorem positional_text_iff {defaulted : Bool} {v : Value} {items : List Value} :
    positional (.text name defaulted set :: fields) (v :: items) r = some c ↔
      ∃ s, v.IsText s ∧ positional fields items (set r s) = some c := by
  rw [positional, bind_read_text_iff]

end Toml

open Toml (Holds)

/-! ## What an item says -/

namespace AccessToken

/-- Whether a table is a token: its texts stand under their keys, and only the kind of the realm may be
left out. -/
structure InTable (entries : List (String × Value)) (c : AccessToken) : Prop where
  realm : Holds entries "realm_id" c.realm
  realmType : Holds entries "realm_type" c.realmType ∨
    Entries.find? "realm_type" entries = none ∧ c.realmType = "github"
  user : Holds entries "user_id" c.user
  token : Holds entries "token" c.token

/-- Whether a value is a token: a table, or a list of its four texts in order. -/
inductive Says : Value → AccessToken → Prop where
  | table {entries : List (String × Value)} {c : AccessToken} (h : InTable entries c) :
      Says (.table entries) c
  | array {realm realmType user token : Value} {c : AccessToken} (hrealm : realm.IsText c.realm)
      (hrealmType : realmType.IsText c.realmType) (huser : user.IsText c.user)
      (htoken : token.IsText c.token) : Says (.array [realm, realmType, user, token]) c

variable {c : AccessToken}

theorem ofToml_table_iff {entries : List (String × Value)} :
    ofToml (.table entries) = some c ↔ InTable entries c := by
  obtain ⟨realm, realmType, user, token⟩ := c
  simp only [ofToml, Toml.record, fields, Toml.named_text_iff, Bool.false_eq_true, false_and, and_false,
    or_false, true_and]
  -- two ways to read a table: with the kind of the realm, or without it
  constructor
  · rintro ⟨_, hrealm, ⟨_, hkind, _, huser, _, htoken, h⟩ | ⟨hkind, _, huser, _, htoken, h⟩⟩
    · cases h
      exact ⟨hrealm, .inl hkind, huser, htoken⟩
    · cases h
      exact ⟨hrealm, .inr ⟨hkind, rfl⟩, huser, htoken⟩
  · rintro ⟨hrealm, hkind | ⟨hkind, hgithub⟩, huser, htoken⟩
    · exact ⟨_, hrealm, .inl ⟨_, hkind, _, huser, _, htoken, rfl⟩⟩
    · refine ⟨_, hrealm, .inr ⟨hkind, _, huser, _, htoken, ?_⟩⟩
      rw [Toml.named, List.foldlM_nil, show realmType = githubRealm from hgithub]
      rfl

theorem ofToml_array_iff {items : List Value} :
    ofToml (.array items) = some c ↔ Says (.array items) c := by
  obtain ⟨realm, realmType, user, token⟩ := c
  constructor
  · intro h
    simp only [ofToml, Toml.record, fields] at h
    -- a place that is left out needs a default, and only the second field has one
    rcases items with _ | ⟨v₁, _ | ⟨v₂, _ | ⟨v₃, _ | ⟨v₄, rest⟩⟩⟩⟩
    · cases h
    · obtain ⟨_, -, h⟩ := Toml.positional_text_iff.mp h
      cases h
    · simp only [Toml.positional_text_iff] at h
      obtain ⟨_, -, _, -, h⟩ := h
      cases h
    · simp only [Toml.positional_text_iff] at h
      obtain ⟨_, -, _, -, _, -, h⟩ := h
      cases h
    · simp only [Toml.positional_text_iff] at h
      obtain ⟨_, hrealm, _, hkind, _, huser, _, htoken, h⟩ := h
      cases rest with
      | nil =>
        cases h
        exact .array hrealm hkind huser htoken
      | cons v₅ rest => cases h
  · rintro (_ | ⟨hrealm, hrealmType, huser, htoken⟩)
    simp only [ofToml, Toml.record, fields, Toml.positional_text_iff]
    exact ⟨_, hrealm, _, hrealmType, _, huser, _, htoken, rfl⟩

/-- What is read of a value is what it says. -/
theorem ofToml_eq_some_iff {v : Value} : ofToml v = some c ↔ Says v c := by
  cases v with
  | table entries =>
    rw [ofToml_table_iff]
    constructor
    · exact .table
    · rintro ⟨h⟩
      exact h
  | array items => exact ofToml_array_iff
  | _ => exact iff_of_false nofun nofun

end AccessToken

/-! ## What is read of a file -/

namespace Settings

variable {entries : List (String × Value)} {items : List Value} {tokens : List AccessToken}
  {s : Settings} {v : Value}

theorem tokensIn_of_list (h : Entries.find? "credentials" entries = some (.array items)) :
    tokensIn entries = .ok tokens ↔ List.Forall₂ AccessToken.Says items tokens := by
  have hread : AccessToken.Says = fun v c => AccessToken.ofToml v = some c := by
    funext v c
    exact propext AccessToken.ofToml_eq_some_iff.symm
  rw [hread, ← mapM_eq_some_iff, tokensIn, h]
  dsimp only
  cases items.mapM AccessToken.ofToml with
  | none => exact iff_of_false nofun nofun
  | some tokens' => simp

theorem tokensIn_of_other (h : ∀ items, Entries.find? "credentials" entries ≠ some (.array items)) :
    tokensIn entries = .ok [] := by
  rw [tokensIn]
  split
  · next items hfind => exact absurd hfind (h items)
  · rfl

/-- A section that is there is read. -/
theorem section?_eq_ok {α : Type} {name : String} {f : Value → Option α} {found : Option α}
    (h : section? entries name f = .ok found) (hfind : Entries.find? name entries = some v) :
    found = f v ∧ (f v).isSome = true := by
  rw [section?, hfind] at h
  dsimp only at h
  split at h
  · next a ha =>
    cases h
    rw [ha]
    exact ⟨rfl, rfl⟩
  · cases h

theorem section?_drop {α : Type} {name other : String} (f : Value → Option α) (h : other ≠ name) :
    Settings.section? (Entries.drop other entries) name f = section? entries name f := by
  rw [section?, section?, Entries.find?_drop, if_neg h]

theorem tokensIn_drop : tokensIn (Entries.drop "credentials" entries) = .ok [] := by
  refine tokensIn_of_other fun items => ?_
  rw [Entries.find?_drop, if_pos rfl]
  nofun

/-- A file is read if its sections and its tokens are. -/
theorem ofEntries_eq_ok_iff : ofEntries entries = .ok s ↔
    (∃ server, section? entries "server" ServerSettings.ofToml = .ok server ∧
      s.server = server.getD {}) ∧
    (∃ provider, section? entries "github" ProviderSettings.ofToml = .ok provider ∧
      s.provider = provider.getD {}) ∧
    Settings.section? entries "matrix" ChatSettings.ofToml = .ok (some s.chat) ∧
    tokensIn entries = .ok s.tokens := by
  obtain ⟨server, chat, provider, tokens⟩ := s
  simp only [ofEntries, Json.bind_eq_ok_iff]
  constructor
  · rintro ⟨server?, hserver, provider?, hprovider, chat?, hchat, h⟩
    cases chat? with
    | none => cases h
    | some chat =>
      obtain ⟨tokens', htokens, h⟩ := Json.bind_eq_ok_iff.mp h
      cases h
      exact ⟨⟨server?, hserver, rfl⟩, ⟨provider?, hprovider, rfl⟩, hchat, htokens⟩
  · rintro ⟨⟨server?, hserver, rfl⟩, ⟨provider?, hprovider, rfl⟩, hchat, htokens⟩
    refine ⟨server?, hserver, provider?, hprovider, some chat, hchat, ?_⟩
    exact Json.bind_eq_ok_iff.mpr ⟨tokens, htokens, rfl⟩

/-- Without its tokens a file is read just when its sections are. -/
theorem ofEntries_drop_eq_ok_iff :
    ofEntries (Entries.drop "credentials" entries) = .ok { s with tokens := [] } ∧
      tokensIn entries = .ok s.tokens ↔ ofEntries entries = .ok s := by
  have hserver : "credentials" ≠ "server" := by decide
  have hprovider : "credentials" ≠ "github" := by decide
  have hchat : "credentials" ≠ "matrix" := by decide
  simp only [ofEntries_eq_ok_iff, tokensIn_drop, ne_eq, hserver, hprovider, hchat, not_false_eq_true,
    and_true, and_assoc, section?_drop]

/-- A file from which no tokens are read may as well be without them. -/
theorem ofEntries_drop (h : tokensIn entries = .ok []) :
    ofEntries (Entries.drop "credentials" entries) = ofEntries entries := by
  rw [ofEntries, ofEntries, tokensIn_drop, h, section?_drop _ (by decide), section?_drop _ (by decide),
    Settings.section?_drop _ (by decide)]

/-- **Tokens are kept if they are in a list.** A file can be taken apart, and there is something under
`credentials`. If that is a list, the file is read as some settings just when it is so without the
tokens and the tokens of the settings are what the items say, one for each in order. If it is not, the
file is read, or turned down, as if it were not there, and there are no tokens. This is not so for the
sections of a file, which are read if they are there. -/
theorem kept_if_listed {text : String} {file : Value} (hread : Toml.read text.toList = some file)
    (hkey : Entries.find? "credentials" file.entries = some v) :
    (∀ items, v = .array items → ∀ s, ofText text = .ok s ↔
      ofEntries (Entries.drop "credentials" file.entries) = .ok { s with tokens := [] } ∧
        List.Forall₂ AccessToken.Says items s.tokens) ∧
    ((∀ items, v ≠ .array items) →
      ofText text = ofEntries (Entries.drop "credentials" file.entries) ∧
        ∀ s, ofText text = .ok s → s.tokens = []) ∧
    ∀ s, ofText text = .ok s →
      (∀ w, Entries.find? "server" file.entries = some w → ServerSettings.ofToml w = some s.server) ∧
      (∀ w, Entries.find? "github" file.entries = some w →
        ProviderSettings.ofToml w = some s.provider) ∧
      ∀ w, Entries.find? "matrix" file.entries = some w → ChatSettings.ofToml w = some s.chat := by
  have htext : ofText text = ofEntries file.entries := by
    rw [ofText, hread]
  rw [htext]
  refine ⟨?_, ?_, ?_⟩
  · rintro items rfl s
    rw [← ofEntries_drop_eq_ok_iff, tokensIn_of_list hkey]
  · intro hother
    have htokens : tokensIn file.entries = .ok [] :=
      tokensIn_of_other fun items h => hother items (Option.some.inj (hkey.symm.trans h))
    refine ⟨(ofEntries_drop htokens).symm, fun s hs => ?_⟩
    have hempty := (ofEntries_eq_ok_iff.mp hs).2.2.2
    rw [htokens] at hempty
    exact (Except.ok.inj hempty).symm
  · intro s hs
    obtain ⟨⟨server, hserver, heq⟩, ⟨provider, hprovider, heq'⟩, hchat, -⟩ :=
      ofEntries_eq_ok_iff.mp hs
    refine ⟨fun w hw => ?_, fun w hw => ?_, fun w hw => ?_⟩
    · obtain ⟨rfl, hsome⟩ := section?_eq_ok hserver hw
      rw [heq, Option.getD_of_ne_none (Option.isSome_iff_ne_none.mp hsome)]
    · obtain ⟨rfl, hsome⟩ := section?_eq_ok hprovider hw
      rw [heq', Option.getD_of_ne_none (Option.isSome_iff_ne_none.mp hsome)]
    · exact (section?_eq_ok hchat hw).1.symm

/-! ### Two files -/

/-- A file with a chat server, and then some more. -/
def fileWith (more : String) : String := "matrix=['h','u','t']\n" ++ more

/-- What is read of such a file, if there are only tokens in it besides. -/
def readWith (tokens : List AccessToken) : Settings where
  server := {}
  chat := { homeserverUrl := "h", user := "u", accessToken := "t" }
  provider := {}
  tokens := tokens

/-- Two tables in a list. -/
def listed : String := fileWith <|
  "[[credentials]]\nrealm_id='g'\nuser_id='a'\ntoken='1'\n" ++
  "[[credentials]]\nrealm_id='j'\nrealm_type='jira'\nuser_id='b'\ntoken='2'\n"

/-- A table of its own. -/
def unlisted : String := fileWith "[credentials]\nrealm_id='g'\nuser_id='a'\ntoken='1'\n"

/-- What stands in a list is read, one token for each table. -/
theorem kept_if_listed_twice : ∃ file items,
    Toml.read listed.toList = some file ∧
    Entries.find? "credentials" file.entries = some (.array items) ∧
    List.Forall₂ AccessToken.Says items [⟨"g", "github", "a", "1"⟩, ⟨"j", "jira", "b", "2"⟩] := by
  -- there is no deciding if two values are equal, so this is about what is read of the file in the end
  have hlisted : ((Toml.read listed.toList).bind fun file =>
      (Entries.find? "credentials" file.entries).bind fun v =>
        v.items?.map fun _ => ofEntries file.entries) =
      some (.ok (readWith [⟨"g", "github", "a", "1"⟩, ⟨"j", "jira", "b", "2"⟩])) := by
    decide +kernel
  obtain ⟨file, hread, hlisted⟩ := Option.bind_eq_some_iff.mp hlisted
  obtain ⟨v, hkey, hlisted⟩ := Option.bind_eq_some_iff.mp hlisted
  cases v with
  | array items =>
    have htext : ofText listed =
        .ok (readWith [⟨"g", "github", "a", "1"⟩, ⟨"j", "jira", "b", "2"⟩]) := by
      rw [ofText, hread]
      exact Option.some.inj hlisted
    exact ⟨file, items, hread, hkey, (((kept_if_listed hread hkey).1 items rfl _).mp htext).2⟩
  | _ => cases hlisted

/-- A token in a table of its own is passed over, while a section that is none is turned down. -/
theorem unlisted_ignored :
    (∃ file entries, Toml.read unlisted.toList = some file ∧
      Entries.find? "credentials" file.entries = some (.table entries) ∧
      AccessToken.Says (.table entries) ⟨"g", "github", "a", "1"⟩) ∧
    ofText unlisted = .ok (readWith []) ∧
    ofText (fileWith "server=3\n") = .error (.badSection "server") := by
  refine ⟨?_, by decide +kernel, by decide +kernel⟩
  have htable : ((Toml.read unlisted.toList).bind fun file =>
      (Entries.find? "credentials" file.entries).bind fun v =>
        if v.items?.isNone then AccessToken.ofToml v else none) = some ⟨"g", "github", "a", "1"⟩ := by
    decide +kernel
  obtain ⟨file, hread, htable⟩ := Option.bind_eq_some_iff.mp htable
  obtain ⟨v, hkey, htable⟩ := Option.bind_eq_some_iff.mp htable
  cases v with
  | table entries =>
    exact ⟨file, entries, hread, hkey, AccessToken.ofToml_eq_some_iff.mp htable⟩
  | _ => cases htable

end Settings

end WebhookRelay
