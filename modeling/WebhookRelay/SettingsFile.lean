import WebhookRelay.Settings
import WebhookRelay.Text.Utf8
import WebhookRelay.Toml.Document
import WebhookRelay.Toml.Record

/-!
# Settings files

The settings in a file: the sections `server`, `github` and `matrix`, of which only the last has to
be there, and a list of `credentials`. What else is in the file is passed over, and so is
anything under `credentials` that is not a list.
-/

namespace WebhookRelay

open Toml (Value)

/-! ## What can be wrong with a file -/

/-- Why settings could not be read. -/
inductive SettingsFault where
  /-- there is no file -/
  | absent
  /-- the file is not text -/
  | notText
  /-- the file is not in the form of a settings file -/
  | malformed
  /-- a section does not hold what it should -/
  | badSection (name : String)
  /-- one of the credentials does not hold what it should -/
  | badCredentials
  /-- a section that has to be there is not -/
  | missingSection (name : String)
  deriving DecidableEq, Repr

/-- The text of a fault. -/
def SettingsFault.message : SettingsFault → String
  | absent => "IO error: No such file or directory (os error 2)"
  | notText => "IO error: stream did not contain valid UTF-8"
  | malformed => "Parse error: not a settings file"
  | badSection name => s!"Parse error: [{name}]: a field is missing or of another kind"
  | badCredentials => "Parse error: a field is missing or of another kind"
  | missingSection name => s!"Missing section: [{name}]"

/-! ## Sections -/

/-- A field that is a text. -/
def Toml.Field.text {ρ : Type} (name : String) (defaulted : Bool) (set : ρ → String → ρ) :
    Toml.Field ρ :=
  ⟨name, defaulted, fun v r => v.toText.map (set r)⟩

/-- A field that is a time in milliseconds. -/
def Toml.Field.milliseconds {ρ : Type} (name : String) (set : ρ → UInt64 → ρ) : Toml.Field ρ :=
  ⟨name, true, fun v r => (v.toNatBelow UInt64.size).map fun n => set r (UInt64.ofNat n)⟩

namespace ServerSettings

/-- The fields of the section `server`. -/
def fields : List (Toml.Field ServerSettings) :=
  [⟨"port", true, fun v s =>
      (v.toNatBelow UInt16.size).map fun n => { s with port := UInt16.ofNat n }⟩,
    .text "host" true ({ · with host := · }),
    .text "public_url" true ({ · with publicUrl := · }),
    .text "log_level" true ({ · with logLevel := · })]

/-- Reads the section `server`. -/
def ofToml : Value → Option ServerSettings := Toml.record fields {}

end ServerSettings

namespace ProviderSettings

/-- The fields of the section `github`. -/
def fields : List (Toml.Field ProviderSettings) :=
  [.text "api_url" true ({ · with apiUrl := · }),
    .milliseconds "timeout_ms" ({ · with timeout := · })]

/-- Reads the section `github`. -/
def ofToml : Value → Option ProviderSettings := Toml.record fields {}

end ProviderSettings

namespace ChatSettings

/-- The fields of the section `matrix`. -/
def fields : List (Toml.Field ChatSettings) :=
  [.text "homeserver_url" false ({ · with homeserverUrl := · }),
    .text "user_id" false ({ · with user := · }),
    .text "access_token" false ({ · with accessToken := · }),
    .milliseconds "timeout_ms" ({ · with timeout := · })]

/-- Reads the section `matrix`. -/
def ofToml : Value → Option ChatSettings :=
  Toml.record fields { homeserverUrl := "", user := "", accessToken := "" }

end ChatSettings

namespace AccessToken

/-- The fields of an element of `credentials`. -/
def fields : List (Toml.Field AccessToken) :=
  [.text "realm_id" false ({ · with realm := · }),
    .text "realm_type" true ({ · with realmType := · }),
    .text "user_id" false ({ · with user := · }),
    .text "token" false ({ · with token := · })]

/-- Reads an element of `credentials`. -/
def ofToml : Value → Option AccessToken :=
  Toml.record fields { realm := "", user := "", token := "" }

end AccessToken

/-! ## The file -/

namespace Settings

/-- A section of a file, if it is there. -/
def section? {α : Type} (entries : List (String × Value)) (name : String) (f : Value → Option α) :
    Except SettingsFault (Option α) :=
  match Entries.find? name entries with
  | none => .ok none
  | some v =>
    match f v with
    | some a => .ok (some a)
    | none => .error (.badSection name)

/-- The credentials in a file. -/
def tokensIn (entries : List (String × Value)) : Except SettingsFault (List AccessToken) :=
  match Entries.find? "credentials" entries with
  | some (.array items) =>
    match items.mapM AccessToken.ofToml with
    | some tokens => .ok tokens
    | none => .error .badCredentials
  | _ => .ok []

/-- Reads settings from the entries of a file. -/
def ofEntries (entries : List (String × Value)) : Except SettingsFault Settings := do
  let server ← section? entries "server" ServerSettings.ofToml
  let provider ← section? entries "github" ProviderSettings.ofToml
  let some chat ← section? entries "matrix" ChatSettings.ofToml
    | .error (.missingSection "matrix")
  let tokens ← tokensIn entries
  return ⟨server.getD {}, chat, provider.getD {}, tokens⟩

/-- Reads settings from the text of a file. -/
def ofText (s : String) : Except SettingsFault Settings :=
  match Toml.read s.toList with
  | some v => ofEntries v.entries
  | none => .error .malformed

/-- Reads settings from the bytes of a file, if there is one. -/
def ofFile : Option Bytes → Except SettingsFault Settings
  | none => .error .absent
  | some bytes =>
    match Utf8.decode? bytes with
    | some s => ofText s
    | none => .error .notText

end Settings

end WebhookRelay
