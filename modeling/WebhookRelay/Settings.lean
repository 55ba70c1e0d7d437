import WebhookRelay.Program
import WebhookRelay.Text.Blank

/-!
# Settings

What the server is told when it starts: where it listens and how it is reached, the chat server it
talks to, the provider's interface, and who is signed in.
-/

namespace WebhookRelay

/-- Where the server listens and how it is reached. -/
structure ServerSettings where
  port : UInt16 := 9000
  host : String := "0.0.0.0"
  /-- the URL under which others reach the server -/
  publicUrl : String := "http://localhost:9000"
  logLevel : String := "info"
  deriving DecidableEq

/-- The path under which deliveries come in, up to the id of the service. -/
def hooksPath : String := "/services/hooks/"

/-- The URL that a service's deliveries are to be sent to. -/
def ServerSettings.callbackUrl (s : ServerSettings) (id : String) : String :=
  String.ofList (Text.dropEndWhile (· = '/') s.publicUrl.toList) ++ hooksPath ++ id

/-- How long a request to another server may take, in milliseconds. -/
def defaultTimeout : UInt64 := 30000

/-- The chat server. -/
structure ChatSettings where
  homeserverUrl : String
  user : String
  accessToken : String
  /-- how long a request may take, in milliseconds -/
  timeout : UInt64 := defaultTimeout
  deriving DecidableEq

/-- The provider's interface. -/
structure ProviderSettings where
  apiUrl : String := "https://api.github.com"
  /-- how long a request may take, in milliseconds -/
  timeout : UInt64 := defaultTimeout
  deriving DecidableEq

/-- The token of a user in a realm. -/
structure AccessToken where
  realm : String
  realmType : String := githubRealm
  user : String
  token : String
  deriving DecidableEq

/-- All settings. -/
structure Settings where
  server : ServerSettings
  chat : ChatSettings
  provider : ProviderSettings
  tokens : List AccessToken
  deriving DecidableEq

/-! ## Credentials from tokens -/

/-- The clients of the users that tokens name, and what is known of their realms. -/
structure TokenBook where
  /-- the kind of each realm: what its first token says -/
  realms : Table String
  /-- the tokens of users in realms of the right kind, by realm and user, the newest first -/
  clients : List ((String × String) × String)

namespace TokenBook

/-- Reads off the kind of each realm. -/
def realmsOf (tokens : List AccessToken) : Table String :=
  tokens.foldl (fun t c => t.alter c.realm (·.getD c.realmType)) ∅

/-- The tokens as clients. A later token of a user replaces an earlier one. -/
def ofTokens (tokens : List AccessToken) : TokenBook :=
  let realms := realmsOf tokens
  let usable := tokens.filter fun c => realms.get? c.realm = some githubRealm
  { realms, clients := usable.foldl (fun cs c =>
      ((c.realm, c.user), c.token) :: cs.filter (·.1 ≠ (c.realm, c.user))) [] }

/-- How many users are signed in. -/
def size (b : TokenBook) : Nat := b.clients.length

/-- The credentials, a client being a token. -/
def credentials (b : TokenBook) : Credentials String where
  realmType := b.realms.get?
  client realm user := b.clients.lookup (realm, user)

end TokenBook

end WebhookRelay
