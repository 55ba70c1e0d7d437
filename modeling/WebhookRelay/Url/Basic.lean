import WebhookRelay.Http.Percent
import WebhookRelay.Text.Split

/-!
# URLs

An absolute URL in its normal form: scheme and host in lower case, no default port, no dot segments,
and everything escaped that has to be.

`Url.extend` adds segments to a path and escapes them.
-/

namespace WebhookRelay

/-- The server in a URL. -/
structure Url.Site where
  /-- the name and the password that stand before the host, with a colon between them -/
  login : List Char := []
  /-- the host, which may be empty outside the schemes of the web -/
  host : List Char
  /-- the port, unless it is the one that goes without saying -/
  port : Option Nat := none
  deriving DecidableEq

/-- The path of a URL. -/
inductive Url.Path where
  /-- segments, each of which a slash stands before -/
  | segments (ss : List (List Char))
  /-- a text that nothing can be added to -/
  | plain (text : List Char)
  deriving DecidableEq

/-- An absolute URL. -/
structure Url where
  scheme : List Char
  site : Option Url.Site
  path : Url.Path
  query : Option (List Char) := none
  fragment : Option (List Char) := none
  deriving DecidableEq

namespace Url

/-! ## Schemes -/

/-- The ports that go without saying. -/
def defaultPorts : List (String × Nat) :=
  [("http", 80), ("https", 443), ("ws", 80), ("wss", 443), ("ftp", 21)]

/-- The port that goes without saying for a scheme. -/
def defaultPort? (scheme : List Char) : Option Nat := defaultPorts.lookup (String.ofList scheme)

/-- Whether a scheme is one of the web, in whose URLs backslashes are slashes. -/
def isWeb (scheme : List Char) : Bool :=
  (defaultPort? scheme).isSome || scheme = ['f', 'i', 'l', 'e']

/-! ## Text -/

/-- The text of a path. -/
def Path.print : Path → List Char
  | segments ss => ss.flatMap ('/' :: ·)
  | plain text => text

/-- The text of a server. -/
def Site.print (s : Site) : List Char :=
  ['/', '/'] ++ (if s.login.isEmpty then [] else s.login ++ ['@']) ++ s.host ++
    match s.port with
    | some p => ':' :: Nat.toDigits 10 p
    | none => []

/-- What stands for a server where there is none. It keeps an empty first segment from being read as
the beginning of one. -/
def Path.guard : Path → List Char
  | segments ([] :: _ :: _) => ['/', '.']
  | _ => []

/-- The text of a URL. -/
def print (u : Url) : List Char :=
  u.scheme ++ ':' :: (u.site.map Site.print).getD u.path.guard ++ u.path.print ++
    (u.query.map ('?' :: ·)).getD [] ++ (u.fragment.map ('#' :: ·)).getD []

instance : ToString Url := ⟨fun u => String.ofList u.print⟩

/-! ## Servers -/

/-- Whether a URL names a host. -/
def hasHost (u : Url) : Bool :=
  match u.site with
  | some s => !s.host.isEmpty
  | none => false

/-- The text that an escaped text stands for, if it does for one. -/
def unescaped? (cs : List Char) : Option String := Utf8.decode? (Http.Percent.decode cs)

/-- The name and the password of a login, with a colon between them, if they can be sent apart from
the URL. The name has to stand for a text, and a password that does not is left out; without one, a
name that is empty is as good as none. -/
def plainLogin? (login : List Char) : Option String :=
  let (name, password) := match Text.cutAtFirst ':' login with
    | some (name, password) => (name, unescaped? password)
    | none => (login, none)
  (unescaped? name).bind fun name =>
    if name.isEmpty && password.isNone then none else some (name ++ ":" ++ password.getD "")

/-- The name and the password in a URL, if they can be sent apart from it. -/
def login? (u : Url) : Option String := u.site.bind fun s => plainLogin? s.login

/-- A URL as it is sent: without name and password, if they can be sent apart. -/
def withoutLogin (u : Url) : Url :=
  { u with
    site := u.site.map fun s => if (plainLogin? s.login).isSome then { s with login := [] } else s }

/-! ## Paths -/

/-- Whether a character is escaped in a path. -/
def reservedInPath (c : Char) : Bool :=
  c.toNat ≤ 0x20 || 0x7F ≤ c.toNat ||
    ['"', '#', '<', '>', '?', '\x60', '\x7b', '\x7d'].contains c

/-- Whether a character is escaped in a segment that is added to a path. -/
def reservedInSegment (web : Bool) (c : Char) : Bool :=
  reservedInPath c || c = '/' || c = '%' || (web && c = '\\')

/-- Whether a character vanishes from a URL. -/
def vanishes (c : Char) : Bool := c = '\t' || c = '\n' || c = '\r'

/-- Whether a segment stands for the folder it is in. -/
def isDot (s : List Char) : Bool :=
  [['.'], ['%', '2', 'e']].contains (s.map Char.toLower)

/-- Whether a segment stands for the folder above. -/
def isDotDot (s : List Char) : Bool :=
  [['.', '.'], ['.', '%', '2', 'e'], ['%', '2', 'e', '.'], ['%', '2', 'e', '%', '2', 'e']].contains
    (s.map Char.toLower)

/-- Whether a segment names a drive: a letter with a colon or a bar. -/
def isDrive : List Char → Bool
  | [letter, mark] => letter.isAlpha && (mark = ':' || mark = '|')
  | _ => false

/-- The path of the folder above. There is none above a drive, which a backslash may end. -/
def above (path : List (List Char)) : List (List Char) :=
  if path.getLast?.any fun s => isDrive (s.takeWhile (· ≠ '\\')) then path else path.dropLast

/-- Adds a last segment, which may be one of dots. -/
def addLast (path : List (List Char)) (s : List Char) : List (List Char) :=
  if isDotDot s then above path ++ [[]]
  else if isDot s then path ++ [[]]
  else path ++ [s]

/-- Adds a segment to a path and escapes it. A path of nothing but a slash gives its place to it; a
segment that is written as dots is passed over. -/
def push (web : Bool) (path : List (List Char)) (segment : List Char) : List (List Char) :=
  if segment = ['.'] || segment = ['.', '.'] then path
  else
    addLast (if path = [[]] then [] else path)
      (Http.Percent.encode (reservedInSegment web) (segment.filter (!vanishes ·)))

/-- A path without the empty segment at its end, unless there is no other. -/
def dropEmptyEnd (path : List (List Char)) : List (List Char) :=
  if 1 < path.length && path.getLast? = some [] then path.dropLast else path

/-- A URL with segments added to its path, in place of an empty one at the end. -/
def extend (u : Url) (segments : List (List Char)) : Option Url :=
  match u.path with
  | .plain _ => none
  | .segments ss =>
    some { u with path := .segments (segments.foldl (push (isWeb u.scheme)) (dropEmptyEnd ss)) }

/-- A URL with a pair added to its query. -/
def addToQuery (u : Url) (pair : List Char) : Url :=
  { u with query := some <|
      match u.query with
      | none | some [] => pair
      | some q => q ++ '&' :: pair }

end Url

end WebhookRelay
