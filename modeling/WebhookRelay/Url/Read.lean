import WebhookRelay.Url.Basic
import WebhookRelay.Url.Host

/-!
# Reading URLs

`Url.read` takes an absolute URL apart and brings it into its normal form.
-/

namespace WebhookRelay.Url

open Text

/-! ## Parts -/

/-- A text without blanks and control characters at its ends, and without those that vanish. -/
def clean (cs : List Char) : List Char :=
  let outer (c : Char) : Bool := c.toNat ≤ 0x20
  ((((cs.dropWhile outer).reverse.dropWhile outer).reverse).filter (!vanishes ·))

/-- Whether a character may stand in a scheme. -/
def inScheme (c : Char) : Bool := c.isAlphanum || c = '+' || c = '-' || c = '.'

/-- The scheme, in lower case, and what follows it. -/
def cutScheme (cs : List Char) : Option (List Char × List Char) :=
  match cutAtFirst ':' cs with
  | some (c :: rest, after) =>
    if c.isAlpha && rest.all inScheme then some ((c :: rest).map Char.toLower, after) else none
  | _ => none

/-- What stands before a character, and what stands after it if it is there. -/
def cutOptional (sep : Char) (cs : List Char) : List Char × Option (List Char) :=
  match cutAtFirst sep cs with
  | some (before, after) => (before, some after)
  | none => (cs, none)

/-- Whether a character is escaped in a fragment. -/
def reservedInFragment (c : Char) : Bool :=
  isControl c || [' ', '"', '<', '>', '\x60'].contains c

/-- Whether a character is escaped in a query. -/
def reservedInQuery (web : Bool) (c : Char) : Bool :=
  isControl c || [' ', '"', '#', '<', '>'].contains c || (web && c = '\'')

/-! ## Servers -/

/-- Whether a character is escaped in a name or a password. -/
def reservedInLogin (c : Char) : Bool :=
  reservedInPath c || ['/', ':', ';', '=', '@', '[', '\\', ']', '^', '|'].contains c

/-- A name and a password. A colon that no password follows is left out. -/
def readLogin (text : List Char) : List Char :=
  let escaped := Http.Percent.encode reservedInLogin
  match cutOptional ':' text with
  | (name, none) | (name, some []) => escaped name
  | (name, some password) => escaped name ++ ':' :: escaped password

/-- The name and the password before a server, if there is an `@` behind them, and the server. -/
def cutLogin (authority : List Char) : Option (List Char) × List Char :=
  let site := (authority.reverse.takeWhile (· ≠ '@')).reverse
  (if site.length = authority.length then none
    else some (authority.take (authority.length - site.length - 1)), site)

/-- The host and the text of the port; colons between brackets belong to the host. -/
def cutPort : Bool → List Char → List Char × Option (List Char)
  | _, [] => ([], none)
  | inside, c :: rest =>
    if c = ':' && !inside then ([], some rest)
    else
      let (host, port) := cutPort (c = '[' || (inside && c ≠ ']')) rest
      (c :: host, port)

/-- The port in a text, unless it goes without saying. -/
def readPort (scheme text : List Char) : Except Fault (Option Nat) :=
  match text.foldlM (fun n c => if c.isDigit then some (10 * n + (c.toNat - 0x30)) else none) 0 with
  | none => .error .badPort
  | some p =>
    if 0xFFFF < p then .error .badPort
    else .ok (if text.isEmpty || defaultPort? scheme = some p then none else some p)

/-- The server in the part of a URL that names it, and what the path begins with besides what follows
that part. Whether anything follows it in the URL is given. -/
def readSite (scheme authority : List Char) (followed : Bool) :
    Except Fault (Site × List Char) := do
  let (login, site) := cutLogin authority
  if login = some [] && site.isEmpty && followed then throw .emptyHost
  let (hostText, portText) := cutPort false site
  let host ← if isWeb scheme then webHost hostText else otherHost hostText
  let login := (login.map readLogin).getD []
  if host.isEmpty && (portText.isSome || !login.isEmpty) then throw .emptyHost
  -- a backslash ends the port also where it is no slash
  let portText := portText.getD []
  let port ← readPort scheme (portText.takeWhile (· ≠ '\\'))
  return ({ login, host, port }, portText.dropWhile (· ≠ '\\'))

/-! ## Paths -/

/-- The segments of a path once those of dots have taken effect. -/
def resolve : List (List Char) → List (List Char) → List (List Char)
  | done, [] => done
  | done, [s] => addLast done s
  | done, s :: rest =>
    if isDotDot s then resolve (above done) rest
    else if isDot s then resolve done rest
    else resolve (done ++ [s]) rest

/-- The segments of the path in a text in which all slashes are slashes. -/
def readSegments (text : List Char) : List (List Char) :=
  let text := if text.head? = some '/' then text.drop 1 else text
  resolve [] ((pieces '/' text).map (Http.Percent.encode reservedInPath))

/-- A text in which backslashes are slashes. -/
def straighten (cs : List Char) : List Char := cs.map fun c => if c = '\\' then '/' else c

/-! ## Files -/

/-- A segment in which a drive is named with a colon. -/
def driveColon (s : List Char) : List Char := if isDrive s then s.take 1 ++ [':'] else s

/-- A path without the empty segments at its start, unless there are no others. -/
def dropEmptyStart : List (List Char) → List (List Char)
  | [] :: s :: rest => dropEmptyStart (s :: rest)
  | path => path

/-- The host of a file. -/
def fileHost (name : List Char) : Except Fault (List Char) :=
  if name.isEmpty then .ok []
  else (webHost name).map fun host => if host = "localhost".toList then [] else host

/-- The host and the path of a file, given the text between the scheme and the query. Two slashes stand
before a host, which may be left out. A drive is on no host. -/
def readFile (text : List Char) : Except Fault (Site × Path) := do
  let (host, path) ← match straighten text with
    | '/' :: '/' :: rest =>
      let name := rest.takeWhile (· ≠ '/')
      if isDrive name then pure ([], rest)
      else pure (← fileHost name, rest.dropWhile (· ≠ '/'))
    | text => pure ([], text)
  let segments := dropEmptyStart ((readSegments path).map driveColon)
  return ({ host := if segments.any isDrive then [] else host }, .segments segments)

/-! ## URLs -/

/-- The server and the path in the text between the scheme and the query. Whether anything follows
it is given. -/
def readMiddle (scheme text : List Char) (followed : Bool) :
    Except Fault (Option Site × Path) := do
  if (defaultPort? scheme).isSome then
    -- `http` and its like: a host follows any number of slashes
    let text := (straighten text).dropWhile (· = '/')
    let path := text.dropWhile (· ≠ '/')
    let (site, _) ← readSite scheme (text.takeWhile (· ≠ '/')) (followed || !path.isEmpty)
    return (some site, .segments (readSegments path))
  else if isWeb scheme then
    let (site, path) ← readFile text
    return (some site, path)
  else
    -- any other scheme: no slash means that the path is a text of its own
    match text with
    | '/' :: '/' :: rest =>
      let path := rest.dropWhile (· ≠ '/')
      let (site, start) ← readSite scheme (rest.takeWhile (· ≠ '/')) (followed || !path.isEmpty)
      let path := start ++ path
      return (some site, .segments (if path.isEmpty then [] else readSegments path))
    | '/' :: rest => return (none, .segments (readSegments rest))
    | text => return (none, .plain (Http.Percent.encode isControl text))

/-- Reads an absolute URL. -/
def read (input : List Char) : Except Fault Url := do
  let some (scheme, rest) := cutScheme (clean input) | throw .relative
  let (rest, fragment) := cutOptional '#' rest
  let (rest, query) := cutOptional '?' rest
  let (site, path) ← readMiddle scheme rest (query.isSome || fragment.isSome)
  return {
    scheme, site, path
    query := query.map (Http.Percent.encode (reservedInQuery (isWeb scheme)))
    fragment := fragment.map (Http.Percent.encode reservedInFragment) }

end WebhookRelay.Url
