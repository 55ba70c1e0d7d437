import WebhookRelay.Http.Percent
import WebhookRelay.Url.Domain.Ascii
import WebhookRelay.Url.Fault

/-!
# Hosts of URLs

A host is a domain, an IPv4 address or, in brackets, an IPv6 address. It is kept as the one text that
stands for all ways of writing it: domains in their normal form and in ASCII, addresses without zeros
in front.
-/

namespace WebhookRelay.Url

open Text

/-! ## IPv4 -/

/-- The number that digits of a base spell; no digits spell zero. -/
def numberIn (base : Nat) (cs : List Char) : Option Nat :=
  cs.foldlM (fun n c => ((Hex.value? c).filter (· < base)).map (base * n + ·)) 0

/-- A part of an IPv4 address: a number to the base 8, 10 or 16. -/
def ipv4Part : List Char → Option Nat
  | [] => none
  | '0' :: c :: rest => if c = 'x' || c = 'X' then numberIn 16 rest else numberIn 8 (c :: rest)
  | cs => numberIn 10 cs

/-- The parts of a domain between dots. A dot at its end does not count. -/
def labels (domain : List Char) : List (List Char) :=
  let ls := pieces '.' domain
  if 1 < ls.length && ls.getLast? = some [] then ls.dropLast else ls

/-- Whether the last part of a domain is a number, so that it can only be an IPv4 address. -/
def endsInNumber (domain : List Char) : Bool :=
  match (labels domain).getLast? with
  | some last => (!last.isEmpty && last.all Char.isDigit) || (ipv4Part last).isSome
  | none => false

/-- The last digits of a number to the base 256, as many as asked for. -/
def lastBytes : Nat → Nat → List Nat
  | 0, _ => []
  | width + 1, n => lastBytes width (n / 256) ++ [n % 256]

/-- An IPv4 address. Its last part stands for all bytes that are left. -/
def ipv4 (domain : List Char) : Except Fault (List Char) :=
  match (labels domain).mapM ipv4Part with
  | none => .error .badIpv4
  | some numbers =>
    let first := numbers.dropLast
    let last := numbers.getLastD 0
    if 3 < first.length || first.any (255 < ·) || Nat.pow 256 (4 - first.length) ≤ last then
      .error .badIpv4
    else .ok (glue '.' ((first ++ lastBytes (4 - first.length) last).map (Nat.toDigits 10)))

/-! ## IPv6 -/

/-- What stands before the first two colons and what stands after them. -/
def cutAtGap : List Char → Option (List Char × List Char)
  | [] => none
  | ':' :: ':' :: rest => some ([], rest)
  | c :: rest => (cutAtGap rest).map fun r => (c :: r.1, r.2)

/-- A number of up to four hexadecimal digits. -/
def ipv6Piece (cs : List Char) : Option Nat :=
  if cs.isEmpty || 4 < cs.length then none else numberIn 16 cs

/-- A byte of an IPv4 address within an IPv6 address, which has no zeros in front. -/
def plainByte (cs : List Char) : Option Nat :=
  if cs.isEmpty || (1 < cs.length && cs.head? = some '0') then none
  else (numberIn 10 cs).filter (· < 256)

/-- The last piece of an IPv6 address, which may be an IPv4 address. -/
def ipv6Last (cs : List Char) : Option (List Nat) :=
  match (ipv6Piece cs, (pieces '.' cs).mapM plainByte) with
  | (some n, _) => some [n]
  | (none, some [a, b, c, d]) => some [256 * a + b, 256 * c + d]
  | _ => none

/-- The numbers between single colons; whether an IPv4 address may stand at the end is given. -/
def ipv6Side (atEnd : Bool) (cs : List Char) : Option (List Nat) :=
  if cs.isEmpty then some []
  else
    let ps := pieces ':' cs
    match ps.dropLast.mapM ipv6Piece, ps.getLast? with
    | some first, some last =>
      (if atEnd then ipv6Last last else (ipv6Piece last).map ([·])).map (first ++ ·)
    | _, _ => none

/-- The eight numbers of an IPv6 address. Two colons stand for at least one zero. -/
def ipv6Numbers (cs : List Char) : Option (List Nat) :=
  match cutAtGap cs with
  | none => (ipv6Side true cs).filter (·.length = 8)
  | some (left, right) =>
    match ipv6Side false left, ipv6Side true right with
    | some l, some r =>
      if l.length + r.length < 8 then some (l ++ List.replicate (8 - l.length - r.length) 0 ++ r)
      else none
    | _, _ => none

/-- Where the longest run of zeros begins, the first of them, and how long it is. -/
def longestRun (numbers : List Nat) : Nat × Nat :=
  (List.range numbers.length).foldl (fun best i =>
    let n := ((numbers.drop i).takeWhile (· = 0)).length
    if best.2 < n then (i, n) else best) (0, 0)

/-- An IPv6 address as text. Two colons stand for the longest run of zeros, if it is one of several
zeros. -/
def printIpv6 (numbers : List Nat) : List Char :=
  let print (ns : List Nat) := glue ':' (ns.map (Nat.toDigits 16))
  let (start, length) := longestRun numbers
  if length < 2 then print numbers
  else print (numbers.take start) ++ [':', ':'] ++ print (numbers.drop (start + length))

/-- An IPv6 address in brackets, of which the first has been read. -/
def ipv6 (cs : List Char) : Except Fault (List Char) :=
  match cs.getLast?, ipv6Numbers cs.dropLast with
  | some ']', some numbers => .ok ('[' :: printIpv6 numbers ++ [']'])
  | _, _ => .error .badIpv6

/-! ## Hosts -/

/-- Whether no host may hold a character. -/
def forbiddenInHost (c : Char) : Bool :=
  ['\x00', '\t', '\n', '\r', ' ', '#', '/', ':', '<', '>', '?', '@', '[', '\\', ']', '^', '|'].contains c

/-- Whether a character is a control character or not ASCII. -/
def isControl (c : Char) : Bool := c.toNat < 0x20 || 0x7F ≤ c.toNat

/-- The host in a URL of one of the schemes of the web. -/
def webHost : List Char → Except Fault (List Char)
  | [] => .error .emptyHost
  | '[' :: rest => ipv6 rest
  | cs =>
    match (Utf8.decode? (Http.Percent.decode cs)).bind fun s => Domain.toAscii? s.toList with
    | none => .error .badDomain
    | some domain =>
      -- an address is looked for only once the domain is in its normal form
      if domain.isEmpty then .error .emptyHost
      else if endsInNumber domain then ipv4 domain
      else .ok domain

/-- The host in any other URL, which is hardly looked at. -/
def otherHost : List Char → Except Fault (List Char)
  | '[' :: rest => ipv6 rest
  | cs =>
    if cs.any forbiddenInHost then .error .badCharacter else .ok (Http.Percent.encode isControl cs)

end WebhookRelay.Url
