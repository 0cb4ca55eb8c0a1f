import FeedIndex.Url.Parse

/-!
# Request targets

What a request asks for is a URL without its fragment. Its grammar is another one than that of URLs: it has
a limited length, its authority may hold fewer characters, and a text without two slashes after its scheme
is an authority and nothing else.
-/

namespace FeedIndex

/-- **Target** — what a request asks for. -/
structure Target where
  scheme : Option (List Char)
  authority : List Char
  /-- The path with the query. -/
  path : List Char
deriving DecidableEq, Repr

namespace Target

/-- **Failure** — why a URL is no target. -/
inductive Failure
  | tooLong
  | schemeTooLong
  | badAuthority
  | badCharacter
  | badFormat
deriving DecidableEq, Repr

/-- **message** — the wording of the cause. -/
def Failure.message : Failure → String
  | .tooLong => "uri too long"
  | .schemeTooLong => "scheme too long"
  | .badAuthority => "invalid authority"
  | .badCharacter => "invalid uri character"
  | .badFormat => "invalid format"

/-- A target has at most this many bytes. -/
def maxBytes : Nat := 65534

/-- The scheme of a target has at most this many characters. -/
def maxSchemeLength : Nat := 64

/-- An authority has at most this many colons in a row of its parts. -/
def maxColons : Nat := 8

/-! ## Authorities -/

/-- **Scan** — what has been seen of an authority. Colons and percent signs are those since the last at sign
or closing bracket. -/
structure Scan where
  colons : Nat := 0
  opened : Bool := false
  closed : Bool := false
  percent : Bool := false

/-- A character that an authority may have without further rules. -/
def isPlain (c : Char) : Bool :=
  c.isAlphanum ||
    ['-', '.', '_', '~', '!', '$', '&', '\x27', '(', ')', '*', '+', ',', ';', '='].contains c

/-- The scan with one character more. -/
def Scan.step (scan : Scan) (c : Char) : Except Failure Scan :=
  if c = ':' then
    if maxColons ≤ scan.colons then .error .badAuthority else .ok { scan with colons := scan.colons + 1 }
  else if c = '[' then
    if scan.percent || scan.opened then .error .badAuthority else .ok { scan with opened := true }
  else if c = ']' then
    if !scan.opened || scan.closed then .error .badAuthority
    else .ok { scan with closed := true, colons := 0, percent := false }
  else if c = '@' then .ok { scan with colons := 0, percent := false }
  else if c = '%' then .ok { scan with percent := true }
  else if isPlain c then .ok scan
  else .error .badCharacter

/-- **checkAuthority** — the text may be an authority: brackets come in one pair, at most one colon and no
percent sign stand after the user, and something follows an at sign. -/
def checkAuthority (cs : List Char) : Except Failure Unit := do
  let scan ← cs.foldlM Scan.step {}
  if scan.opened != scan.closed || 1 < scan.colons || cs.getLast? == some '@' || scan.percent then
    throw .badAuthority

/-! ## Targets of URLs -/

/-- A character that ends an authority. -/
def endsAuthority (c : Char) : Bool := c == '/' || c == '?' || c == '#'

/-- The target of a URL with an authority, which may not be empty. -/
def ofAuthority (url : Url) (who : Authority) : Except Failure Target := do
  if maxSchemeLength < url.scheme.length then throw .schemeTooLong
  let authority := Url.renderAuthority who
  checkAuthority authority
  if authority.isEmpty then throw .badFormat
  let path := if url.path.isEmpty then ['/'] else url.path
  return ⟨some url.scheme, authority, path ++ Url.renderPart '?' url.query⟩

/-- The target of a URL without an authority: the whole of it has to be one. -/
def ofPlain (url : Url) : Except Failure Target := do
  let text := url.render
  checkAuthority (text.takeWhile fun c => !endsAuthority c)
  if text.any endsAuthority then throw .badFormat
  return ⟨none, text, []⟩

/-- **ofUrl** — the target of a URL. Its fragment counts for the length. -/
def ofUrl (url : Url) : Except Failure Target :=
  if maxBytes < url.render.length then .error .tooLong
  else
    match url.authority with
    | some who => ofAuthority url who
    | none => ofPlain url

/-- **render** — the target as text. -/
def render (target : Target) : String :=
  let scheme :=
    match target.scheme with
    | none => []
    | some scheme => scheme ++ [':', '/', '/']
  String.ofList (scheme ++ target.authority ++ target.path)

/-! ## Where to connect -/

/-- The host in the authority. A colon in brackets belongs to it. -/
def host (target : Target) : List Char :=
  let place := (Text.split '@' target.authority).getLast?.getD []
  if place.head? = some '[' then place.takeWhile (· != ']') ++ [']'] else place.takeWhile (· != ':')

/-- The name by which a machine calls itself. -/
def ownName : List Char := "localhost".toList

/-- **address** — the address of the host, or its name where that has to be asked for. -/
def address (target : Target) : Url.Host :=
  match target.host with
  | '[' :: _ => (Url.address6? (target.host.drop 1).dropLast).elim (.domain target.host) .address6
  | host =>
    if host.map Char.toLower = ownName then .address4 0x7F000001
    else if host.getLast? = some '.' then .domain host
    else (Url.address4? host).elim (.domain host) .address4

/-- A number of 16 bits in decimal digits, with or without a plus sign. -/
def number16? (cs : List Char) : Option Nat :=
  let digits := (Text.dropHead ['+'] cs).getD cs
  if digits.isEmpty then none
  else (Url.numberOf? 10 digits).bind fun n => if n ≤ 65535 then some n else none

/-- The number after the last colon of the authority, if it is one. -/
def writtenNumber? (target : Target) : Option Nat :=
  match target.authority.reverse.span (· != ':') with
  | (after, _ :: _) => number16? after.reverse
  | (_, []) => none

/-- **portNumber?** — where the server listens: the number that is written, or the usual one of the two
schemes of sockets. -/
def portNumber? (target : Target) : Option Nat :=
  match target.writtenNumber? with
  | some n => some n
  | none =>
    if target.scheme = some ['w', 's'] then some 80
    else if target.scheme = some ['w', 's', 's'] then some 443
    else none

end Target

end FeedIndex
