import FeedIndex.Text.Blank
import FeedIndex.Url.Host
import FeedIndex.Url.Path

/-!
# URLs

A URL is read into its parts and written back in its normal form. Some schemes are special: they always
have a host, take a backslash for a slash, and leave out the number after the host's colon when it is the
usual one. The scheme of local files is special too, but its host may be missing and stands alone. What a
URL may not contain as it stands is percent encoded.
-/

namespace FeedIndex

open Url (Host Failure encodeWith)

/-- **Authority** — who is asked: user and password, host, and the number after the host's colon. -/
structure Authority where
  /-- User and password, encoded, with their at sign; empty if there are none. -/
  user : List Char
  host : Host
  portNumber : Option Nat
deriving DecidableEq, Repr

/-- **Url** — the parts of a URL, encoded. -/
structure Url where
  scheme : List Char
  authority : Option Authority
  path : List Char
  query : Option (List Char)
  fragment : Option (List Char)
deriving DecidableEq, Repr

namespace Url

/-! ## Schemes -/

/-- A special scheme that needs a host. -/
def isHosted (scheme : List Char) : Bool :=
  [['h', 't', 't', 'p'], ['h', 't', 't', 'p', 's'], ['w', 's'], ['w', 's', 's'], ['f', 't', 'p']].contains
    scheme

/-- The scheme of local files, special too. -/
def isFile (scheme : List Char) : Bool := scheme == ['f', 'i', 'l', 'e']

/-- The number that a scheme uses when none is given. -/
def usualNumber? (scheme : List Char) : Option Nat :=
  if scheme = ['h', 't', 't', 'p'] ∨ scheme = ['w', 's'] then some 80
  else if scheme = ['h', 't', 't', 'p', 's'] ∨ scheme = ['w', 's', 's'] then some 443
  else if scheme = ['f', 't', 'p'] then some 21
  else none

/-- A character of a scheme after its first. -/
def isSchemeChar (c : Char) : Bool := c.isAlphanum || c == '+' || c == '-' || c == '.'

/-- The scheme in lower case, and what follows its colon. -/
def scheme? (cs : List Char) : Option (List Char × List Char) :=
  match cs.span (· != ':') with
  | (text, _ :: rest) =>
    let scheme := unskipped text
    if (scheme.head?.map Char.isAlpha).getD false && scheme.all isSchemeChar then
      some (scheme.map Char.toLower, rest)
    else none
  | (_, []) => none

/-! ## The authority -/

/-- A slash of either kind. -/
def isSlash (c : Char) : Bool := c == '/' || c == '\\'

/-- A character that ends the authority. -/
def endsAuthority (special : Bool) (c : Char) : Bool :=
  c == '/' || c == '?' || c == '#' || (special && c == '\\')

/-- The text before and after the last at sign. -/
def cutLastAt (cs : List Char) : Option (List Char × List Char) :=
  match cs.reverse.span (· != '@') with
  | (after, _ :: before) => some (before.reverse, after.reverse)
  | (_, []) => none

/-- User and password, encoded. An empty password is left out. -/
def encodeUser (cs : List Char) : List Char :=
  let user := encodeWith userSet (cs.takeWhile (· != ':'))
  let password := encodeWith userSet ((cs.dropWhile (· != ':')).drop 1)
  let both := if password.isEmpty then user else user ++ ':' :: password
  if both.isEmpty then [] else both ++ ['@']

/-- The host's text and what follows it, from its colon on. A colon in brackets belongs to the host. -/
def cutHost (bracketed : Bool) : List Char → List Char × List Char
  | [] => ([], [])
  | c :: cs =>
    if c = ':' ∧ !bracketed then ([], c :: cs)
    else
      let (host, rest) := cutHost (c == '[' || (bracketed && c != ']')) cs
      (c :: host, rest)

/-- A character that ends the number after the host's colon. -/
def endsNumber (c : Char) : Bool := isSlash c || c == '?' || c == '#'

/-- The number after the host's colon, and the text after it. There is none if it is the scheme's usual one
or has no digits. -/
def portNumber (scheme : List Char) (cs : List Char) : Except Failure (Option Nat × List Char) :=
  match cs with
  | ':' :: cs =>
    let rest := cs.dropWhile Char.isDigit
    if !(rest.head?.map endsNumber).getD true then .error .badPortNumber
    else
      match cs.takeWhile Char.isDigit with
      | [] => .ok (none, rest)
      | digits =>
        match numberOf? 10 digits with
        | none => .error .badPortNumber
        | some n =>
          if 65535 < n then .error .badPortNumber
          else .ok (if usualNumber? scheme = some n then none else some n, rest)
  | _ => .ok (none, cs)

/-- The host by its scheme. -/
def hostOf (scheme cs : List Char) : Except Failure Host :=
  if isHosted scheme then (if cs.isEmpty then .error .emptyHost else Host.parse cs) else Host.parsePlain cs

/-- User and password at the head of a text, and the text after them. A host has to follow an at sign that
nothing stands before, unless the text ends there. -/
def userOf (special : Bool) (cs : List Char) : Except Failure (List Char × List Char) :=
  let rest := cs.dropWhile fun c => !endsAuthority special c
  match cutLastAt (cs.takeWhile fun c => !endsAuthority special c) with
  | none => .ok ([], cs)
  | some ([], []) => if rest.isEmpty then .ok ([], rest) else .error .emptyHost
  | some (user, after) => .ok (encodeUser user, after ++ rest)

/-- **authorityOf** — the authority at the head of a text, and the text after it. -/
def authorityOf (scheme cs : List Char) : Except Failure (Authority × List Char) := do
  let special := isHosted scheme
  let (user, cs) ← userOf special cs
  let (hostText, afterHost) := cutHost false (cs.takeWhile fun c => !endsAuthority special c)
  let host ← hostOf scheme hostText
  if hostText.isEmpty && !(user.isEmpty && afterHost.isEmpty) then throw .emptyHost
  let (number, rest) ← portNumber scheme (afterHost ++ cs.dropWhile fun c => !endsAuthority special c)
  return (⟨user, host, number⟩, rest)

/-! ## All of it -/

/-- The text before a query or a fragment. -/
def beforeQuery (cs : List Char) : List Char := cs.takeWhile fun c => c != '?' && c != '#'

/-- The query and the fragment at the end of a text. -/
def suffixes (special : Bool) (cs : List Char) : Option (List Char) × Option (List Char) :=
  let cs := cs.dropWhile fun c => c != '?' && c != '#'
  let query :=
    match cs with
    | '?' :: rest =>
      some (encodeWith (if special then specialQuerySet else querySet) (rest.takeWhile (· != '#')))
    | _ => none
  let fragment :=
    match cs.dropWhile (· != '#') with
    | '#' :: rest => some (encodeWith fragmentSet rest)
    | _ => none
  (query, fragment)

/-- A URL with an authority, from the text after its slashes. -/
def ofAuthority (scheme cs : List Char) : Except Failure Url := do
  let special := isHosted scheme
  let (who, rest) ← authorityOf scheme cs
  let (query, fragment) := suffixes special rest
  let pathText := beforeQuery rest
  let path := if special || !pathText.isEmpty then (walked special false pathText).path false else []
  return ⟨scheme, some who, path, query, fragment⟩

/-- A URL without an authority. A path that does not begin with a slash is not looked into. -/
def ofPath (scheme cs : List Char) : Url :=
  let (query, fragment) := suffixes false cs
  let pathText := beforeQuery cs
  let path :=
    if pathText.head? = some '/' then (walked false false pathText).path false
    else encodeWith controlSet pathText
  ⟨scheme, none, path, query, fragment⟩

/-- No host. -/
def noHost : Host := .domain []

/-- The URL of a local file on a host. -/
def ofFilePath (host : Host) (cs : List Char) : Url :=
  let (query, fragment) := suffixes true (unskipped cs)
  let walk := walked true true (beforeQuery cs)
  ⟨['f', 'i', 'l', 'e'], some ⟨[], if walk.onDrive then noHost else host, none⟩, walk.path true, query,
    fragment⟩

/-- The host of a local file. -/
def fileHost (cs : List Char) : Except Failure Host :=
  if cs.isEmpty then .ok noHost
  else
    (Host.parse cs).map fun host => if host = .domain "localhost".toList then noHost else host

/-- The URL of a local file, from the text after the scheme, in which tabs and line ends still stand. A drive
is no host. -/
def ofFile (cs : List Char) : Except Failure Url :=
  match (dropFirst? isSlash cs).bind (dropFirst? isSlash) with
  | none => .ok (ofFilePath noHost cs)
  | some rest =>
    let hostText := unskipped (rest.takeWhile fun c => !endsAuthority true c)
    if isDrive hostText then .ok (ofFilePath noHost rest)
    else
      (fileHost hostText).map fun host =>
        ofFilePath host (rest.dropWhile fun c => !endsAuthority true c)

/-- The URL of a scheme and what follows it. -/
def ofScheme (scheme cs : List Char) : Except Failure Url :=
  if isFile scheme then ofFile cs
  else if isHosted scheme then ofAuthority scheme ((unskipped cs).dropWhile isSlash)
  else
    match unskipped cs with
    | '/' :: '/' :: rest => ofAuthority scheme rest
    | cs => .ok (ofPath scheme cs)

/-- A control or a space. -/
def isEdgeBlank (c : Char) : Bool := c.toNat ≤ 0x20

/-- Text without controls and spaces at its ends. -/
def trimmed (s : String) : List Char := Text.dropTrailing isEdgeBlank (s.toList.dropWhile isEdgeBlank)

/-- **parse** — the URL that a text is. -/
def parse (s : String) : Except Failure Url :=
  match scheme? (trimmed s) with
  | none => .error .relative
  | some (scheme, rest) => ofScheme scheme rest

/-- The authority as text. -/
def renderAuthority (who : Authority) : List Char :=
  who.user ++ who.host.render ++
    match who.portNumber with
    | none => []
    | some n => ':' :: Nat.toDigits 10 n

/-- The path as text. One that could be taken for an authority is kept apart by a dot. -/
def renderPath (url : Url) : List Char :=
  match url.authority, url.path with
  | none, '/' :: '/' :: _ => '/' :: '.' :: url.path
  | _, _ => url.path

/-- An optional part with the character that opens it. -/
def renderPart (opening : Char) : Option (List Char) → List Char
  | none => []
  | some part => opening :: part

/-- **render** — the URL as text. -/
def render (url : Url) : List Char :=
  url.scheme ++ ':' ::
    (match url.authority with
      | none => []
      | some who => '/' :: '/' :: renderAuthority who) ++
    url.renderPath ++ renderPart '?' url.query ++ renderPart '#' url.fragment

/-- A parameter as it stands in a query. -/
def renderParameter (parameter : String × String) : List Char :=
  encodeForm parameter.1.toList ++ '=' :: encodeForm parameter.2.toList

/-- **withParameters** — the URL with parameters added to its query. -/
def withParameters (parameters : List (String × String)) (url : Url) : Url :=
  if parameters.isEmpty then url
  else
    let added := joinWith '&' (parameters.map renderParameter)
    let query :=
      match url.query with
      | none => added
      | some [] => added
      | some query => query ++ '&' :: added
    { url with query := some query }

end Url

end FeedIndex
