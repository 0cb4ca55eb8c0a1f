import FeedIndex.Did

/-!
# Record addresses

A record lives at `at://did/collection/rkey`. Only this three-part form is an address here: a handle in
place of the DID, or an address that stops at the collection, names no stored record. Reading drops a
query or a fragment, so that what is read is always the canonical form.
-/

namespace FeedIndex

/-- **RecordUri** — the three parts of a record's address. The parts are not checked: an event can carry
any text, and what it is stored under is still the text of its parts. -/
structure RecordUri where
  did : String
  collection : String
  rkey : String
deriving DecidableEq, Repr

namespace RecordUri

/-- An address that is read has at most this many bytes. -/
def maxBytes : Nat := 8192

/-- A record key has at most this many bytes. -/
def maxKeyBytes : Nat := 512

/-- **render** — the address as text. -/
def render (uri : RecordUri) : String :=
  "at://" ++ uri.did ++ "/" ++ uri.collection ++ "/" ++ uri.rkey

/-- One label of a collection name: ASCII letters, digits and hyphens, at least one. -/
def isLabel (cs : List Char) : Bool := !cs.isEmpty && cs.all fun c => c.isAlphanum || c == '-'

/-- **isCollection** — at least three labels, separated by dots. -/
def isCollection (cs : List Char) : Bool :=
  3 ≤ (Text.split '.' cs).length && (Text.split '.' cs).all isLabel

/-- A character of a record key. -/
def isKeyChar (c : Char) : Bool :=
  c.isAlphanum || c == '.' || c == '-' || c == '_' || c == ':' || c == '~'

/-- **isKey** — a record key: some allowed characters, and neither `.` nor `..`. -/
def isKey (cs : List Char) : Bool :=
  !cs.isEmpty && cs.length ≤ maxKeyBytes && cs != ['.'] && cs != ['.', '.'] && cs.all isKeyChar

/-- The address without a query or a fragment. -/
def withoutSuffix (cs : List Char) : List Char := cs.takeWhile fun c => c != '?' && c != '#'

/-- The three parts, checked, of the text after `at://`. -/
def ofPath? (cs : List Char) : Option RecordUri :=
  match Text.cut '/' cs with
  | none => none
  | some (did, rest) =>
    match Text.cut '/' rest with
    | none => none
    | some (collection, rkey) =>
      if Did.isValid (String.ofList did) && isCollection collection && isKey rkey then
        some ⟨String.ofList did, String.ofList collection, String.ofList rkey⟩
      else none

/-- **parse?** — the address a text names. -/
def parse? (s : String) : Option RecordUri :=
  if s.utf8ByteSize ≤ maxBytes && s.toList.all (·.toNat < 128) then
    (Text.dropHead ['a', 't', ':', '/', '/'] s.toList).bind fun rest => ofPath? (withoutSuffix rest)
  else none

end RecordUri

end FeedIndex
