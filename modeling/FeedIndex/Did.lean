import FeedIndex.Text.Cut

/-!
# Decentralised identifiers

An account is named by a DID, `did:method:identifier`. The check is deliberately lax: every valid DID
passes, and a few texts that a method's own rules would refuse pass too. It keeps garbage from becoming a
key of the store.
-/

namespace FeedIndex.Did

/-- A DID has at most this many bytes. -/
def maxBytes : Nat := 2048

/-- Letters, digits and five signs; ASCII only. -/
def isAllowed (c : Char) : Bool :=
  c.isAlphanum || c == '.' || c == '_' || c == ':' || c == '%' || c == '-'

/-- A method name: lower-case ASCII letters, at least one. -/
def isMethod (cs : List Char) : Bool := !cs.isEmpty && cs.all Char.isLower

/-- The part after the method: not empty, and no colon at its end. -/
def isIdentifier (cs : List Char) : Bool := !cs.isEmpty && cs.getLast? != some ':'

/-- **wellFormed** — `did:`, a method, a colon and an identifier, all of allowed characters. -/
def wellFormed (cs : List Char) : Bool :=
  cs.all isAllowed &&
    match (Text.dropHead ['d', 'i', 'd', ':'] cs).bind (Text.cut ':') with
    | some (method, identifier) => isMethod method && isIdentifier identifier
    | none => false

/-- **isValid** — the text is a DID of an acceptable length. -/
def isValid (s : String) : Bool := s.utf8ByteSize ≤ maxBytes && wellFormed s.toList

/-- **parse?** — the text itself if it is a DID. -/
def parse? (s : String) : Option String := if isValid s then some s else none

end FeedIndex.Did
