import FeedIndex.Text.Direction
import FeedIndex.Text.Joining
import FeedIndex.Text.Mark
import FeedIndex.Url.NameTable
import FeedIndex.Url.Percent
import FeedIndex.Url.Punycode

/-!
# Domain names

A domain name is folded, composed, and taken apart into labels at its dots. A label with characters outside
ASCII is checked and then written in ASCII; one that is already written so has to stand for a label that
would be written like that. Where a name has text from right to left in it, all of its labels keep to one
direction each. Neither hyphens nor lengths are looked at.
-/

namespace FeedIndex.Url

/-- Pieces with a separator between them. -/
def joinWith (sep : Char) : List (List Char) → List Char
  | [] => []
  | [piece] => piece
  | piece :: pieces => piece ++ sep :: joinWith sep pieces

/-- **folded?** — text with its characters changed and put together; nothing if one is refused. -/
def folded? (cs : List Char) : Option (List Char) :=
  (cs.mapM changed?).map fun parts => Text.composed parts.flatten

/-- A character that no name may have, in ASCII. -/
def isForbidden (c : Char) : Bool :=
  c.toNat ≤ 0x20 || c.toNat == 0x7F ||
    ['%', '#', '/', ':', '<', '>', '?', '@', '[', '\\', ']', '^', '|'].contains c

/-- All of a text is ASCII. -/
def isAscii (cs : List Char) : Bool := cs.all (·.toNat < 128)

/-- **Label** — a label as it is read, and as it is written in ASCII. -/
structure Label where
  chars : List Char
  ascii : List Char
deriving DecidableEq, Repr

/-- The beginning of a label that stands for another one. -/
def encodedMark : List Char := ['x', 'n', '-', '-']

/-- The longest label outside ASCII. -/
def maxLabel : Nat := 1000

/-- The longest text that stands for a label. -/
def maxEncoded : Nat := 2000

/-- A label outside ASCII may stand in a name. -/
def isLabel (cs : List Char) : Bool := !((cs.head?.map Text.isMark).getD false) && Text.controlsJoin cs

/-- The label that the text after the beginning mark stands for. -/
def Label.ofEncoded? (encoded : List Char) : Option Label :=
  if maxEncoded < encoded.length ∨ encoded.getLast? = some '-' then none
  else
    match Punycode.decode? encoded with
    | none => none
    | some chars =>
      if !isAscii chars && folded? chars == some chars && isLabel chars then
        some ⟨chars, encodedMark ++ encoded⟩
      else none

/-- **ofFolded?** — the label that folded text is. -/
def Label.ofFolded? (cs : List Char) : Option Label :=
  match Text.dropHead encodedMark cs with
  | some encoded => ofEncoded? encoded
  | none =>
    if isAscii cs then some ⟨cs, cs⟩
    else if isLabel cs ∧ cs.length ≤ maxLabel then some ⟨cs, encodedMark ++ Punycode.encode cs⟩
    else none

/-- The labels of a name keep their directions, if any of its characters runs from right to left. -/
def keepDirections (labels : List Label) : Bool :=
  !(labels.any fun label => label.chars.any Text.runsLeft) ||
    labels.all fun label => Text.keepsDirection label.chars

/-- **domainName?** — the name that percent-encoded text is, in ASCII. -/
def domainName? (cs : List Char) : Option (List Char) := do
  let text ← Bytes.utf8? (percentDecode (utf8 cs))
  let labels ← (Text.split '.' (← folded? text.toList)).mapM Label.ofFolded?
  let name := joinWith '.' (labels.map (·.ascii))
  if keepDirections labels && !name.any isForbidden then name else none

end FeedIndex.Url
