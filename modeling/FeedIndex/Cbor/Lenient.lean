import FeedIndex.Cbor.Item

/-!
# Lenient CBOR

The header of a frame may be written in ways that records may not: tags may stand before a value and are
skipped, a length may be left open and be closed by a break, and a number may be written as bytes. Only a
few values of a header are looked at; all others are read to find their end and forgotten. Containers and
tags of what is forgotten are nested only so deep.
-/

namespace FeedIndex.Cbor.Lenient

open Wire (counted)

/-- Containers and tags may be nested this deep, the header's own map counted. -/
def maxLevels : Nat := 256

/-- **untagged?** — the first head that is no tag, and the bytes after it. The number bounds the tags; the
length of the bytes is enough. -/
def untagged? : Nat → Bytes → Option (Head × Bytes)
  | 0, _ => none
  | n + 1, bs =>
    match head? bs with
    | some (⟨.tag, argument⟩, rest) => if argument.number?.isSome then untagged? n rest else none
    | head => head

/-! ## Strings -/

/-- The pieces of a string of open length. Such strings may be nested, and each break ends one; the first
number bounds the pieces, the second is the depth. -/
def pieces (major : Major) : Nat → Nat → Reader (List Bytes)
  | 0, _, _ => none
  | fuel + 1, depth, bs =>
    match head? bs with
    | none => none
    | some (⟨.simple, .none⟩, rest) =>
      if depth ≤ 1 then some ([], rest) else pieces major fuel (depth - 1) rest
    | some (⟨m, argument⟩, rest) =>
      if m = major then
        match argument.number? with
        | none => pieces major fuel (depth + 1) rest
        | some n =>
          match Bytes.takeExact n rest with
          | none => none
          | some (piece, rest) => (pieces major fuel depth rest).map fun (ps, rest) => (piece :: ps, rest)
      else none

/-- **piecesOf** — the pieces of a string: one of a stated length, or several up to a break. -/
def piecesOf (major : Major) (length : Option Nat) : Reader (List Bytes) := fun bs =>
  match length with
  | some n => (Bytes.takeExact n bs).map fun (piece, rest) => ([piece], rest)
  | none => pieces major bs.length 1 bs

/-- A text whose pieces are each UTF-8. -/
def textOf (length : Option Nat) : Reader String := fun bs =>
  (piecesOf .text length bs).bind fun (ps, rest) =>
    (ps.mapM Bytes.utf8?).map fun texts => (String.join texts, rest)

/-! ## What is forgotten -/

/-- The simple values and floats there are. -/
def skipsSimple : Argument → Bool
  | .short n | .long 1 n => n = 20 ∨ n = 21 ∨ n = 22 ∨ n = 23
  | .long count _ => count = 2 ∨ count = 4 ∨ count = 8
  | .none => false

/-- A value whose head has no content of a lower level. -/
def skipScalar (major : Major) (argument : Argument) (bs : Bytes) : Option Bytes :=
  match major, argument.number? with
  | .unsigned, some _ => some bs
  | .negative, some _ => some bs
  | .bytes, length => (piecesOf .bytes length bs).map Prod.snd
  | .text, length => (textOf length bs).map Prod.snd
  | .simple, _ => if skipsSimple argument then some bs else none
  | _, _ => none

/-- A value that is nested no deeper than the number says, read to its end. A scalar takes no level. -/
def skip : Nat → Reader Unit
  | levels, bs =>
    match head? bs with
    | none => none
    | some (⟨major, argument⟩, rest) =>
      match levels, major, argument.number? with
      | levels + 1, .array, count => (counting (skip levels) count rest).map fun (_, rest) => ((), rest)
      | levels + 1, .map, count =>
        (counting (paired (skip levels) (skip levels)) count rest).map fun (_, rest) => ((), rest)
      | levels + 1, .tag, some _ => skip levels rest
      | _, major, _ => (skipScalar major argument rest).map fun rest => ((), rest)

/-! ## What is looked at -/

/-- **integer** — a whole number after tags, which may be written as the bytes of its size. -/
def integer : Nat → Reader Int
  | 0, _ => none
  | n + 1, bs =>
    match head? bs with
    | some (⟨.unsigned, argument⟩, rest) => argument.number?.map fun (n : Nat) => ((n : Int), rest)
    | some (⟨.negative, argument⟩, rest) => argument.number?.map fun (n : Nat) => (-1 - (n : Int), rest)
    | some (⟨.tag, argument⟩, rest) =>
      match argument.number? with
      | none => none
      | some tag =>
        if tag = 2 ∨ tag = 3 then
          match head? rest with
          | some (⟨.bytes, argument⟩, rest) =>
            (piecesOf .bytes argument.number? rest).map fun (ps, rest) =>
              let size : Int := Bytes.bigEndian ps.flatten
              (if tag = 2 then size else -1 - size, rest)
          | _ => none
        else integer n rest
    | _ => none

/-- **optionalText** — a text after tags, or null or undefined without any. -/
def optionalText : Reader (Option String) := fun bs =>
  match head? bs with
  | some (⟨.simple, argument⟩, rest) =>
    if argument.number? = some 22 ∨ argument.number? = some 23 then
      match argument with
      | .short _ | .long 1 _ => some (none, rest)
      | _ => none
    else none
  | _ =>
    match untagged? bs.length bs with
    | some (⟨.text, argument⟩, rest) =>
      (textOf argument.number? rest).map fun (s, rest) => (some s, rest)
    | _ => none

/-! ## Maps -/

/-- The longest key of a map. -/
def maxKeyBytes : Nat := 4096

/-- **key** — a key of a map after tags: a text or bytes of a stated length, given by its bytes. A text is
UTF-8. -/
def key : Reader Bytes := fun bs =>
  match untagged? bs.length bs with
  | some (⟨major, argument⟩, rest) =>
    match argument.number? with
    | none => none
    | some n =>
      if maxKeyBytes < n then none
      else
        match Bytes.takeExact n rest with
        | none => none
        | some (content, rest) =>
          if major = .bytes ∨ (major = .text ∧ (Bytes.utf8? content).isSome) then some (content, rest)
          else none
  | none => none

/-- **map?** — opens a map after tags: the number of its members, or none if it ends with a break. -/
def map? (bs : Bytes) : Option (Option Nat × Bytes) :=
  match untagged? bs.length bs with
  | some (⟨.map, argument⟩, rest) => some (argument.number?, rest)
  | _ => none

end FeedIndex.Cbor.Lenient
