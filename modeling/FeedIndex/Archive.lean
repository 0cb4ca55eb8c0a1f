import FeedIndex.Cid

/-!
# Block archives

A commit ships its blocks in an archive: a header of a stated length, which is skipped, and sections of a
stated length, each an identifier and the block's bytes. A section's length is checked against the archive
before its identifier is read. The identifier is read from the archive and may run past its section; then
the archive is truncated.
-/

namespace FeedIndex.Archive

/-- **Failure** — why an archive cannot be read. -/
inductive Failure
  /-- A length, a header, a section or a block goes past the end. -/
  | truncated
  /-- A length has too many bytes. -/
  | varintTooLong
  /-- A section does not begin with an identifier. -/
  | badCid
deriving DecidableEq, Repr

/-- **message** — the wording of the cause, where it has one. -/
def Failure.message? : Failure → Option String
  | .truncated => some "archive is truncated"
  | .varintTooLong => some "varint is too long"
  | .badCid => none

/-- Blocks by identifier. A later block of an identifier takes the place of an earlier one. -/
abbrev Blocks := List (Cid × Bytes)

/-- **put** — sets the block of an identifier. -/
def Blocks.put (cid : Cid) (block : Bytes) (blocks : Blocks) : Blocks :=
  blocks.filter (·.1 != cid) ++ [(cid, block)]

/-- **get?** — the block of an identifier. -/
def Blocks.get? (blocks : Blocks) (cid : Cid) : Option Bytes :=
  (blocks.find? (·.1 == cid)).map (·.2)

/-- A length at the head, checked against the bytes that follow it. -/
def length (bs : Bytes) : Except Failure (Nat × Bytes) :=
  match Varint.read bs with
  | .error .truncated => .error .truncated
  | .error .tooLong => .error .varintTooLong
  | .ok (n, rest) => if n ≤ rest.length then .ok (n, rest) else .error .truncated

/-- The section at the head, and what follows it. -/
def section? (bs : Bytes) : Except Failure ((Cid × Bytes) × Bytes) :=
  match length bs with
  | .error failure => .error failure
  | .ok (n, body) =>
    match Cid.read? body with
    | none => .error .badCid
    | some (cid, afterCid) =>
      let cidLength := body.length - afterCid.length
      if cidLength ≤ n then .ok ((cid, afterCid.take (n - cidLength)), body.drop n)
      else .error .truncated

/-- All sections, put into blocks in order. The number bounds the sections; the length of the bytes is
enough. -/
def sections : Nat → Blocks → Bytes → Except Failure Blocks
  | _, blocks, [] => .ok blocks
  | 0, _, _ :: _ => .error .truncated
  | n + 1, blocks, bs =>
    match section? bs with
    | .error failure => .error failure
    | .ok ((cid, block), rest) => sections n (blocks.put cid block) rest

/-- **read** — the blocks of an archive. -/
def read (bs : Bytes) : Except Failure Blocks :=
  match length bs with
  | .error failure => .error failure
  | .ok (n, rest) => sections rest.length [] (rest.drop n)

end FeedIndex.Archive
