import FeedIndex.Archive
import FeedIndex.Cbor.Lenient
import FeedIndex.Commit
import FeedIndex.Text.Cut
import FeedIndex.Wire.Cbor

/-!
# Frames of a relay

A relay sends frames of two values, a header and a body. The header's number tells a message from an error,
and its type tells messages apart. A commit names the records it changes and ships their blocks in an
archive; its events take the blocks from there. An entry with an unknown action or without a slash in its
path is no event, an unreadable archive spoils the whole commit.
-/

namespace FeedIndex

open Wire (Reading fields required defaulted optionalField listOf)

/-- **RepoChange** — an entry of a commit: what happens to which record. -/
structure RepoChange where
  action : String
  path : String
  cid : Option Cid
deriving DecidableEq, Repr

/-- **RepoCommit** — the body of a commit. -/
structure RepoCommit where
  seq : Int
  repo : String
  rev : String
  changes : List RepoChange
  /-- The archive of the blocks; empty if none are shipped. -/
  blocks : Bytes
  tooBig : Bool
deriving DecidableEq, Repr

/-- **Frame** — a frame of the stream. -/
inductive Frame
  | commit (body : RepoCommit)
  | info (name : String) (message : Option String)
  | error (code : String) (message : Option String)
  /-- A message of another type, or without one. -/
  | other (type : Option String)
deriving DecidableEq, Repr

namespace Frame

/-- **Failure** — why bytes are no frame. -/
inductive Failure
  | header
  | body
  | unknownOp (op : Int)
deriving DecidableEq, Repr

/-- **message?** — the wording of the cause, where it has one. -/
def Failure.message? : Failure → Option String
  | .header => none
  | .body => none
  | .unknownOp op => some ("unknown frame op " ++ toString op)

/-! ## The header -/

/-- **Header** — the number and the type of a frame. -/
structure Header where
  op : Int
  type : Option String
deriving DecidableEq, Repr

/-- **Entry** — a member of a header. -/
inductive Header.Entry
  | op (n : Int)
  | type (t : Option String)
  | other
deriving DecidableEq, Repr

/-- The number that a member gives. -/
def Header.Entry.op? : Header.Entry → Option Int
  | .op n => some n
  | _ => none

/-- The type that a member gives. -/
def Header.Entry.type? : Header.Entry → Option (Option String)
  | .type t => some t
  | _ => none

/-- A number of 64 bits. -/
def Header.number? (n : Int) : Option Int :=
  if -(Nat.pow 2 63) ≤ n ∧ n < Nat.pow 2 63 then some n else none

/-- Takes a member of a header. -/
def Header.entry : Cbor.Reader Header.Entry := fun bs =>
  match Cbor.Lenient.key bs with
  | none => none
  | some (key, rest) =>
    if key = "op".toUTF8.toList then
      (Cbor.Lenient.integer rest.length rest).bind fun (n, rest) =>
        (Header.number? n).map fun n => (.op n, rest)
    else if key = "t".toUTF8.toList then
      (Cbor.Lenient.optionalText rest).map fun (t, rest) => (.type t, rest)
    else (Cbor.Lenient.skip (Cbor.Lenient.maxLevels - 1) rest).map fun (_, rest) => (.other, rest)

/-- The header of some members: a number, and no type or one. -/
def Header.ofEntries? (entries : List Header.Entry) : Option Header :=
  match entries.filterMap Header.Entry.op?, entries.filterMap Header.Entry.type? with
  | [op], [] => some ⟨op, none⟩
  | [op], [type] => some ⟨op, type⟩
  | _, _ => none

/-- **header?** — the header at the head of a frame, and its body. -/
def header? (bs : Bytes) : Option (Header × Bytes) :=
  match Cbor.Lenient.map? bs with
  | none => none
  | some (count, rest) =>
    match Cbor.counting Header.entry count rest with
    | none => none
    | some (entries, body) => (Header.ofEntries? entries).map fun header => (header, body)

/-! ## The bodies -/

/-- Reads an entry of a commit. -/
def changeReading : Reading Bytes RepoChange :=
  fields ⟨"", "", none⟩ [
    required "action" Wire.text fun action change => { change with action },
    required "path" Wire.text fun path change => { change with path },
    optionalField "cid" Cbor.link fun cid change => { change with cid }]

/-- Reads the body of a commit. -/
def commitReading : Reading Bytes RepoCommit :=
  fields ⟨0, "", "", [], [], false⟩ [
    required "seq" Wire.signed fun seq commit => { commit with seq },
    required "repo" Wire.text fun repo commit => { commit with repo },
    defaulted "rev" Wire.text fun rev commit => { commit with rev },
    required "ops" (listOf changeReading) fun changes commit => { commit with changes },
    required "blocks" Cbor.bytes fun blocks commit => { commit with blocks },
    defaulted "tooBig" Cbor.bool fun tooBig commit => { commit with tooBig }]

/-- Reads a name, under the given field, and an optional message. -/
def noticeReading (nameField : String) : Reading Bytes (String × Option String) :=
  fields ("", none) [
    required nameField Wire.text fun name (_, message) => (name, message),
    optionalField "message" Wire.text fun message (name, _) => (name, message)]

/-- A body that is one value and nothing else. -/
def bodyOf (reading : Reading Bytes α) (bs : Bytes) : Except Failure α :=
  match Cbor.read? reading bs with
  | some a => .ok a
  | none => .error .body

/-- **decode** — the frame that bytes are. The body of a message of another type is not read. -/
def decode (bs : Bytes) : Except Failure Frame :=
  match header? bs with
  | none => .error .header
  | some (header, body) =>
    if header.op = -1 then
      (bodyOf (noticeReading "error") body).map fun (code, message) => .error code message
    else if header.op = 1 then
      if header.type = some "#commit" then (bodyOf commitReading body).map .commit
      else if header.type = some "#info" then
        (bodyOf (noticeReading "name") body).map fun (name, message) => .info name message
      else .ok (.other header.type)
    else .error (.unknownOp header.op)

end Frame

/-! ## Events -/

namespace RepoCommit

/-- The blocks that a commit ships. -/
def archive (commit : RepoCommit) : Except Archive.Failure Archive.Blocks :=
  if commit.blocks.isEmpty then .ok [] else Archive.read commit.blocks

/-- The payload of an entry: the block of its identifier, unless it deletes. -/
def payload? (blocks : Archive.Blocks) (action : Action) (cid : Option Cid) : Option Payload :=
  if action = .delete then none
  else
    match cid with
    | none => none
    | some cid => (blocks.get? cid).map (.block cid)

/-- **event?** — the event of an entry. The path is cut at its first slash. -/
def event? (commit : RepoCommit) (blocks : Archive.Blocks) (change : RepoChange) : Option Event :=
  match Action.ofName? change.action, Text.cut '/' change.path.toList with
  | some action, some (collection, rkey) =>
    some {
      seq := commit.seq
      did := commit.repo
      action
      collection := String.ofList collection
      rkey := String.ofList rkey
      cid := change.cid.map Cid.text
      payload := payload? blocks action change.cid }
  | _, _ => none

/-- **events** — the events of a commit in the order of its entries. -/
def events (commit : RepoCommit) : Except Archive.Failure (List Event) :=
  commit.archive.map fun blocks => commit.changes.filterMap (commit.event? blocks)

end RepoCommit

end FeedIndex
