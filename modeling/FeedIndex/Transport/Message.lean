import FeedIndex.Commit
import FeedIndex.Wire.Json

/-!
# Messages of a Jetstream

A Jetstream sends one JSON message per change. Its position is a time in microseconds. Only messages of the
kind `commit` that have a commit are events. The record in them is handed on as the text it has in the
message.
-/

namespace FeedIndex

open Wire (Reading fields required defaulted optionalField filtered mapped)

/-- **MessageKind** — what a message is about. -/
inductive MessageKind
  | commit
  | identity
  | account
  | unknown
deriving DecidableEq, Repr

/-- The kind as it is written. -/
def MessageKind.name : MessageKind → String
  | .commit => "commit"
  | .identity => "identity"
  | .account => "account"
  | .unknown => "unknown"

/-- The kind that is written so; every other text is a kind that is not known. -/
def MessageKind.ofName (s : String) : MessageKind :=
  if s = "commit" then .commit
  else if s = "identity" then .identity
  else if s = "account" then .account
  else .unknown

/-- **MessageCommit** — the change in a message. -/
structure MessageCommit where
  rev : String
  action : Action
  collection : String
  rkey : String
  /-- The text of the record. -/
  record : Option String
  cid : Option String
deriving DecidableEq, Repr

/-- **Message** — a message of the stream. -/
structure Message where
  time : Int
  did : String
  kind : MessageKind
  commit : Option MessageCommit
deriving DecidableEq, Repr

namespace Message

/-- The name that a value is: a text, or an object of one member that is null. -/
def name? (v : Json.Slice) : Option String :=
  match v.tree with
  | .text s => s
  | .object [(key, .null)] => key
  | _ => none

/-- Reads a name. -/
def nameReading : Reading (List Json.Slice) String := fun _ => Json.take? name?

/-- Reads a value as its text. -/
def rawReading : Reading (List Json.Slice) String := fun _ =>
  Json.take? fun v => some (String.ofList v.chars)

/-- A change of which nothing has been read. -/
def blankCommit : MessageCommit := ⟨"", .create, "", "", none, none⟩

/-- Reads a change. -/
def commitReading : Reading (List Json.Slice) MessageCommit :=
  fields blankCommit [
    defaulted "rev" Wire.text fun rev commit => { commit with rev },
    required "operation" (filtered Action.ofName? nameReading) fun action commit => { commit with action },
    required "collection" Wire.text fun collection commit => { commit with collection },
    required "rkey" Wire.text fun rkey commit => { commit with rkey },
    optionalField "record" rawReading fun record commit => { commit with record },
    optionalField "cid" Wire.text fun cid commit => { commit with cid }]

/-- Reads a message. -/
def reading : Reading (List Json.Slice) Message :=
  fields ⟨0, "", .unknown, none⟩ [
    required "time_us" Wire.signed fun time message => { message with time },
    required "did" Wire.text fun did message => { message with did },
    required "kind" (mapped MessageKind.ofName nameReading) fun kind message => { message with kind },
    optionalField "commit" commitReading fun commit message => { message with commit }]

/-- **ofText?** — the message that a text is. -/
def ofText? (s : String) : Option Message := (Json.Slice.ofText? s).bind (Json.read? reading)

/-- **event?** — the event of a message. -/
def event? (message : Message) : Option Event :=
  if message.kind ≠ .commit then none
  else
    message.commit.map fun commit => {
      seq := message.time
      did := message.did
      action := commit.action
      collection := commit.collection
      rkey := commit.rkey
      cid := commit.cid
      payload := commit.record.map .json }

end Message

end FeedIndex
