import FeedIndex.Cid
import FeedIndex.Collection
import FeedIndex.RecordUri

/-!
# Commits

What a stream delivers, on either transport. A commit has a position in the stream and changes records of
one account; each change is an event. An event that creates or updates a record usually carries the record,
as JSON text from a transport that is trusted, or as a block together with the identifier that is claimed
for it.
-/

namespace FeedIndex

/-- **Action** — what an event does to its record. -/
inductive Action
  | create
  | update
  | delete
deriving DecidableEq, Repr, Inhabited

/-- The action as it is written. -/
def Action.name : Action → String
  | .create => "create"
  | .update => "update"
  | .delete => "delete"

/-- **ofName?** — the action that is written so. -/
def Action.ofName? (s : String) : Option Action :=
  if s = "create" then some .create
  else if s = "update" then some .update
  else if s = "delete" then some .delete
  else none

theorem Action.ofName?_name (action : Action) : Action.ofName? action.name = some action := by
  cases action <;> decide

/-- **Payload** — the record that an event carries. -/
inductive Payload
  | json (text : String)
  | block (cid : Cid) (bytes : Bytes)
deriving DecidableEq, Repr

/-- **Event** — a change of one record. -/
structure Event where
  seq : Int
  did : String
  action : Action
  collection : String
  rkey : String
  /-- The text of the identifier claimed for the record. -/
  cid : Option String
  payload : Option Payload
deriving DecidableEq, Repr

/-- The address of the record. -/
def Event.uri (event : Event) : String := RecordUri.render ⟨event.did, event.collection, event.rkey⟩

/-- **Commit** — the changes that share a position in the stream. -/
structure Commit where
  seq : Int
  events : List Event
deriving DecidableEq, Repr

end FeedIndex
