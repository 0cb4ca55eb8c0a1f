import FeedIndex.Text.Quoted
import FeedIndex.Timestamp.Basic

/-!
# Actors and their moderation status

An actor is an account that the index follows. Its status decides what of it is stored. The account's own
doing moves the status only along two edges in each direction: following the subject account asks to be
included, unfollowing it opts out. What a moderator decided is never undone here.
-/

namespace FeedIndex

/-- **ActorStatus** — where an account stands with the moderators. -/
inductive ActorStatus
  /-- Known, and not asking to be included. -/
  | none
  /-- Waiting for a moderator. -/
  | pending
  /-- Indexed. -/
  | approved
  /-- Excluded by a moderator. -/
  | banned
  /-- Excluded by its own wish. -/
  | optedOut
  /-- Refused by a moderator. -/
  | rejected
deriving DecidableEq, Repr, Inhabited

namespace ActorStatus

/-- Every status. -/
def all : List ActorStatus := [.none, .pending, .approved, .banned, .optedOut, .rejected]

/-- **name** — the status as it is written. -/
def name : ActorStatus → String
  | .none => "none"
  | .pending => "pending"
  | .approved => "approved"
  | .banned => "banned"
  | .optedOut => "opted_out"
  | .rejected => "rejected"

/-- **ofName?** — the status that is written so. -/
def ofName? (s : String) : Option ActorStatus := all.find? fun status => status.name == s

/-- **unknownMessage** — the complaint about a text that is no status. -/
def unknownMessage (s : String) : String := "unknown actor status " ++ Text.quoted s

/-- **afterFollow** — the status after the account follows the subject, if it changes. A fresh account
goes to the moderators, one that opted out comes straight back. -/
def afterFollow : ActorStatus → Option ActorStatus
  | .none => some .pending
  | .optedOut => some .approved
  | _ => Option.none

/-- **afterUnfollow** — the status after the account unfollows the subject, if it changes. -/
def afterUnfollow : ActorStatus → Option ActorStatus
  | .approved => some .optedOut
  | .pending => some .none
  | _ => Option.none

theorem ofName?_name (status : ActorStatus) : ofName? status.name = some status := by
  cases status <;> decide

end ActorStatus

/-- **Actor** — a followed account. A moderator's hold is kept with it and does not change what is
indexed. -/
structure Actor where
  did : String
  status : ActorStatus
  comment : String
  isArtist : Bool
  roles : List String
  heldUntil : Option Timestamp
  /-- The commit that wrote the current profile. -/
  profileCid : Option String
  createdAt : Timestamp
deriving DecidableEq, Repr

namespace Actor

/-- A new account without any of the moderators' remarks. -/
def fresh (did : String) (status : ActorStatus) (comment : String) (now : Timestamp) : Actor :=
  ⟨did, status, comment, false, [], none, none, now⟩

/-- The account is indexed. -/
def isApproved (actor : Actor) : Bool := actor.status == .approved

end Actor

end FeedIndex
