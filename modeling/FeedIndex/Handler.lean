import FeedIndex.Classification
import FeedIndex.Commit
import FeedIndex.Did
import FeedIndex.Record.Opener
import FeedIndex.Roster
import FeedIndex.Text.Quoted
import FeedIndex.Timestamp.Internet

/-!
# Handling events

What an event writes. The roster decides first: events of accounts that are not followed, or not approved,
come to nothing before their record is looked at. Following the subject account is how an account asks to be
followed itself, and unfollowing it is how it opts out again. An event that fails is dropped. All that can
be wrong with an event is found before the first write, but for the claimed time of a follow of the subject,
which is read only after the account has been added.
-/

namespace FeedIndex

/-! ## What can be wrong -/

/-- **HandleFailure** — why an event is dropped. -/
inductive HandleFailure
  | missingRecord
  | missingCid
  | badDid (did : String)
  | badTime (text : String) (cause : Timestamp.ReadError)
  /-- What a like points to is not a record. -/
  | badSubject (text : String)
  | unopened (cause : OpenFailure)
  | unstored (cause : StoreFailure)
deriving DecidableEq, Repr

namespace HandleFailure

/-- **message?** — the wording of the cause, where it has one. -/
def message? : HandleFailure → Option String
  | .missingRecord => some "create/update commit operation missing record data"
  | .missingCid => some "commit operation missing record cid"
  | .badDid did => some ("repo did is not valid: " ++ Text.quoted did)
  | .badTime text cause => some ("bad record timestamp " ++ Text.quoted text ++ ": " ++ cause.message)
  | .badSubject text => some ("like subject is not a record uri: " ++ Text.quoted text)
  | .unopened cause => cause.message?
  | .unstored cause => cause.message?.map ("storage: " ++ ·)

/-- The event carries another record than it says, and not merely one that cannot be read. -/
def isIntegrity : HandleFailure → Bool
  | .unopened cause => cause.isIntegrity
  | _ => false

end HandleFailure

/-! ## The handler -/

/-- **Handler** — how events are handled. -/
structure Handler where
  opener : Opener := .verifying
  /-- The account whose followers are followed. -/
  subject : String := "did:plc:jdkvwye2lf4mingzk7qdebzc"
deriving DecidableEq, Repr

namespace Handler

variable {σ : Type}

/-- The payload of an event that needs one. -/
def payloadOf (event : Event) : Except HandleFailure Payload :=
  match event.payload with
  | some payload => .ok payload
  | none => .error .missingRecord

/-- **openRecord** — the record of an event. -/
def openRecord [Record α] (handler : Handler) (event : Event) : Except HandleFailure α :=
  match payloadOf event with
  | .error failure => .error failure
  | .ok payload => (handler.opener.openRecord payload).mapError .unopened

/-- **openWithRaw** — the record of an event together with the whole of it. -/
def openWithRaw [Record α] (handler : Handler) (event : Event) :
    Except HandleFailure (α × Json.Value) :=
  match payloadOf event with
  | .error failure => .error failure
  | .ok payload => (handler.opener.openWithRaw payload).mapError .unopened

/-- **claimedTime** — the time that a record claims. -/
def claimedTime (text : String) : Except HandleFailure Timestamp :=
  (Timestamp.read text).mapError (.badTime text)

/-- The actor is known and approved. -/
def isApproved (actor : Option Actor) : Bool := actor.any Actor.isApproved

/-- The actor is known and its profile is kept: it is approved, or waits for a moderator. -/
def keepsProfile (actor : Option Actor) : Bool :=
  actor.any fun actor => actor.status == .pending || actor.status == .approved

/-! ## Rows of events -/

/-- **postRow?** — the row of a created post. A reply has none. -/
def postRow? (handler : Handler) (event : Event) (now : Timestamp) :
    Except HandleFailure (Option PostRow) := do
  let (post, raw) : Post × Json.Value ← handler.openWithRaw event
  let content := post.classify
  if content.isReply then return none
  return some {
    uri := event.uri
    actorDid := event.did
    createdAt := ← claimedTime post.createdAt
    indexedAt := now
    hashtags := content.hashtags
    selfLabels := content.selfLabels
    tags := content.tags.map FeedTag.name
    hasMedia := content.hasMedia
    hasVideo := content.hasVideo
    isNsfw := content.isNsfw
    raw
    deletedAt := none }

/-- The address in its canonical form of what a like points to. -/
def likedUri (text : String) : Except HandleFailure String :=
  match RecordUri.parse? text with
  | some uri => .ok uri.render
  | none => .error (.badSubject text)

/-- **likeRow** — the row of a created like. -/
def likeRow (handler : Handler) (event : Event) (now : Timestamp) : Except HandleFailure LinkRow := do
  let like : Like ← handler.openRecord event
  let subject ← likedUri like.subject.uri
  return ⟨event.uri, event.did, subject, ← claimedTime like.createdAt, now, none⟩

/-- **profileRow** — the row of a profile that was written. -/
def profileRow (handler : Handler) (event : Event) (now : Timestamp) :
    Except HandleFailure ProfileRow := do
  let some commitCid := event.cid | throw .missingCid
  let profile : Profile ← handler.openRecord event
  return {
    actorDid := event.did
    commitCid
    displayName := profile.displayName
    description := profile.description
    selfLabels := profile.selfLabels
    createdAt := ← profile.createdAt.mapM claimedTime
    indexedAt := now }

/-! ## Handling -/

/-- **Handling** — a computation on an index that can fail as an event does. -/
abbrev Handling (σ α : Type) := Indexing σ HandleFailure α

/-- A result as a computation. -/
def deciding (result : Except HandleFailure α) : Handling σ α := ExceptT.mk (pure result)

/-- A computation of the index. -/
def indexing (operation : Indexing σ StoreFailure α) : Handling σ α :=
  ExceptT.adapt .unstored operation

/-- A computation on the store. -/
def storing (operation : Storing σ α) : Handling σ α := indexing (Index.onStore operation)

variable [Store σ]

/-- The status of an actor moves on, if it does. -/
def moveStatus (did : String) (next : Option ActorStatus) : Handling σ Unit :=
  match next with
  | none => return ()
  | some status => do
    let _ ← indexing (Index.setStatus did status)
    return ()

/-- The account of an event followed the subject. -/
def followedSubject (event : Event) (actor : Option Actor) (now : Timestamp) : Handling σ Unit :=
  match actor with
  | none => do
    let _ ← indexing (Index.createPending event.did now)
    return ()
  | some actor => moveStatus event.did actor.status.afterFollow

/-- Keeps a follow. -/
def keepFollow (event : Event) (follow : Follow) (now : Timestamp) : Handling σ Unit := do
  let createdAt ← deciding (claimedTime follow.createdAt)
  storing (Store.createFollow ⟨event.uri, event.did, follow.subject, createdAt, now, none⟩)

/-- **followCreated** — a follow of the subject moves the account's status and is kept; other follows are
kept for approved accounts. -/
def followCreated (handler : Handler) (event : Event) (actor : Option Actor) (now : Timestamp) :
    Handling σ Unit := do
  let follow : Follow ← deciding (handler.openRecord event)
  if follow.subject = handler.subject then
    followedSubject event actor now
    keepFollow event follow now
  else if isApproved actor then keepFollow event follow now

/-- **followDeleted** — a follow that was kept is deleted; one of the subject moves the status. -/
def followDeleted (handler : Handler) (event : Event) (actor : Actor) (now : Timestamp) :
    Handling σ Unit := do
  match ← storing (Store.getFollow event.uri) with
  | none => return ()
  | some follow =>
    storing (Store.deleteFollow event.uri now)
    if follow.subject = handler.subject then moveStatus event.did actor.status.afterUnfollow

/-- **plan** — handles an event up to the writing of a post: the post still to be written, if there is
one. -/
def plan (handler : Handler) (event : Event) (now : Timestamp) : Handling σ (Option PostRow) := do
  let collection := Collection.ofName event.collection
  if collection = .other then return none
  if !Did.isValid event.did then throw (.badDid event.did)
  let actor := (← get).roster.get? event.did
  match collection, event.action with
  | .follow, .create =>
    handler.followCreated event actor now
    return none
  | .follow, .delete =>
    if let some actor := actor then handler.followDeleted event actor now
    return none
  | .post, .create =>
    if isApproved actor then deciding (handler.postRow? event now) else return none
  | .like, .create =>
    if isApproved actor then
      let row ← deciding (handler.likeRow event now)
      storing (Store.createLike row)
    return none
  | .post, .delete =>
    if actor.isSome then storing (Store.deletePost event.uri now)
    return none
  | .like, .delete =>
    if actor.isSome then storing (Store.deleteLike event.uri now)
    return none
  | .profile, .create | .profile, .update =>
    if keepsProfile actor then
      let row ← deciding (handler.profileRow event now)
      storing (Store.putProfile row)
    return none
  | _, _ => return none

/-- **handle** — handles an event. -/
def handle (handler : Handler) (event : Event) (now : Timestamp) : Handling σ Unit := do
  match ← handler.plan event now with
  | some post => storing (Store.createPost post)
  | none => return ()

/-- **run** — handles an event of an index: what went wrong, and the index afterwards. -/
def run (handler : Handler) (event : Event) (now : Timestamp) (index : Index σ) :
    Except HandleFailure Unit × Index σ :=
  (handler.handle event now).run.run index

/-- **runAll** — handles events in their order; one that fails does not stop those after it. The clock gives the
time of an event by the number of the events after it. -/
def runAll (handler : Handler) (clock : Nat → Timestamp) : List Event → Index σ → Index σ
  | [], index => index
  | event :: rest, index => runAll handler clock rest (handler.run event (clock rest.length) index).2

end Handler

end FeedIndex
