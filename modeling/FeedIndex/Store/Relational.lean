import FeedIndex.Keyed
import FeedIndex.Store.Basic
import FeedIndex.Timestamp.Column

/-!
# The relational store

Rows of columns, as a database file keeps them. A list of texts is one column that holds its JSON text, and
so is the whole record of a post; reading such a column back can fail. Times are compared as the texts that
stand in their columns. Every table has its primary key: a row whose key is taken is not added, and rows of
one key are never exchanged.
-/

namespace FeedIndex

/-! ## Columns of lists -/

namespace Column

/-- **ofTexts** — the column of a list of texts. -/
def ofTexts (items : List String) : String := (Json.Value.texts items).render

/-- The text that a value is. -/
def text? : Json.Value → Option String
  | .text s => some s
  | _ => none

/-- **toTexts?** — the list of texts in a column. -/
def toTexts? (column : String) : Option (List String) :=
  match Json.Value.ofText? column with
  | some (.array items) => items.mapM text?
  | _ => none

end Column

/-! ## Rows -/

/-- **ActorColumns** — a row of the table of actors. -/
structure ActorColumns where
  did : String
  status : ActorStatus
  comment : String
  isArtist : Bool
  /-- A list of texts. -/
  roles : String
  heldUntil : Option Timestamp
  profileCid : Option String
  createdAt : Timestamp
deriving DecidableEq, Repr

/-- The row of an actor. -/
def ActorColumns.ofActor (actor : Actor) : ActorColumns :=
  ⟨actor.did, actor.status, actor.comment, actor.isArtist, Column.ofTexts actor.roles, actor.heldUntil,
    actor.profileCid, actor.createdAt⟩

/-- The actor of a row. -/
def ActorColumns.actor? (row : ActorColumns) : Option Actor :=
  (Column.toTexts? row.roles).map fun roles =>
    ⟨row.did, row.status, row.comment, row.isArtist, roles, row.heldUntil, row.profileCid, row.createdAt⟩

/-- **PostColumns** — a row of the table of posts. -/
structure PostColumns where
  uri : String
  actorDid : String
  createdAt : Timestamp
  indexedAt : Timestamp
  /-- A list of texts. -/
  hashtags : String
  /-- A list of texts. -/
  selfLabels : String
  /-- A list of texts. -/
  tags : String
  hasMedia : Bool
  hasVideo : Bool
  isNsfw : Bool
  /-- The JSON text of the whole record. -/
  raw : String
  deletedAt : Option Timestamp
deriving DecidableEq, Repr

/-- The row of a post. -/
def PostColumns.ofPost (post : PostRow) : PostColumns :=
  { uri := post.uri
    actorDid := post.actorDid
    createdAt := post.createdAt
    indexedAt := post.indexedAt
    hashtags := Column.ofTexts post.hashtags
    selfLabels := Column.ofTexts post.selfLabels
    tags := Column.ofTexts post.tags
    hasMedia := post.hasMedia
    hasVideo := post.hasVideo
    isNsfw := post.isNsfw
    raw := post.raw.render
    deletedAt := post.deletedAt }

/-- The post of a row. -/
def PostColumns.post? (row : PostColumns) : Option PostRow := do
  return {
    uri := row.uri
    actorDid := row.actorDid
    createdAt := row.createdAt
    indexedAt := row.indexedAt
    hashtags := ← Column.toTexts? row.hashtags
    selfLabels := ← Column.toTexts? row.selfLabels
    tags := ← Column.toTexts? row.tags
    hasMedia := row.hasMedia
    hasVideo := row.hasVideo
    isNsfw := row.isNsfw
    raw := ← Json.Value.ofText? row.raw
    deletedAt := row.deletedAt }

/-- The row deleted at some time, unless it is deleted already. -/
def PostColumns.delete (now : Timestamp) (row : PostColumns) : PostColumns :=
  { row with deletedAt := row.deletedAt.or (some now) }

/-- **ProfileColumns** — a row of the table of profiles. -/
structure ProfileColumns where
  actorDid : String
  commitCid : String
  displayName : Option String
  description : Option String
  /-- A list of texts. -/
  selfLabels : String
  createdAt : Option Timestamp
  indexedAt : Timestamp
deriving DecidableEq, Repr

/-- The row of a profile. -/
def ProfileColumns.ofProfile (profile : ProfileRow) : ProfileColumns :=
  ⟨profile.actorDid, profile.commitCid, profile.displayName, profile.description,
    Column.ofTexts profile.selfLabels, profile.createdAt, profile.indexedAt⟩

/-- The profile of a row. -/
def ProfileColumns.profile? (row : ProfileColumns) : Option ProfileRow :=
  (Column.toTexts? row.selfLabels).map fun selfLabels =>
    ⟨row.actorDid, row.commitCid, row.displayName, row.description, selfLabels, row.createdAt,
      row.indexedAt⟩

/-! ## Tables -/

/-- **Relational** — a store in tables. -/
structure Relational where
  cursor : Option Int := none
  actors : Keyed ActorColumns := []
  posts : Keyed PostColumns := []
  likes : Keyed LinkRow := []
  follows : Keyed LinkRow := []
  /-- The profiles of all actors in the order in which they were added. -/
  profiles : List ProfileColumns := []
deriving Inhabited

namespace Relational

/-- What a column holds, if it can be read. -/
def readable : Option α → Storing Relational α
  | some a => return a
  | none => throw .unreadable

/-- The rows of the actors of a status, or of all, by identifier. -/
def actorRows (db : Relational) (status : Option ActorStatus) : List ActorColumns :=
  ((Keyed.sorted db.actors).map (·.2)).filter fun row =>
    match status with
    | none => true
    | some s => row.status == s

/-- The row was indexed no later than another one. -/
def indexedBefore (a b : ProfileColumns) : Bool := a.indexedAt.columnText ≤ b.indexedAt.columnText

/-- The rows of an actor's profiles by the time they were indexed; rows of one time stay in the order in
which they were added. -/
def historyRows (db : Relational) (did : String) : List ProfileColumns :=
  (db.profiles.filter (·.actorDid == did)).mergeSort indexedBefore

/-- The row of the profile that the actor points to. -/
def pointedRow? (db : Relational) (did : String) : Option ProfileColumns :=
  match (db.actors.get? did).bind (·.profileCid) with
  | none => none
  | some cid => db.profiles.find? fun row => row.actorDid == did && row.commitCid == cid

/-- The actor of an identifier. -/
def selectActor (did : String) : Storing Relational (Option Actor) := do
  match (← get).actors.get? did with
  | none => return none
  | some row => return some (← readable row.actor?)

/-- Changes an actor; fails if there is none. -/
def updateActor (did : String) (f : ActorColumns → ActorColumns) : Storing Relational Actor := do
  if ((← get).actors.get? did).isNone then throw (.actorNotFound did)
  modify fun db => { db with actors := db.actors.modify did f }
  match ← selectActor did with
  | some actor => return actor
  | none => throw (.actorNotFound did)

/-- Adds an actor; fails if it is there. -/
def createActor (actor : Actor) : Storing Relational Actor := do
  if (← selectActor actor.did).isSome then throw (.actorExists actor.did)
  modify fun db => { db with actors := db.actors.insertNew actor.did (.ofActor actor) }
  return actor

/-- The post of an address. -/
def selectPost (uri : String) : Storing Relational (Option PostRow) := do
  match (← get).posts.get? uri with
  | none => return none
  | some row => return some (← readable row.post?)

/-- Adds a profile, if its commit is new, and points the actor to it. -/
def putProfile (profile : ProfileRow) (db : Relational) : Relational :=
  if db.profiles.any fun row => row.actorDid == profile.actorDid && row.commitCid == profile.commitCid then
    db
  else
    { db with
      profiles := db.profiles ++ [.ofProfile profile]
      actors := db.actors.modify profile.actorDid fun row =>
        { row with profileCid := some profile.commitCid } }

/-- The profile the actor points to, or else the one indexed last. -/
def selectLatest (did : String) : Storing Relational (Option ProfileRow) := do
  let db ← get
  match (db.pointedRow? did).or (db.historyRows did).getLast? with
  | none => return none
  | some row => return some (← readable row.profile?)

instance : Store Relational where
  getCursor := do return (← get).cursor
  setCursor n := modify fun db => { db with cursor := some n }
  listActors status := do ((← get).actorRows status).mapM fun row => readable row.actor?
  getActor := selectActor
  createActor := createActor
  setActorStatus did status := updateActor did fun row => { row with status }
  holdActor did heldUntil := updateActor did fun row => { row with heldUntil }
  createPost post := modify fun db => { db with posts := db.posts.insertNew post.uri (.ofPost post) }
  getPost := selectPost
  deletePost uri now := modify fun db => { db with posts := db.posts.modify uri (·.delete now) }
  createLike row := modify fun db => { db with likes := db.likes.insertNew row.uri row }
  getLike uri := do return (← get).likes.get? uri
  deleteLike uri now := modify fun db => { db with likes := db.likes.modify uri (·.delete now) }
  createFollow row := modify fun db => { db with follows := db.follows.insertNew row.uri row }
  getFollow uri := do return (← get).follows.get? uri
  deleteFollow uri now := modify fun db => { db with follows := db.follows.modify uri (·.delete now) }
  putProfile profile := modify (putProfile profile)
  latestProfile := selectLatest
  profileHistory did := do ((← get).historyRows did).mapM fun row => readable row.profile?

end Relational

end FeedIndex
