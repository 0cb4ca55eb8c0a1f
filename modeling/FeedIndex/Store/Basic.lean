import FeedIndex.Actor
import FeedIndex.Json.Value

/-!
# The store

What is kept for good: the position in the stream, the actors, the indexed records, and every profile an
actor ever had. A record is created once; creating it again changes nothing, so that an event may be
handled again after a restart. A deleted record stays, with the time of its first deletion. `Store` is what
the rest of the library may do with a store; the backends are its instances.
-/

namespace FeedIndex

/-! ## Rows -/

/-- **PostRow** — an indexed post. -/
structure PostRow where
  uri : String
  actorDid : String
  /-- The time that the author claims. -/
  createdAt : Timestamp
  indexedAt : Timestamp
  hashtags : List String
  selfLabels : List String
  tags : List String
  hasMedia : Bool
  hasVideo : Bool
  isNsfw : Bool
  /-- The whole record. -/
  raw : Json.Value
  deletedAt : Option Timestamp
deriving Repr, Inhabited

/-- **LinkRow** — an indexed like or follow: what an account points to. -/
structure LinkRow where
  uri : String
  actorDid : String
  /-- The address of the liked record, or the identifier of the followed account. -/
  subject : String
  createdAt : Timestamp
  indexedAt : Timestamp
  deletedAt : Option Timestamp
deriving DecidableEq, Repr, Inhabited

/-- **ProfileRow** — a profile an actor had, under the commit that wrote it. -/
structure ProfileRow where
  actorDid : String
  commitCid : String
  displayName : Option String
  description : Option String
  selfLabels : List String
  createdAt : Option Timestamp
  indexedAt : Timestamp
deriving DecidableEq, Repr, Inhabited

/-- The post deleted at some time, unless it is deleted already. -/
def PostRow.delete (now : Timestamp) (row : PostRow) : PostRow :=
  { row with deletedAt := row.deletedAt.or (some now) }

/-- The link deleted at some time, unless it is deleted already. -/
def LinkRow.delete (now : Timestamp) (row : LinkRow) : LinkRow :=
  { row with deletedAt := row.deletedAt.or (some now) }

/-! ## Failures -/

/-- **StoreFailure** — why the store does not do what it is asked. -/
inductive StoreFailure
  | actorExists (did : String)
  | actorNotFound (did : String)
  /-- The store is out of service. -/
  | poisoned
  /-- A stored value cannot be read back. -/
  | unreadable
deriving DecidableEq, Repr

/-- **message?** — the wording of the cause, where it has one. -/
def StoreFailure.message? : StoreFailure → Option String
  | .actorExists did => some ("actor " ++ did ++ " already exists")
  | .actorNotFound did => some ("actor " ++ did ++ " not found")
  | .poisoned => some "store lock poisoned"
  | .unreadable => none

/-! ## Operations -/

/-- **Storing** — a computation on a store that can fail. What a failing computation has changed before it
fails stays changed. -/
abbrev Storing (σ α : Type) := ExceptT StoreFailure (StateM σ) α

/-- **Store** — the operations of a store. -/
class Store (σ : Type) where
  getCursor : Storing σ (Option Int)
  setCursor : Int → Storing σ Unit
  /-- The actors by identifier, all or those of a status. -/
  listActors : Option ActorStatus → Storing σ (List Actor)
  getActor : String → Storing σ (Option Actor)
  /-- Fails if the actor is there already. -/
  createActor : Actor → Storing σ Actor
  setActorStatus : String → ActorStatus → Storing σ Actor
  holdActor : String → Option Timestamp → Storing σ Actor
  createPost : PostRow → Storing σ Unit
  getPost : String → Storing σ (Option PostRow)
  deletePost : String → Timestamp → Storing σ Unit
  createLike : LinkRow → Storing σ Unit
  getLike : String → Storing σ (Option LinkRow)
  deleteLike : String → Timestamp → Storing σ Unit
  createFollow : LinkRow → Storing σ Unit
  getFollow : String → Storing σ (Option LinkRow)
  deleteFollow : String → Timestamp → Storing σ Unit
  /-- Adds a profile, if its commit is new, and points the actor to it. -/
  putProfile : ProfileRow → Storing σ Unit
  /-- The profile the actor points to, or else the newest one. -/
  latestProfile : String → Storing σ (Option ProfileRow)
  /-- All profiles of an actor, the oldest first. -/
  profileHistory : String → Storing σ (List ProfileRow)

end FeedIndex
