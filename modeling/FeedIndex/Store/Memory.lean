import FeedIndex.Keyed
import FeedIndex.Store.Basic

/-!
# The store in memory

Rows as they are, by their keys. Profiles stand in the order in which they were added.
-/

namespace FeedIndex

/-- **Memory** — a store in memory. -/
structure Memory where
  cursor : Option Int := none
  actors : Keyed Actor := []
  posts : Keyed PostRow := []
  likes : Keyed LinkRow := []
  follows : Keyed LinkRow := []
  /-- The profiles of all actors, the oldest first. -/
  profiles : List ProfileRow := []
deriving Inhabited

namespace Memory

/-- The profiles of an actor. -/
def history (m : Memory) (did : String) : List ProfileRow := m.profiles.filter (·.actorDid == did)

/-- The profile that the actor points to. -/
def pointed? (m : Memory) (did : String) : Option ProfileRow :=
  match (m.actors.get? did).bind (·.profileCid) with
  | none => none
  | some cid => (m.history did).find? (·.commitCid == cid)

/-- The actors of a status, or all. -/
def actorsOf (m : Memory) (status : Option ActorStatus) : List Actor :=
  ((Keyed.sorted m.actors).map (·.2)).filter fun actor =>
    match status with
    | none => true
    | some s => actor.status == s

/-- Changes an actor; fails if there is none. -/
def updateActor (did : String) (f : Actor → Actor) : Storing Memory Actor := do
  match (← get).actors.get? did with
  | none => throw (.actorNotFound did)
  | some actor =>
    modify fun m => { m with actors := m.actors.modify did f }
    return f actor

/-- Adds an actor; fails if it is there. -/
def createActor (actor : Actor) : Storing Memory Actor := do
  if ((← get).actors.get? actor.did).isSome then throw (.actorExists actor.did)
  modify fun m => { m with actors := m.actors.insertNew actor.did actor }
  return actor

/-- Adds a profile, if its commit is new, and points the actor to it. -/
def putProfile (row : ProfileRow) (m : Memory) : Memory :=
  if (m.history row.actorDid).any (·.commitCid == row.commitCid) then m
  else
    { m with
      profiles := m.profiles ++ [row]
      actors := m.actors.modify row.actorDid fun actor => { actor with profileCid := some row.commitCid } }

instance : Store Memory where
  getCursor := do return (← get).cursor
  setCursor n := modify fun m => { m with cursor := some n }
  listActors status := do return (← get).actorsOf status
  getActor did := do return (← get).actors.get? did
  createActor := createActor
  setActorStatus did status := updateActor did fun actor => { actor with status }
  holdActor did heldUntil := updateActor did fun actor => { actor with heldUntil }
  createPost row := modify fun m => { m with posts := m.posts.insertNew row.uri row }
  getPost uri := do return (← get).posts.get? uri
  deletePost uri now := modify fun m => { m with posts := m.posts.modify uri (·.delete now) }
  createLike row := modify fun m => { m with likes := m.likes.insertNew row.uri row }
  getLike uri := do return (← get).likes.get? uri
  deleteLike uri now := modify fun m => { m with likes := m.likes.modify uri (·.delete now) }
  createFollow row := modify fun m => { m with follows := m.follows.insertNew row.uri row }
  getFollow uri := do return (← get).follows.get? uri
  deleteFollow uri now := modify fun m => { m with follows := m.follows.modify uri (·.delete now) }
  putProfile row := modify (putProfile row)
  latestProfile did := do
    let m ← get
    return (m.pointed? did).or (m.history did).getLast?
  profileHistory did := do return (← get).history did

end Memory

end FeedIndex
