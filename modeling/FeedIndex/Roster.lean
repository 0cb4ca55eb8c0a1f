import FeedIndex.Keyed
import FeedIndex.Store.Basic

/-!
# The roster

The actors as they are known without asking the store: a copy of its table, taken as a whole, with the
changes of one's own since then. Decisions are made on the roster, so it may lag behind what others write to
the store. An `Index` is a store with its roster; every change of an actor goes to the store first and to
the roster once the store has it.
-/

namespace FeedIndex

/-- **Roster** — the actors by identifier. -/
structure Roster where
  actors : Keyed Actor := []
  /-- The roster has been written at least once. -/
  isLoaded : Bool := false

namespace Roster

/-- **get?** — the actor of an identifier. -/
def get? (did : String) (roster : Roster) : Option Actor := roster.actors.get? did

/-- The number of actors. -/
def size (roster : Roster) : Nat := roster.actors.length

/-- The number of actors, once the roster has been written. -/
def reportedSize? (roster : Roster) : Option Nat := if roster.isLoaded then some roster.size else none

/-- **put** — sets an actor. -/
def put (actor : Actor) (roster : Roster) : Roster := ⟨roster.actors.set actor.did actor, true⟩

/-- **ofActors** — the roster of a list of actors. -/
def ofActors (actors : List Actor) : Roster :=
  ⟨actors.foldl (fun entries actor => Keyed.set actor.did actor entries) [], true⟩

theorem get?_put (did : String) (actor : Actor) (roster : Roster) :
    (roster.put actor).get? did = if did = actor.did then some actor else roster.get? did := by
  simp [put, get?, Keyed.get?_set]

end Roster

/-! ## A store with its roster -/

/-- **Index** — a store with its roster. -/
structure Index (σ : Type) where
  store : σ
  roster : Roster := {}

/-- **Indexing** — a computation on an index that can fail. What it has changed before it fails stays
changed. -/
abbrev Indexing (σ ε α : Type) := ExceptT ε (StateM (Index σ)) α

namespace Index

variable {σ : Type}

/-- **onStore** — a computation on the store of an index. -/
def onStore (operation : Storing σ α) : Indexing σ StoreFailure α := do
  let index ← get
  let (result, store) := operation.run.run index.store
  set { index with store }
  match result with
  | .ok a => return a
  | .error failure => throw failure

/-- Sets an actor in the roster. -/
def putActor (actor : Actor) : Indexing σ StoreFailure Unit :=
  modify fun index => { index with roster := index.roster.put actor }

variable [Store σ]

/-- **sync** — takes the roster from the store anew: the number of actors. -/
def sync : Indexing σ StoreFailure Nat := do
  let actors ← onStore (Store.listActors none)
  let roster := Roster.ofActors actors
  modify fun index => { index with roster }
  return roster.size

/-- The remark on an actor that was added here. -/
def addedRemark : String := "added by system"

/-- Adds an actor to the store, or takes the one that is there already. -/
def createOrGet (actor : Actor) : Indexing σ StoreFailure Actor := do
  let index ← get
  let (result, store) := (Store.createActor actor : Storing σ Actor).run.run index.store
  set { index with store }
  match result with
  | .ok actor => return actor
  | .error (.actorExists _) =>
    match ← onStore (Store.getActor actor.did) with
    | some stored => return stored
    | none => throw (.actorNotFound actor.did)
  | .error failure => throw failure

/-- **createPending** — follows a new account, which waits for a moderator. An account that the store knows
already is taken as it is there. -/
def createPending (did : String) (now : Timestamp) : Indexing σ StoreFailure Actor := do
  let actor ← createOrGet (Actor.fresh did .pending addedRemark now)
  putActor actor
  return actor

/-- **setStatus** — changes the status of an actor. -/
def setStatus (did : String) (status : ActorStatus) : Indexing σ StoreFailure Actor := do
  let actor ← onStore (Store.setActorStatus did status)
  putActor actor
  return actor

end Index

end FeedIndex
