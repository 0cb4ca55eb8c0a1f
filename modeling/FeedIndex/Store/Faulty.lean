import FeedIndex.Store.Basic

/-!
# A store out of service

A store of which some operations fail for a while, whatever they are asked, and change nothing. It is what
the rest of the library is run against to see that it loses nothing when its store does not answer.
-/

namespace FeedIndex

/-- **StoreMethod** — the operations of a store by name. -/
inductive StoreMethod
  | getCursor
  | setCursor
  | listActors
  | getActor
  | createActor
  | setActorStatus
  | holdActor
  | createPost
  | getPost
  | deletePost
  | createLike
  | getLike
  | deleteLike
  | createFollow
  | getFollow
  | deleteFollow
  | putProfile
  | latestProfile
  | profileHistory
deriving DecidableEq, Repr

/-- **Faulty** — a store with the operations that fail at present. -/
structure Faulty (σ : Type) where
  base : σ
  failing : List StoreMethod := []

namespace Faulty

/-- The operation fails from now on, or does no longer. -/
def setFailing (method : StoreMethod) (on : Bool) (store : Faulty σ) : Faulty σ :=
  let others := store.failing.filter (· ≠ method)
  { store with failing := if on then method :: others else others }

/-- **guarded** — runs an operation on the store inside, unless it fails at present. -/
def guarded (method : StoreMethod) (operation : Storing σ α) : Storing (Faulty σ) α := do
  let store ← get
  if method ∈ store.failing then throw .poisoned
  let (result, base) := operation.run.run store.base
  set { store with base }
  match result with
  | .ok a => return a
  | .error failure => throw failure

instance [Store σ] : Store (Faulty σ) where
  getCursor := guarded .getCursor Store.getCursor
  setCursor n := guarded .setCursor (Store.setCursor n)
  listActors status := guarded .listActors (Store.listActors status)
  getActor did := guarded .getActor (Store.getActor did)
  createActor actor := guarded .createActor (Store.createActor actor)
  setActorStatus did status := guarded .setActorStatus (Store.setActorStatus did status)
  holdActor did heldUntil := guarded .holdActor (Store.holdActor did heldUntil)
  createPost row := guarded .createPost (Store.createPost row)
  getPost uri := guarded .getPost (Store.getPost uri)
  deletePost uri now := guarded .deletePost (Store.deletePost uri now)
  createLike row := guarded .createLike (Store.createLike row)
  getLike uri := guarded .getLike (Store.getLike uri)
  deleteLike uri now := guarded .deleteLike (Store.deleteLike uri now)
  createFollow row := guarded .createFollow (Store.createFollow row)
  getFollow uri := guarded .getFollow (Store.getFollow uri)
  deleteFollow uri now := guarded .deleteFollow (Store.deleteFollow uri now)
  putProfile row := guarded .putProfile (Store.putProfile row)
  latestProfile did := guarded .latestProfile (Store.latestProfile did)
  profileHistory did := guarded .profileHistory (Store.profileHistory did)

theorem guarded_failing (method : StoreMethod) (operation : Storing σ α) (store : Faulty σ)
    (h : method ∈ store.failing) :
    (guarded method operation).run.run store = (.error .poisoned, store) := by
  change (ite (method ∈ store.failing) _ _ : Storing (Faulty σ) α).run.run store = _
  rw [if_pos h]
  rfl

end Faulty

end FeedIndex
