import FeedIndex.Store.Basic

/-!
# Operations on a store as data

A request to a store, its answer, and the two ways to run requests: one alone, or a list of them, where a
request that fails does not stop those after it. Running them is the same for every backend.
-/

namespace FeedIndex

/-- **StoreOperation** — a request to a store. -/
inductive StoreOperation
  | getCursor
  | setCursor (position : Int)
  | listActors (status : Option ActorStatus)
  | getActor (did : String)
  | createActor (actor : Actor)
  | setActorStatus (did : String) (status : ActorStatus)
  | holdActor (did : String) (heldUntil : Option Timestamp)
  | createPost (row : PostRow)
  | getPost (uri : String)
  | deletePost (uri : String)
  | createLike (row : LinkRow)
  | getLike (uri : String)
  | deleteLike (uri : String)
  | createFollow (row : LinkRow)
  | getFollow (uri : String)
  | deleteFollow (uri : String)
  | putProfile (row : ProfileRow)
  | latestProfile (did : String)
  | profileHistory (did : String)
deriving Repr

/-- **StoreAnswer** — what a store answers. -/
inductive StoreAnswer
  | done
  | position (cursor : Option Int)
  | actor (actor : Option Actor)
  | actors (actors : List Actor)
  | post (row : Option PostRow)
  | like (row : Option LinkRow)
  | follow (row : Option LinkRow)
  | profile (row : Option ProfileRow)
  | profiles (rows : List ProfileRow)
deriving Repr

/-- **perform** — runs a request at a time. -/
def StoreOperation.perform [Store σ] (now : Timestamp) : StoreOperation → Storing σ StoreAnswer
  | .getCursor => return .position (← Store.getCursor)
  | .setCursor position => do
    Store.setCursor position
    return .done
  | .listActors status => return .actors (← Store.listActors status)
  | .getActor did => return .actor (← Store.getActor did)
  | .createActor actor => return .actor (some (← Store.createActor actor))
  | .setActorStatus did status => return .actor (some (← Store.setActorStatus did status))
  | .holdActor did heldUntil => return .actor (some (← Store.holdActor did heldUntil))
  | .createPost row => do
    Store.createPost row
    return .done
  | .getPost uri => return .post (← Store.getPost uri)
  | .deletePost uri => do
    Store.deletePost uri now
    return .done
  | .createLike row => do
    Store.createLike row
    return .done
  | .getLike uri => return .like (← Store.getLike uri)
  | .deleteLike uri => do
    Store.deleteLike uri now
    return .done
  | .createFollow row => do
    Store.createFollow row
    return .done
  | .getFollow uri => return .follow (← Store.getFollow uri)
  | .deleteFollow uri => do
    Store.deleteFollow uri now
    return .done
  | .putProfile row => do
    Store.putProfile row
    return .done
  | .latestProfile did => return .profile (← Store.latestProfile did)
  | .profileHistory did => return .profiles (← Store.profileHistory did)

/-- **run** — runs a request on a store: its answer or failure, and the store afterwards. -/
def StoreOperation.run [Store σ] (now : Timestamp) (operation : StoreOperation) (store : σ) :
    Except StoreFailure StoreAnswer × σ :=
  (operation.perform now).run.run store

/-- **runAll** — runs requests one after the other, each at its time. -/
def StoreOperation.runAll [Store σ] :
    List (Timestamp × StoreOperation) → σ → List (Except StoreFailure StoreAnswer) × σ
  | [], store => ([], store)
  | (now, operation) :: rest, store =>
    let (answer, store) := operation.run now store
    let (answers, store) := runAll rest store
    (answer :: answers, store)

theorem StoreOperation.length_runAll [Store σ] (requests : List (Timestamp × StoreOperation)) (store : σ) :
    (runAll requests store).1.length = requests.length := by
  induction requests generalizing store with
  | nil => rfl
  | cons request rest ih => simp [runAll, ih]

end FeedIndex
