import FeedIndex.Proofs.Computation
import FeedIndex.Proofs.Handled
import FeedIndex.Proofs.Keyed

/-!
# What a store says

A `Ledger` is what can be told of a store without looking into its rows: the position, the status of every
account, and for every address whether a record is there and whether it is deleted. Each request has one
effect on the ledger, the same for every backend. A `LedgerStore` is a store that keeps to it; the laws about
accounts and records are proved for all of them at once.
-/

namespace FeedIndex

/-- **Table** — the tables of records. -/
inductive Table
  | posts
  | likes
  | follows
deriving DecidableEq, Repr

/-- **Ledger** — what a store says. -/
@[ext]
structure Ledger where
  position : Option Int
  /-- The status of an account, if it is stored. -/
  status : String → Option ActorStatus
  /-- The time of deletion of the record at an address, if there is a record. -/
  mark : Table → String → Option (Option Timestamp)

namespace Ledger

/-- **addRecord** — a record is added, unless its address is taken. -/
def addRecord (table : Table) (uri : String) (deletedAt : Option Timestamp) (l : Ledger) : Ledger :=
  { l with
    mark := fun t u =>
      if t = table ∧ u = uri then (l.mark t u).or (some deletedAt) else l.mark t u }

/-- **deleteRecord** — the record of an address is marked, unless it is marked already. -/
def deleteRecord (table : Table) (uri : String) (now : Timestamp) (l : Ledger) : Ledger :=
  { l with
    mark := fun t u =>
      if t = table ∧ u = uri then (l.mark t u).map (·.or (some now)) else l.mark t u }

/-- **addAccount** — an account is added, unless it is stored already. -/
def addAccount (did : String) (status : ActorStatus) (l : Ledger) : Ledger :=
  { l with status := fun d => if d = did then (l.status d).or (some status) else l.status d }

/-- **setStatus** — the status of a stored account is set. -/
def setStatus (did : String) (status : ActorStatus) (l : Ledger) : Ledger :=
  { l with status := fun d => if d = did then (l.status d).map fun _ => status else l.status d }

/-- **apply** — what a request does to the ledger. -/
def apply (now : Timestamp) : StoreOperation → Ledger → Ledger
  | .setCursor position, l => { l with position := some position }
  | .createActor actor, l => l.addAccount actor.did actor.status
  | .setActorStatus did status, l => l.setStatus did status
  | .createPost row, l => l.addRecord .posts row.uri row.deletedAt
  | .createLike row, l => l.addRecord .likes row.uri row.deletedAt
  | .createFollow row, l => l.addRecord .follows row.uri row.deletedAt
  | .deletePost uri, l => l.deleteRecord .posts uri now
  | .deleteLike uri, l => l.deleteRecord .likes uri now
  | .deleteFollow uri, l => l.deleteRecord .follows uri now
  | .getCursor, l | .listActors _, l | .getActor _, l | .holdActor _ _, l | .getPost _, l | .getLike _, l
  | .getFollow _, l | .putProfile _, l | .latestProfile _, l | .profileHistory _, l => l

/-! ### Records that requests add and delete -/

/-- The record that a request adds: its table, its address and the time of its deletion. -/
def added? : StoreOperation → Option (Table × String × Option Timestamp)
  | .createPost row => some (.posts, row.uri, row.deletedAt)
  | .createLike row => some (.likes, row.uri, row.deletedAt)
  | .createFollow row => some (.follows, row.uri, row.deletedAt)
  | _ => none

/-- The record that a request deletes. -/
def deleted? : StoreOperation → Option (Table × String)
  | .deletePost uri => some (.posts, uri)
  | .deleteLike uri => some (.likes, uri)
  | .deleteFollow uri => some (.follows, uri)
  | _ => none

theorem apply_of_added? {request : StoreOperation} {table : Table} {uri : String}
    {deletedAt : Option Timestamp} (h : added? request = some (table, uri, deletedAt)) (now : Timestamp)
    (l : Ledger) : l.apply now request = l.addRecord table uri deletedAt := by
  cases request <;> cases h <;> rfl

theorem apply_of_deleted? {request : StoreOperation} {table : Table} {uri : String}
    (h : deleted? request = some (table, uri)) (now : Timestamp) (l : Ledger) :
    l.apply now request = l.deleteRecord table uri now := by
  cases request <;> cases h <;> rfl

/-! ### Recognising an effect -/

variable {l next : Ledger} {table : Table} {uri : String}

/-- **AgreeBut** — two ledgers say the same of the records of every table but one. -/
def AgreeBut (table : Table) (l next : Ledger) : Prop := ∀ t, t = table ∨ next.mark t = l.mark t

theorem agreeBut_posts (likes : next.mark .likes = l.mark .likes)
    (follows : next.mark .follows = l.mark .follows) : AgreeBut .posts l next
  | .posts => .inl rfl
  | .likes => .inr likes
  | .follows => .inr follows

theorem agreeBut_likes (posts : next.mark .posts = l.mark .posts)
    (follows : next.mark .follows = l.mark .follows) : AgreeBut .likes l next
  | .posts => .inr posts
  | .likes => .inl rfl
  | .follows => .inr follows

theorem agreeBut_follows (posts : next.mark .posts = l.mark .posts)
    (likes : next.mark .likes = l.mark .likes) : AgreeBut .follows l next
  | .posts => .inr posts
  | .likes => .inr likes
  | .follows => .inl rfl

theorem eq_addRecord {deletedAt : Option Timestamp} (position : next.position = l.position)
    (status : next.status = l.status) (others : AgreeBut table l next)
    (mark : ∀ u, next.mark table u =
      if u = uri then (l.mark table u).or (some deletedAt) else l.mark table u) :
    next = l.addRecord table uri deletedAt := by
  refine Ledger.ext position status ?_
  funext t u
  by_cases h : t = table
  · subst h
    simp [addRecord, mark]
  · simp [addRecord, h, (others t).resolve_left h]

theorem eq_deleteRecord {now : Timestamp} (position : next.position = l.position)
    (status : next.status = l.status) (others : AgreeBut table l next)
    (mark : ∀ u, next.mark table u =
      if u = uri then (l.mark table u).map (·.or (some now)) else l.mark table u) :
    next = l.deleteRecord table uri now := by
  refine Ledger.ext position status ?_
  funext t u
  by_cases h : t = table
  · subst h
    simp [deleteRecord, mark]
  · simp [deleteRecord, h, (others t).resolve_left h]

end Ledger

/-! ## Rosters of a list -/

/-- A roster of actors that agree with `f` finds what `f` finds, for those that are listed. -/
theorem Roster.get?_ofActors {f : String → Option Actor} {actors : List Actor}
    (agrees : ∀ actor ∈ actors, f actor.did = some actor) (did : String) :
    (Roster.ofActors actors).get? did = if did ∈ actors.map (·.did) then f did else none := by
  have agrees' : ∀ entry ∈ actors.map fun actor => (actor.did, actor), f entry.1 = some entry.2 := by
    intro entry hmem
    obtain ⟨actor, hactor, rfl⟩ := List.mem_map.mp hmem
    exact agrees actor hactor
  have folded := Keyed.get?_foldl_put Keyed.get?_set agrees' did []
  rw [List.foldl_map] at folded
  have listed : (Keyed.get? did (actors.map fun actor => (actor.did, actor))).isSome = true ↔
      did ∈ actors.map (·.did) := by
    rw [← not_iff_not, Bool.not_eq_true, Option.isSome_eq_false_iff, Option.isNone_iff_eq_none,
      Keyed.get?_eq_none_iff, List.map_map]
    rfl
  simp only [listed] at folded
  exact folded

/-! ## Stores that keep a ledger -/

/-- **LedgerStore** — a store whose requests do what they do to a ledger, and whose answers about accounts
and follows are the ledger's. `Sound` holds of a store whose accounts stand under their own identifiers. -/
class LedgerStore (σ : Type) [Store σ] where
  ledger : σ → Ledger
  Sound : σ → Prop
  ledger_after (now : Timestamp) (request : StoreOperation) (store : σ) :
    ledger (request.after now store) = (ledger store).apply now request
  sound_after {store : σ} (now : Timestamp) (request : StoreOperation) (sound : Sound store) :
    Sound (request.after now store)
  /-- An account that is stored already is not created. -/
  createActor_answer (actor : Actor) (store : σ) :
    if (ledger store).status actor.did = none then
      (Store.createActor actor : Storing σ Actor).answer store = .ok actor
    else ∃ failure, (Store.createActor actor : Storing σ Actor).answer store = .error failure
  getActor_answer {did : String} {stored : Option Actor} {store : σ} (sound : Sound store)
    (answer : (Store.getActor did : Storing σ _).answer store = .ok stored) :
    (ledger store).status did = stored.map (·.status) ∧ ∀ actor, stored = some actor → actor.did = did
  setActorStatus_answer {did : String} {status : ActorStatus} {actor : Actor} {store : σ}
    (sound : Sound store)
    (answer : (Store.setActorStatus did status : Storing σ _).answer store = .ok actor) :
    actor.did = did ∧ actor.status = status ∧ (ledger store).status did ≠ none
  /-- The list of all actors shows the status of each. -/
  listActors_answer {actors : List Actor} {store : σ} (sound : Sound store)
    (answer : (Store.listActors none : Storing σ _).answer store = .ok actors) (did : String) :
    ((Roster.ofActors actors).get? did).map (·.status) = (ledger store).status did
  getFollow_answer (uri : String) (store : σ) :
    ∃ row, (Store.getFollow uri : Storing σ _).answer store = .ok row ∧
      row.isSome = ((ledger store).mark .follows uri).isSome

namespace LedgerStore

variable {σ α : Type} [Store σ] [LedgerStore σ] (now : Timestamp) (request : StoreOperation)
  {operation : Storing σ α} {answer : α → StoreAnswer}

/-- An operation does to the ledger what the request does that stands for it. -/
theorem ledger_after_of_perform (h : request.perform now = (operation >>= fun a => pure (answer a)))
    (store : σ) : ledger (operation.after store) = (ledger store).apply now request := by
  rw [StoreOperation.after_of_perform now request h]
  exact ledger_after now request store

theorem sound_after_of_perform (h : request.perform now = (operation >>= fun a => pure (answer a)))
    {store : σ} (sound : Sound store) : Sound (operation.after store) := by
  rw [StoreOperation.after_of_perform now request h]
  exact sound_after now request sound

end LedgerStore

end FeedIndex
