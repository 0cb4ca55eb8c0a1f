import FeedIndex.Proofs.Agreement
import Mathlib.Logic.Function.Basic

/-!
# Refreshes and writes at the same time

Any number of tasks refresh the roster and write accounts side by side, and moderators write to the store at any
moment. A task that changes the roster holds a lock from before it asks the store until the roster is exchanged, so
what it puts there is never older than what another task has put there before. Here each task is taken apart into its
steps (`Errand.proceed`), with a step of its own for the copy of the roster that a change is made on, and the steps of
all tasks come in any order. Once a task has written an account, the roster shows it with a status that was stored
when the task wrote or later, whatever refreshes are on their way.
-/

namespace FeedIndex

open BoundedStore CandidStore

/-! ## Errands in steps -/

/-- **Errand** — what a task does to the roster. -/
inductive Errand
  | sync
  | createPending (did : String) (now : Timestamp)
  | setStatus (did : String) (status : ActorStatus)
deriving DecidableEq

deriving instance DecidableEq for Roster

/-- **Stage** — how far a task has come with its errand. -/
inductive Stage
  /-- It waits for the lock. -/
  | waiting
  /-- It has the lock, and asks the store next. -/
  | asking
  /-- The account is stored already, and is looked up next. -/
  | lookingUp (did : String)
  /-- It has the list of all accounts. -/
  | listed (actors : List Actor)
  /-- It has the account as the store has it now. -/
  | stored (actor : Actor)
  /-- It has a copy of the roster to put the account in. -/
  | copied (actor : Actor) (copy : Roster)
  /-- It gives the lock back next, and returns. -/
  | leaving (result : Except StoreFailure Unit)
  /-- It has returned, or was given up. -/
  | ended (result : Option (Except StoreFailure Unit))
deriving DecidableEq

namespace Errand

/-- The account that the errand is about. -/
def did? : Errand → Option String
  | sync => none
  | createPending did _ => some did
  | setStatus did _ => some did

section

variable {σ : Type} [Store σ]

/-- **run** — the errand as a whole. -/
def run : Errand → Indexing σ StoreFailure Unit
  | sync => do
    let _ ← Index.sync
    return ()
  | createPending did now => do
    let _ ← Index.createPending did now
    return ()
  | setStatus did status => do
    let _ ← Index.setStatus did status
    return ()

/-- The first call of the store. -/
def ask (index : Index σ) : Errand → Stage × Index σ
  | sync =>
    match (Store.listActors none : Storing σ _).run.run index.store with
    | (.ok actors, store) => (.listed actors, { index with store })
    | (.error failure, store) => (.leaving (.error failure), { index with store })
  | createPending did now =>
    match (Store.createActor (.fresh did .pending Index.addedRemark now) : Storing σ Actor).run.run index.store with
    | (.ok actor, store) => (.stored actor, { index with store })
    | (.error (.actorExists _), store) => (.lookingUp did, { index with store })
    | (.error failure, store) => (.leaving (.error failure), { index with store })
  | setStatus did status =>
    match (Store.setActorStatus did status : Storing σ Actor).run.run index.store with
    | (.ok actor, store) => (.stored actor, { index with store })
    | (.error failure, store) => (.leaving (.error failure), { index with store })

/-- The second call, for an account that was in the way. -/
def lookUp (did : String) (index : Index σ) : Stage × Index σ :=
  match (Store.getActor did : Storing σ _).run.run index.store with
  | (.ok (some actor), store) => (.stored actor, { index with store })
  | (.ok none, store) => (.leaving (.error (.actorNotFound did)), { index with store })
  | (.error failure, store) => (.leaving (.error failure), { index with store })

/-- **proceed** — one step of a task that has the lock: a call of the store, the copy of the roster, or its
exchange. -/
def proceed (errand : Errand) : Stage → Index σ → Stage × Index σ
  | .asking, index => errand.ask index
  | .lookingUp did, index => lookUp did index
  | .listed actors, index => (.leaving (.ok ()), { index with roster := .ofActors actors })
  | .stored actor, index => (.copied actor index.roster, index)
  | .copied actor copy, index => (.leaving (.ok ()), { index with roster := copy.put actor })
  | stage, index => (stage, index)

/-- The next step of a task at its stage. -/
def next (errand : Errand) (place : Stage × Index σ) : Stage × Index σ := errand.proceed place.1 place.2

/-- **An errand that is not interrupted comes to what it does as a whole**, in four steps or fewer. -/
theorem next_alone (errand : Errand) (index : Index σ) :
    Nat.iterate errand.next 4 (.asking, index) =
      (.leaving (errand.run.run.run index).1, (errand.run.run.run index).2) := by
  show Nat.iterate errand.next 3 (errand.ask index) = _
  unfold ask run
  cases errand with
  | sync =>
    dsimp only
    rw [Indexing.run_bind, Index.run_sync, Storing.run_eq]
    rcases (Store.listActors none : Storing σ _).answer index.store with failure | actors <;> rfl
  | createPending did now =>
    dsimp only
    rw [Indexing.run_bind, Index.run_createPending, Index.run_createOrGet, Storing.run_eq (Store.createActor _)]
    rcases (Store.createActor (.fresh did .pending Index.addedRemark now) : Storing σ Actor).answer index.store with
      failure | actor
    · cases failure with
      | actorExists taken =>
        dsimp only
        show Nat.iterate _ 2 (lookUp did _) = _
        unfold lookUp
        rw [Storing.run_eq (Store.getActor did)]
        dsimp only [Actor.fresh]
        rcases (Store.getActor did : Storing σ _).answer _ with failure | _ | actor <;> rfl
      | _ => rfl
    · rfl
  | setStatus did status =>
    dsimp only
    rw [Indexing.run_bind, Index.run_setStatus, Storing.run_eq]
    rcases (Store.setActorStatus did status : Storing σ _).answer index.store with failure | actor <;> rfl

end

end Errand

/-! ## Tasks side by side -/

/-- **Traffic** — an index with the tasks that change it. -/
structure Traffic (σ : Type) where
  index : Index σ
  /-- The task that has the lock. -/
  holder : Option Nat
  /-- What each task does, and how far it has come. -/
  tasks : Nat → Option (Errand × Stage)

namespace Traffic

/-- The traffic with a task at a stage of its errand. -/
def place (id : Nat) (errand : Errand) (stage : Stage) (t : Traffic σ) : Traffic σ :=
  { t with tasks := Function.update t.tasks id (some (errand, stage)) }

/-- A task is where it was placed, and the others are where they were. -/
theorem tasks_place {t : Traffic σ} {id other : Nat} {errand errand' : Errand} {stage stage' : Stage}
    (found : (t.place id errand stage).tasks other = some (errand', stage')) :
    other = id ∧ errand' = errand ∧ stage' = stage ∨ other ≠ id ∧ t.tasks other = some (errand', stage') := by
  unfold place at found
  dsimp only at found
  by_cases own : other = id
  · subst own
    rw [Function.update_self] at found
    obtain ⟨rfl, rfl⟩ := Prod.mk.inj (Option.some.inj found)
    exact .inl ⟨rfl, rfl, rfl⟩
  · rw [Function.update_of_ne own] at found
    exact .inr ⟨own, found⟩

theorem tasks_place_self (t : Traffic σ) (id : Nat) (errand : Errand) (stage : Stage) :
    (t.place id errand stage).tasks id = some (errand, stage) := Function.update_self ..

theorem tasks_place_of_ne (t : Traffic σ) {id other : Nat} (different : other ≠ id) (errand : Errand) (stage : Stage) :
    (t.place id errand stage).tasks other = t.tasks other := Function.update_of_ne different ..

end Traffic

section

variable {σ : Type} [Store σ] [CandidStore σ]

/-- **Step** — what can happen next. -/
inductive Traffic.Step (t : Traffic σ) : Traffic σ → Prop
  /-- A task begins an errand. -/
  | begins {id : Nat} (errand : Errand) (new : t.tasks id = none) : Step t (t.place id errand .waiting)
  | acquires {id : Nat} {errand : Errand} (waits : t.tasks id = some (errand, .waiting)) (free : t.holder = none) :
      Step t { t.place id errand .asking with holder := some id }
  | proceeds {id : Nat} {errand : Errand} {stage : Stage} (found : t.tasks id = some (errand, stage)) :
      Step t { t.place id errand (errand.proceed stage t.index).1 with index := (errand.proceed stage t.index).2 }
  | returns {id : Nat} {errand : Errand} {result : Except StoreFailure Unit}
      (leaves : t.tasks id = some (errand, .leaving result)) :
      Step t { t.place id errand (.ended (some result)) with holder := none }
  /-- A task is given up wherever it is, and loses the lock. -/
  | abandoned {id : Nat} {errand : Errand} {stage : Stage} (found : t.tasks id = some (errand, stage))
      (busy : ∀ result, stage ≠ .ended result) :
      Step t { t.place id errand (.ended none) with holder := if t.holder = some id then none else t.holder }
  /-- A moderator, or anybody else, asks the store for something. -/
  | requested (request : StoreOperation) (now : Timestamp) :
      Step t { t with index := { t.index with store := request.after now t.index.store } }
  /-- The store falls out of service or comes back, or something else goes on with it. -/
  | elsewhere {store : σ} (accounts : (tables store).accounts = (tables t.index.store).accounts)
      (sound : Sound store) : Step t { t with index := { t.index with store } }

/-- **Schedule** — a course of the traffic, moment by moment. -/
structure Schedule (s : Nat → Traffic σ) : Prop where
  /-- No task has begun. -/
  idle (id : Nat) : (s 0).tasks id = none
  sound : Sound (s 0).index.store
  step (n : Nat) : (s n).Step (s (n + 1))

variable {errand : Errand} {stage : Stage} {index : Index σ} {did : String}

/-! ### The store goes on -/

/-- An account that is stored is not forgotten. -/
theorem Tables.status_apply_ne_none {L : Schema} {t : Tables L} (known : t.status did ≠ none) (now : Timestamp)
    (request : StoreOperation) : (t.apply now request).status did ≠ none := by
  have kept (own : String) (change : Option L.Account → Option L.Account)
      (keeps : ∀ row, change (some row) ≠ none) : (t.changeAccount own change).status did ≠ none := by
    obtain ⟨row, stored⟩ := Option.ne_none_iff_exists'.mp fun absent => known (Option.map_eq_none_iff.mpr absent)
    intro absent
    have absent := Option.map_eq_none_iff.mp absent
    dsimp only [Tables.changeAccount] at absent
    rw [stored] at absent
    split at absent
    · exact keeps row absent
    · cases absent
  cases request with
  | createActor actor => exact kept actor.did (·.or (some (L.ofActor actor))) fun _ => nofun
  | setActorStatus own status => exact kept own (·.map (L.setStatus status)) fun _ => nofun
  | holdActor own time => exact kept own (·.map (L.holdUntil time)) fun _ => nofun
  | putProfile row =>
    show (t.addProfile row).status did ≠ none
    rw [Tables.status_addProfile]
    exact known
  | _ => exact known

/-- **Follows** — a store comes after another one: it was asked for something or not, or went on without a change of
its accounts. -/
inductive Follows (store : σ) : σ → Prop
  | same : Follows store store
  | requested (request : StoreOperation) (now : Timestamp) : Follows store (request.after now store)
  | elsewhere {store' : σ} (accounts : (tables store').accounts = (tables store).accounts) (sound : Sound store') :
      Follows store store'

namespace Follows

variable {store store' : σ}

theorem sound (follows : Follows store store') (sound : Sound store) : Sound store' := by
  cases follows with
  | same => exact sound
  | requested request now => exact sound_after now request sound
  | elsewhere _ sound' => exact sound'

theorem known (follows : Follows store store') (known : (tables store).status did ≠ none) :
    (tables store').status did ≠ none := by
  cases follows with
  | same => exact known
  | requested request now =>
    rcases tables_after now request store with same | done
    · rw [same]
      exact known
    · rw [done]
      exact Tables.status_apply_ne_none known now request
  | elsewhere accounts _ =>
    unfold Tables.status
    rw [accounts]
    exact known

end Follows

theorem follows_of_perform {α : Type} {request : StoreOperation} {operation : Storing σ α}
    {answer : α → StoreAnswer} {now : Timestamp}
    (h : request.perform now = (operation >>= fun a => pure (answer a))) (store : σ) :
    Follows store (operation.after store) := by
  rw [StoreOperation.after_of_perform now request h]
  exact .requested request now

/-! ### One step of a task -/

/-- **Proceeded** — what a step of a task that has the lock can come to. -/
inductive Proceeded (errand : Errand) (index : Index σ) : Stage → Stage × Index σ → Prop
  /-- A task that waits for the lock or has finished makes no such step. -/
  | rests {stage : Stage} : Proceeded errand index stage (stage, index)
  | listed {actors : List Actor} {store : σ} (after : Follows index.store store) (all : errand.did? = none)
      (shown : ∀ did, (Roster.ofActors actors).status? did = (tables index.store).status did) :
      Proceeded errand index .asking (.listed actors, { index with store })
  /-- The account has been written, and is stored as it is to be shown. -/
  | written {actor : Actor} {store : σ} (after : Follows index.store store) (own : errand.did? = some actor.did)
      (status : (tables store).status actor.did = some actor.status) :
      Proceeded errand index .asking (.stored actor, { index with store })
  | taken {did : String} {store : σ} (after : Follows index.store store) (own : errand.did? = some did) :
      Proceeded errand index .asking (.lookingUp did, { index with store })
  | found {actor : Actor} {store : σ} (after : Follows index.store store)
      (status : (tables index.store).status actor.did = some actor.status) :
      Proceeded errand index (.lookingUp actor.did) (.stored actor, { index with store })
  | refused {stage : Stage} {failure : StoreFailure} {store : σ} (after : Follows index.store store)
      (asks : stage = .asking ∨ ∃ did, stage = .lookingUp did) :
      Proceeded errand index stage (.leaving (.error failure), { index with store })
  | loaded {actors : List Actor} :
      Proceeded errand index (.listed actors) (.leaving (.ok ()), { index with roster := .ofActors actors })
  | copied {actor : Actor} : Proceeded errand index (.stored actor) (.copied actor index.roster, index)
  | put {actor : Actor} {copy : Roster} :
      Proceeded errand index (.copied actor copy) (.leaving (.ok ()), { index with roster := copy.put actor })

theorem proceeded_sync (sound : Sound index.store) : Proceeded .sync index .asking (Errand.sync.ask index) := by
  have after := follows_of_perform (StoreOperation.perform_listActors (σ := σ) ⟨0, 0⟩ none) index.store
  unfold Errand.ask
  dsimp only
  rw [Storing.run_eq]
  rcases answer : (Store.listActors none : Storing σ _).answer index.store with failure | actors
  · exact .refused after (.inl rfl)
  · exact .listed after rfl (listActors_status sound answer).1

theorem proceeded_createPending (did : String) (now : Timestamp) (index : Index σ) :
    Proceeded (.createPending did now) index .asking ((Errand.createPending did now).ask index) := by
  have perform := StoreOperation.perform_createActor (σ := σ) now (.fresh did .pending Index.addedRemark now)
  have after := follows_of_perform perform index.store
  unfold Errand.ask
  dsimp only
  rw [Storing.run_eq]
  rcases answer : (Store.createActor (.fresh did .pending Index.addedRemark now) : Storing σ Actor).answer index.store
    with failure | actor
  · cases failure with
    | actorExists taken => exact .taken after rfl
    | _ => exact .refused after (.inl rfl)
  · have own : actor.did = did := createActor_did answer
    have stored := status_after_createActor now answer actor.did
    rw [if_pos rfl, ← StoreOperation.after_of_perform now _ perform] at stored
    exact .written after (congrArg some own.symm) stored

theorem proceeded_setStatus (sound : Sound index.store) (did : String) (status : ActorStatus) :
    Proceeded (.setStatus did status) index .asking ((Errand.setStatus did status).ask index) := by
  have perform := StoreOperation.perform_setActorStatus (σ := σ) ⟨0, 0⟩ did status
  have after := follows_of_perform perform index.store
  unfold Errand.ask
  dsimp only
  rw [Storing.run_eq]
  rcases answer : (Store.setActorStatus did status : Storing σ Actor).answer index.store with failure | actor
  · exact .refused after (.inl rfl)
  · have own : actor.did = did := setActorStatus_did sound answer
    have stored := status_after_setActorStatus sound ⟨0, 0⟩ answer actor.did
    rw [if_pos rfl, ← StoreOperation.after_of_perform _ _ perform] at stored
    exact .written after (congrArg some own.symm) stored

theorem proceeded_lookUp (sound : Sound index.store) (errand : Errand) (did : String) :
    Proceeded errand index (.lookingUp did) (Errand.lookUp did index) := by
  have after := follows_of_perform (StoreOperation.perform_getActor (σ := σ) ⟨0, 0⟩ did) index.store
  unfold Errand.lookUp
  rw [Storing.run_eq]
  rcases answer : (Store.getActor did : Storing σ _).answer index.store with failure | _ | actor
  · exact .refused after (.inr ⟨did, rfl⟩)
  · exact .refused after (.inr ⟨did, rfl⟩)
  · obtain rfl : actor.did = did := getActor_did sound answer
    exact .found after (getActor_status sound answer)

/-- **There is no other step.** -/
theorem proceeded (sound : Sound index.store) (errand : Errand) (stage : Stage) :
    Proceeded errand index stage (errand.proceed stage index) := by
  cases stage with
  | asking =>
    cases errand with
    | sync => exact proceeded_sync sound
    | createPending did now => exact proceeded_createPending did now index
    | setStatus did status => exact proceeded_setStatus sound did status
  | lookingUp did => exact proceeded_lookUp sound errand did
  | listed actors => exact .loaded
  | stored actor => exact .copied
  | copied actor copy => exact .put
  | _ => exact .rests

theorem Proceeded.follows {result : Stage × Index σ} (step : Proceeded errand index stage result) :
    Follows index.store result.2.store := by
  cases step with
  | listed after _ _ => exact after
  | written after _ _ => exact after
  | taken after _ => exact after
  | found after _ => exact after
  | refused after _ => exact after
  | _ => exact .same

variable {t t' : Traffic σ} {id : Nat}

theorem Traffic.Step.follows (step : t.Step t') (sound : Sound t.index.store) :
    Follows t.index.store t'.index.store := by
  cases step with
  | proceeds _ => exact (proceeded sound _ _).follows
  | requested request now => exact .requested request now
  | elsewhere accounts sound => exact .elsewhere accounts sound
  | _ => exact .same

/-- **Fate** — what a step makes of a task. -/
inductive Traffic.Fate (t t' : Traffic σ) (id : Nat) : Prop
  | stays (same : t'.tasks id = t.tasks id)
  | begins {errand : Errand} (new : t.tasks id = none) (there : t'.tasks id = some (errand, .waiting))
  | acquires {errand : Errand} (waits : t.tasks id = some (errand, .waiting))
      (there : t'.tasks id = some (errand, .asking))
  | proceeds {errand : Errand} {stage : Stage} (here : t.tasks id = some (errand, stage))
      (next : t' = { t.place id errand (errand.proceed stage t.index).1 with
        index := (errand.proceed stage t.index).2 })
  | returns {errand : Errand} {result : Except StoreFailure Unit} (leaves : t.tasks id = some (errand, .leaving result))
      (there : t'.tasks id = some (errand, .ended (some result)))
  | abandoned {errand : Errand} {stage : Stage} (here : t.tasks id = some (errand, stage))
      (there : t'.tasks id = some (errand, .ended none))

/-- A step is one of the task's own, or leaves it where it is. -/
theorem Traffic.Step.fate (step : t.Step t') (id : Nat) : Fate t t' id := by
  cases step with
  | @begins other errand new =>
    by_cases own : id = other
    · subst own
      exact .begins new (tasks_place_self ..)
    · exact .stays (tasks_place_of_ne t own ..)
  | @acquires other _ waits _ =>
    by_cases own : id = other
    · subst own
      exact .acquires waits (tasks_place_self ..)
    · exact .stays (tasks_place_of_ne t own ..)
  | @proceeds other _ _ here =>
    by_cases own : id = other
    · subst own
      exact .proceeds here rfl
    · exact .stays (tasks_place_of_ne t own ..)
  | @returns other _ _ leaves =>
    by_cases own : id = other
    · subst own
      exact .returns leaves (tasks_place_self ..)
    · exact .stays (tasks_place_of_ne t own ..)
  | @abandoned other _ _ here _ =>
    by_cases own : id = other
    · subst own
      exact .abandoned here (tasks_place_self ..)
    · exact .stays (tasks_place_of_ne t own ..)
  | requested _ _ => exact .stays rfl
  | elsewhere _ _ => exact .stays rfl

/-! ## Moves in any order -/

/-- **Move** — something that is to happen next, if it can. -/
inductive Traffic.Move
  | begin (id : Nat) (errand : Errand)
  | acquire (id : Nat)
  | proceed (id : Nat)
  | leave (id : Nat)
  | abandon (id : Nat)
  | request (request : StoreOperation) (now : Timestamp)

namespace Traffic

/-- **play** — makes a move; nothing happens if it is not possible. -/
def play (t : Traffic σ) : Move → Traffic σ
  | .begin id errand =>
    match t.tasks id with
    | none => t.place id errand .waiting
    | some _ => t
  | .acquire id =>
    match t.tasks id, t.holder with
    | some (errand, .waiting), none => { t.place id errand .asking with holder := some id }
    | _, _ => t
  | .proceed id =>
    match t.tasks id with
    | some (errand, stage) =>
      { t.place id errand (errand.proceed stage t.index).1 with index := (errand.proceed stage t.index).2 }
    | none => t
  | .leave id =>
    match t.tasks id with
    | some (errand, .leaving result) => { t.place id errand (.ended (some result)) with holder := none }
    | _ => t
  | .abandon id =>
    match t.tasks id with
    | none | some (_, .ended _) => t
    | some (errand, _) =>
      { t.place id errand (.ended none) with holder := if t.holder = some id then none else t.holder }
  | .request request now => { t with index := { t.index with store := request.after now t.index.store } }

/-- **A move is a step.** -/
theorem step_play (sound : Sound t.index.store) (move : Move) : t.Step (t.play move) := by
  have rests : t.Step t := .elsewhere rfl sound
  unfold play
  cases move with
  | begin id errand =>
    dsimp only
    split
    · next new => exact .begins errand new
    · exact rests
  | acquire id =>
    dsimp only
    split
    · next waits free => exact .acquires waits free
    · exact rests
  | proceed id =>
    dsimp only
    split
    · next found => exact .proceeds found
    · exact rests
  | leave id =>
    dsimp only
    split
    · next leaves => exact .returns leaves
    · exact rests
  | abandon id =>
    dsimp only
    split
    · exact rests
    · exact rests
    · next busy found => exact .abandoned found busy
  | request request now => exact .requested request now

/-- **course** — the moves one after another. -/
def course (start : Traffic σ) (moves : Nat → Move) : Nat → Traffic σ
  | 0 => start
  | n + 1 => (course start moves n).play (moves n)

/-- **Moves in any order are a schedule.** -/
theorem schedule_course (idle : ∀ id, t.tasks id = none) (sound : Sound t.index.store) (moves : Nat → Move) :
    Schedule (t.course moves) where
  idle := idle
  sound := sound
  step n := by
    refine step_play ?_ (moves n)
    induction n with
    | zero => exact sound
    | succ n sound => exact ((step_play sound (moves n)).follows sound).sound sound

end Traffic

/-! ## The lock -/

/-- The task has come past the lock and has not given it back. -/
def Stage.isInside : Stage → Bool
  | .waiting | .ended _ => false
  | _ => true

theorem Proceeded.isInside {result : Stage × Index σ} (step : Proceeded errand index stage result) :
    result.1.isInside = stage.isInside := by
  cases step with
  | refused _ asks => rcases asks with rfl | ⟨did, rfl⟩ <;> rfl
  | _ => rfl

/-- **Locked** — a task that is inside has the lock, so that there is no other. -/
def Traffic.Locked (t : Traffic σ) : Prop :=
  ∀ id errand stage, t.tasks id = some (errand, stage) → stage.isInside = true → t.holder = some id

theorem Traffic.Locked.step (locked : t.Locked) (sound : Sound t.index.store) (step : t.Step t') : t'.Locked := by
  intro other errand' stage' found inside
  cases step with
  | begins errand new =>
    rcases tasks_place found with ⟨rfl, rfl, rfl⟩ | ⟨-, found⟩
    · cases inside
    · exact locked other _ _ found inside
  | acquires waits free =>
    rcases tasks_place found with ⟨rfl, rfl, rfl⟩ | ⟨-, found⟩
    · rfl
    · have held := locked other _ _ found inside
      rw [free] at held
      cases held
  | proceeds here =>
    rcases tasks_place found with ⟨rfl, rfl, rfl⟩ | ⟨-, found⟩
    · rw [(proceeded sound _ _).isInside] at inside
      exact locked other _ _ here inside
    · exact locked other _ _ found inside
  | returns leaves =>
    rcases tasks_place found with ⟨rfl, rfl, rfl⟩ | ⟨different, found⟩
    · cases inside
    · -- two tasks inside would be one
      have same := (locked other _ _ found inside).symm.trans (locked _ _ _ leaves rfl)
      exact absurd (Option.some.inj same) different
  | abandoned here busy =>
    rcases tasks_place found with ⟨rfl, rfl, rfl⟩ | ⟨different, found⟩
    · cases inside
    · have held := locked other _ _ found inside
      show (if t.holder = some _ then none else t.holder) = some other
      rw [held, if_neg fun same => different (Option.some.inj same)]
  | requested request now => exact locked other _ _ found inside
  | elsewhere accounts sound' => exact locked other _ _ found inside

/-! ## What tasks have at hand -/

/-- The roster shows the account with a status that `held` admits. -/
def Roster.ShowsHeld (roster : Roster) (held : ActorStatus → Prop) (did : String) : Prop :=
  ∃ actor, roster.get? did = some actor ∧ held actor.status

/-- What a task has at hand for the roster shows the account, if at all, with a status that `held` admits; a whole
roster shows it. -/
def Stage.Fresh (held : ActorStatus → Prop) (did : String) : Stage → Prop
  | .listed actors => (Roster.ofActors actors).ShowsHeld held did
  | .stored actor => actor.did = did → held actor.status
  | .copied actor copy => (actor.did = did → held actor.status) ∧ copy.ShowsHeld held did
  | _ => True

/-- **Fresh** — the roster is fresh, and so is what any task has at hand for it. -/
structure Traffic.Fresh (held : ActorStatus → Prop) (did : String) (t : Traffic σ) : Prop where
  roster : t.index.roster.ShowsHeld held did
  tasks (id : Nat) (errand : Errand) (stage : Stage) : t.tasks id = some (errand, stage) → stage.Fresh held did

/-- **Recalls** — what an account has been stored as goes on from one moment to the next: `held` up to the first,
`held'` up to the second. -/
structure Recalls (did : String) (held held' : ActorStatus → Prop) (store store' : σ) : Prop where
  more (status : ActorStatus) : held status → held' status
  before (status : ActorStatus) : (tables store).status did = some status → held' status
  after (status : ActorStatus) : (tables store').status did = some status → held' status
  known (status : ActorStatus) : held status → (tables store).status did ≠ none

variable {held held' : ActorStatus → Prop} {roster : Roster}

theorem Roster.ShowsHeld.mono (shown : roster.ShowsHeld held did) (more : ∀ status, held status → held' status) :
    roster.ShowsHeld held' did := by
  obtain ⟨actor, shown, holds⟩ := shown
  exact ⟨actor, shown, more _ holds⟩

theorem Stage.Fresh.mono (fresh : stage.Fresh held did) (more : ∀ status, held status → held' status) :
    stage.Fresh held' did := by
  cases stage with
  | listed actors => exact Roster.ShowsHeld.mono fresh more
  | stored actor => exact fun own => more _ (fresh own)
  | copied actor copy => exact ⟨fun own => more _ (fresh.1 own), fresh.2.mono more⟩
  | _ => trivial

/-- A roster stays fresh when a fresh account is put in it. -/
theorem Roster.ShowsHeld.put (shown : roster.ShowsHeld held did) {actor : Actor}
    (fresh : actor.did = did → held actor.status) : (roster.put actor).ShowsHeld held did := by
  unfold ShowsHeld
  rw [Roster.get?_put]
  split
  · next own => exact ⟨actor, rfl, fresh own.symm⟩
  · exact shown

/-- A step of a task takes fresh things from fresh ones, or from the store. -/
theorem Proceeded.fresh {result : Stage × Index σ} (step : Proceeded errand index stage result)
    (roster : index.roster.ShowsHeld held did) (fresh : stage.Fresh held did)
    (recalls : Recalls did held held' index.store result.2.store) :
    result.2.roster.ShowsHeld held' did ∧ result.1.Fresh held' did := by
  have roster' := roster.mono recalls.more
  have fresh' := fresh.mono recalls.more
  cases step with
  | rests => exact ⟨roster', fresh'⟩
  | @listed actors store after all shown =>
    -- what the roster shows was stored, and accounts are not forgotten, so that the list has it
    obtain ⟨old, -, holds⟩ := roster
    obtain ⟨status, stored⟩ := Option.ne_none_iff_exists'.mp (recalls.known _ holds)
    obtain ⟨actor, listed, same⟩ := Option.map_eq_some_iff.mp ((shown did).trans stored)
    exact ⟨roster', actor, listed, recalls.before _ (same ▸ stored)⟩
  | written after own status => exact ⟨roster', fun same => recalls.after _ (same ▸ status)⟩
  | taken after own => exact ⟨roster', trivial⟩
  | found after status => exact ⟨roster', fun same => recalls.before _ (same ▸ status)⟩
  | refused after asks => exact ⟨roster', trivial⟩
  | loaded => exact ⟨fresh', trivial⟩
  | copied => exact ⟨roster', fresh', roster'⟩
  | put => exact ⟨fresh'.2.put fresh'.1, trivial⟩

/-- **What is fresh stays fresh**, whatever happens next. -/
theorem Traffic.Fresh.step (fresh : t.Fresh held did) (sound : Sound t.index.store) (step : t.Step t')
    (recalls : Recalls did held held' t.index.store t'.index.store) : t'.Fresh held' did := by
  refine ⟨?_, fun id errand stage found => ?_⟩
  · cases step with
    | proceeds here => exact ((proceeded sound _ _).fresh fresh.roster (fresh.tasks _ _ _ here) recalls).1
    | _ => exact fresh.roster.mono recalls.more
  · cases step.fate id with
    | stays same => exact (fresh.tasks id errand stage (same.symm.trans found)).mono recalls.more
    | begins _ there =>
      cases there.symm.trans found
      trivial
    | acquires _ there =>
      cases there.symm.trans found
      trivial
    | proceeds here next =>
      subst next
      cases (tasks_place_self ..).symm.trans found
      exact ((proceeded sound _ _).fresh fresh.roster (fresh.tasks _ _ _ here) recalls).2
    | returns _ there =>
      cases there.symm.trans found
      trivial
    | abandoned _ there =>
      cases there.symm.trans found
      trivial

/-! ## The task that writes -/

/-- **Writing** — the task has written the account, or found it written, and has yet to show it. -/
inductive Stage.Writing (held : ActorStatus → Prop) (did : String) : Stage → Prop
  | lookingUp : Writing held did (.lookingUp did)
  | stored {actor : Actor} (own : actor.did = did) (holds : held actor.status) : Writing held did (.stored actor)
  | copied {actor : Actor} {copy : Roster} (own : actor.did = did) (holds : held actor.status) :
      Writing held did (.copied actor copy)

/-- The task has failed, or was given up. -/
inductive Stage.Vain : Stage → Prop
  | leaving {failure : StoreFailure} : Vain (.leaving (.error failure))
  | ended {failure : StoreFailure} : Vain (.ended (some (.error failure)))
  | abandoned : Vain (.ended none)

theorem Stage.Writing.mono (writing : stage.Writing held did) (more : ∀ status, held status → held' status) :
    stage.Writing held' did := by
  cases writing with
  | lookingUp => exact .lookingUp
  | stored own holds => exact .stored own (more _ holds)
  | copied own holds => exact .copied own (more _ holds)

/-- **Phase** — what has come of a task that has written an account. -/
inductive Traffic.Phase (held : ActorStatus → Prop) (did : String) (id : Nat) (t : Traffic σ) : Prop
  | writing {errand : Errand} {stage : Stage} (found : t.tasks id = some (errand, stage))
      (writing : stage.Writing held did)
  | vain {errand : Errand} {stage : Stage} (found : t.tasks id = some (errand, stage)) (vain : stage.Vain)
  | shown (fresh : t.Fresh held did)

namespace Traffic

omit [Store σ] [CandidStore σ] in
/-- While a task is inside, no other has anything at hand. -/
theorem fresh_of_inside {actor : Actor} {copy : Roster} (locked : t.Locked)
    (found : t.tasks id = some (errand, .copied actor copy)) (own : actor.did = did) (holds : held actor.status) :
    Fresh held did { t.place id errand (.leaving (.ok ())) with
      index := { t.index with roster := copy.put actor } } := by
  refine ⟨⟨actor, ?_, holds⟩, fun other errand' stage' found' => ?_⟩
  · show (copy.put actor).get? did = some actor
    rw [Roster.get?_put, if_pos own.symm]
  · rcases tasks_place found' with ⟨rfl, rfl, rfl⟩ | ⟨different, found'⟩
    · trivial
    · -- a copy of the roster in the hands of another task would be older than what is shown now
      have outside : stage'.isInside = false := by
        by_contra inside
        have same := (locked _ _ _ found' (Bool.eq_true_of_not_eq_false inside)).symm.trans (locked _ _ _ found rfl)
        exact different (Option.some.inj same)
      cases stage' with
      | waiting => trivial
      | ended result => trivial
      | _ => cases outside

/-- A step of the task itself. -/
theorem phase_proceeded {result : Stage × Index σ} (locked : t.Locked) (found : t.tasks id = some (errand, stage))
    (writing : stage.Writing held did) (step : Proceeded errand t.index stage result)
    (recalls : Recalls did held held' t.index.store result.2.store) :
    Phase held' did id { t.place id errand result.1 with index := result.2 } := by
  have here := t.tasks_place_self id errand result.1
  cases step with
  | rests => exact .writing here (writing.mono recalls.more)
  | found after status =>
    cases writing
    exact .writing here (.stored rfl (recalls.before _ status))
  | refused after asks => exact .vain here .leaving
  | copied =>
    cases writing with
    | stored own holds => exact .writing here (.copied own (recalls.more _ holds))
  | put =>
    cases writing with
    | copied own holds => exact .shown (fresh_of_inside locked found own (recalls.more _ holds))
  | _ => cases writing

/-- What has come of the task goes on, whatever happens next. -/
theorem Phase.step (phase : t.Phase held did id) (locked : t.Locked) (sound : Sound t.index.store) (step : t.Step t')
    (recalls : Recalls did held held' t.index.store t'.index.store) : t'.Phase held' did id := by
  cases phase with
  | shown fresh => exact .shown (fresh.step sound step recalls)
  | writing found writing =>
    cases step.fate id with
    | stays same => exact .writing (same.trans found) (writing.mono recalls.more)
    | begins new _ => cases found.symm.trans new
    | acquires waits _ =>
      cases found.symm.trans waits
      cases writing
    | proceeds here next =>
      cases found.symm.trans here
      subst next
      exact phase_proceeded locked found writing (proceeded sound _ _) recalls
    | returns leaves _ =>
      cases found.symm.trans leaves
      cases writing
    | abandoned _ there => exact .vain there .abandoned
  | vain found vain =>
    cases step.fate id with
    | stays same => exact .vain (same.trans found) vain
    | begins new _ => cases found.symm.trans new
    | acquires waits _ =>
      cases found.symm.trans waits
      cases vain
    | proceeds here next =>
      cases found.symm.trans here
      subst next
      cases vain <;> exact .vain (tasks_place_self ..) (by constructor)
    | returns leaves there =>
      cases found.symm.trans leaves
      cases vain
      exact .vain there .ended
    | abandoned _ there => exact .vain there .abandoned

/-- The step with which a task writes its account. -/
theorem phase_of_asked (sound : Sound t.index.store) (step : t.Step t') (own : errand.did? = some did)
    (asks : t.tasks id = some (errand, .asking)) (asked : t'.tasks id ≠ some (errand, .asking))
    (after : ∀ status, (tables t'.index.store).status did = some status → held status) : t'.Phase held did id := by
  cases step.fate id with
  | stays same => exact absurd (same.trans asks) asked
  | begins new _ => cases asks.symm.trans new
  | acquires waits _ => cases asks.symm.trans waits
  | proceeds here next =>
    cases asks.symm.trans here
    subst next
    have there := t.tasks_place_self id errand (errand.proceed .asking t.index).1
    have step := proceeded sound errand .asking
    -- of what the call came to, only what the store says of the account is still needed
    generalize errand.proceed .asking t.index = result at step there after asked ⊢
    cases step with
    | rests => exact absurd there asked
    | listed _ all _ => cases own.symm.trans all
    | written _ own' status =>
      obtain rfl := Option.some.inj (own'.symm.trans own)
      exact .writing there (.stored rfl (after _ status))
    | taken _ own' =>
      obtain rfl := Option.some.inj (own'.symm.trans own)
      exact .writing there .lookingUp
    | refused _ _ => exact .vain there .leaving
  | returns leaves _ => cases asks.symm.trans leaves
  | abandoned _ there => exact .vain there .abandoned

end Traffic

/-! ## Moments -/

/-- The task has made its first call of the store. -/
def Stage.hasAsked : Stage → Bool
  | .waiting | .asking | .ended none => false
  | _ => true

theorem Proceeded.asking_or_hasAsked {result : Stage × Index σ} (step : Proceeded errand index stage result)
    (asked : result.1.hasAsked = true) : stage = .asking ∨ stage.hasAsked = true := by
  cases step with
  | rests => exact .inr asked
  | refused _ asks =>
    rcases asks with rfl | ⟨did, rfl⟩
    · exact .inl rfl
    · exact .inr rfl
  | listed _ _ _ => exact .inl rfl
  | written _ _ _ => exact .inl rfl
  | taken _ _ => exact .inl rfl
  | _ => exact .inr rfl

/-- **Held** — the store has held the status of the account at some moment after `since` and no later than `n`. -/
def Held (s : Nat → Traffic σ) (did : String) (since n : Nat) (status : ActorStatus) : Prop :=
  ∃ m, since < m ∧ m ≤ n ∧ (tables (s m).index.store).status did = some status

namespace Schedule

variable {s : Nat → Traffic σ} {since n j k : Nat}

theorem sound_at (schedule : Schedule s) (n : Nat) : Sound (s n).index.store := by
  induction n with
  | zero => exact schedule.sound
  | succ n sound => exact ((schedule.step n).follows sound).sound sound

theorem locked_at (schedule : Schedule s) (n : Nat) : (s n).Locked := by
  induction n with
  | zero =>
    intro id errand stage found
    cases (schedule.idle id).symm.trans found
  | succ n locked => exact locked.step (schedule.sound_at n) (schedule.step n)

theorem known_of_held (schedule : Schedule s) {status : ActorStatus} (held : Held s did since n status) :
    (tables (s n).index.store).status did ≠ none := by
  obtain ⟨m, -, later, stored⟩ := held
  induction later with
  | refl =>
    rw [stored]
    exact nofun
  | step _ known => exact ((schedule.step _).follows (schedule.sound_at _)).known known

theorem recalls (schedule : Schedule s) (later : since < n) :
    Recalls did (Held s did since n) (Held s did since (n + 1)) (s n).index.store (s (n + 1)).index.store where
  more _ := fun ⟨m, after, upTo, stored⟩ => ⟨m, after, upTo.trans (Nat.le_succ n), stored⟩
  before _ stored := ⟨n, later, Nat.le_succ n, stored⟩
  after _ stored := ⟨n + 1, later.trans (Nat.lt_succ_self n), le_rfl, stored⟩
  known _ held := schedule.known_of_held held

/-- A task that has made its first call made it at some moment. -/
theorem asked_before (schedule : Schedule s) (found : (s n).tasks id = some (errand, stage))
    (asked : stage.hasAsked = true) :
    ∃ i < n, (s i).tasks id = some (errand, .asking) ∧ (s (i + 1)).tasks id ≠ some (errand, .asking) := by
  induction n generalizing stage with
  | zero => cases (schedule.idle id).symm.trans found
  | succ n ih =>
    have earlier {stage : Stage} (found : (s n).tasks id = some (errand, stage)) (asked : stage.hasAsked = true) :
        ∃ i < n + 1, (s i).tasks id = some (errand, .asking) ∧ (s (i + 1)).tasks id ≠ some (errand, .asking) := by
      obtain ⟨i, before, here⟩ := ih found asked
      exact ⟨i, before.trans (Nat.lt_succ_self n), here⟩
    cases (schedule.step n).fate id with
    | stays same => exact earlier (same.symm.trans found) asked
    | begins _ there =>
      cases there.symm.trans found
      cases asked
    | acquires _ there =>
      cases there.symm.trans found
      cases asked
    | @proceeds errand' before here next =>
      have there := (s n).tasks_place_self id errand' (errand'.proceed before (s n).index).1
      have placed := congrFun (congrArg Traffic.tasks next) id
      cases (found.symm.trans placed).trans there
      rcases (proceeded (schedule.sound_at n) errand before).asking_or_hasAsked asked with rfl | asked'
      · -- this is the moment: it was asking, and is not any more
        refine ⟨n, Nat.lt_succ_self n, here, fun same => ?_⟩
        rw [found] at same
        rw [(Prod.mk.inj (Option.some.inj same)).2] at asked
        cases asked
      · exact earlier here asked'
    | returns leaves there =>
      cases there.symm.trans found
      exact earlier leaves rfl
    | abandoned _ there =>
      cases there.symm.trans found
      cases asked

theorem phase_after (schedule : Schedule s) (own : errand.did? = some did)
    (asks : (s since).tasks id = some (errand, .asking)) (asked : (s (since + 1)).tasks id ≠ some (errand, .asking))
    (later : since < n) : (s n).Phase (Held s did since n) did id := by
  induction later with
  | refl =>
    refine Traffic.phase_of_asked (schedule.sound_at since) (schedule.step since) own asks asked fun status stored => ?_
    exact ⟨since + 1, Nat.lt_succ_self since, le_rfl, stored⟩
  | step later phase =>
    exact phase.step (schedule.locked_at _) (schedule.sound_at _) (schedule.step _) (schedule.recalls later)

theorem fresh_after (schedule : Schedule s) (since_lt : since < j) (fresh : (s j).Fresh (Held s did since j) did)
    (later : j ≤ k) : (s k).Fresh (Held s did since k) did := by
  induction later with
  | refl => exact fresh
  | step later fresh =>
    exact fresh.step (schedule.sound_at _) (schedule.step _) (schedule.recalls (since_lt.trans_le later))

/-- **A refresh does not wipe what was written meanwhile.** Any number of tasks run side by side in any order of their
steps, and anybody writes to the store at any moment. A task that has added an account, or set its status, and has
returned made its call of the store at a moment `i`. From the moment `j` at which it has returned, the roster shows the
account, and always with a status that the store has held after that call. -/
theorem refresh_keeps_writes (schedule : Schedule s) (own : errand.did? = some did)
    (returned : (s j).tasks id = some (errand, .ended (some (.ok ())))) :
    ∃ i < j, ((s i).tasks id = some (errand, .asking) ∧ (s (i + 1)).tasks id ≠ some (errand, .asking)) ∧
      ∀ k, j ≤ k → ∃ actor, (s k).index.roster.get? did = some actor ∧
        ∃ m, i < m ∧ m ≤ k ∧ (tables (s m).index.store).status did = some actor.status := by
  obtain ⟨i, before, asks, asked⟩ := schedule.asked_before returned rfl
  refine ⟨i, before, ⟨asks, asked⟩, fun k later => ?_⟩
  -- a task that has succeeded is not on its way any more, and was not in vain
  have fresh : (s j).Fresh (Held s did i j) did := by
    cases schedule.phase_after own asks asked before with
    | shown fresh => exact fresh
    | writing found writing =>
      cases found.symm.trans returned
      cases writing
    | vain found vain =>
      cases found.symm.trans returned
      cases vain
  exact (schedule.fresh_after before fresh later).roster

end Schedule

end

/-! ### A refresh that crosses a write -/

namespace Crossing

/-- An account that is in the store, and not yet in the roster. -/
def did : String := "did:plc:hdhoaan3xa3jiuq4fg4mefid"

def start : Traffic Memory where
  index := ⟨(StoreOperation.createActor (.fresh did .approved "" ⟨0, 0⟩)).after ⟨0, 0⟩ {}, {}⟩
  holder := none
  tasks _ := none

/-- While the first task opts the account out, a second one wants to refresh, and a moderator bans the account. -/
def moves : List Traffic.Move :=
  [.begin 0 (.setStatus did .optedOut), .begin 1 .sync, .acquire 0, .proceed 0, .acquire 1, .proceed 1,
    .request (.setActorStatus did .banned) ⟨1, 0⟩, .proceed 0, .proceed 0, .leave 0,
    .acquire 1, .proceed 1, .proceed 1, .leave 1]

def course : Nat → Traffic Memory := start.course fun n => moves.getD n (.abandon 0)

theorem schedule_course : Schedule course :=
  Traffic.schedule_course (fun _ => rfl) (Memory.sound_after _ _ Memory.sound_empty) _

set_option maxRecDepth 100000 in
/-- The roster shows what the first task has stored until the second one has refreshed it, and what the moderator has
stored then. -/
theorem written_shown :
    (∃ i < 10, ((course i).tasks 0 = some (.setStatus did .optedOut, .asking) ∧
        (course (i + 1)).tasks 0 ≠ some (.setStatus did .optedOut, .asking)) ∧
      ∀ k, 10 ≤ k → ∃ actor, (course k).index.roster.get? did = some actor ∧
        ∃ m, i < m ∧ m ≤ k ∧ (tables (course m).index.store).status did = some actor.status) ∧
      (course 10).index.roster.status? did = some .optedOut ∧
      (course 14).index.roster.status? did = some .banned :=
  ⟨schedule_course.refresh_keeps_writes rfl (by decide +kernel), by decide +kernel⟩

end Crossing

end FeedIndex
