import FeedIndex.Proofs.Effects
import FeedIndex.Proofs.Tables.Relational
import Mathlib.Logic.Relation

/-!
# The roster agrees with the store

A status is written twice, first to the store and then to the roster, and what is written may fail anywhere between.
The two say the same all the same: as long as nobody else writes to the accounts, the roster shows exactly the
accounts that are stored, each with its stored status, after every event and every refresh, whether or not it
succeeded. This takes a store that is candid about its accounts (`CandidStore`). Where an account could not be read
back, the relational store would set its status and fail, but a roster that was ever taken from the store as a whole
has seen all of them read.
-/

namespace FeedIndex

open Handler

/-! ## Stores that own up -/

/-- **CandidStore** — a store that does all of what it is asked or fails, and whose answers about an account are what
is stored of it. -/
class CandidStore (σ : Type) [Store σ] extends BoundedStore σ where
  apply_of_done {now : Timestamp} {request : StoreOperation} {store : σ} {said : StoreAnswer}
    (done : request.answer now store = .ok said) : tables (request.after now store) = (tables store).apply now request
  /-- A failure leaves every status as it is, if all accounts can be read back. -/
  status_of_failed {now : Timestamp} {request : StoreOperation} {store : σ} {failure : StoreFailure}
    (readable : (tables store).Readable) (failed : request.answer now store = .error failure) :
    (tables (request.after now store)).status = (tables store).status
  createActor_status {actor stored : Actor} {store : σ}
    (answer : (Store.createActor actor : Storing σ _).answer store = .ok stored) :
    stored.status = actor.status ∧ (tables store).status actor.did = none
  getActor_status {did : String} {stored : Actor} {store : σ} (sound : Sound store)
    (answer : (Store.getActor did : Storing σ _).answer store = .ok (some stored)) :
    (tables store).status did = some stored.status
  setActorStatus_status {did : String} {status : ActorStatus} {stored : Actor} {store : σ} (sound : Sound store)
    (answer : (Store.setActorStatus did status : Storing σ _).answer store = .ok stored) :
    stored.status = status ∧ (tables store).status did ≠ none
  /-- The list of all actors shows the status of each, and each of them could be read. -/
  listActors_status {actors : List Actor} {store : σ} (sound : Sound store)
    (answer : (Store.listActors none : Storing σ _).answer store = .ok actors) :
    (∀ did, (Roster.ofActors actors).status? did = (tables store).status did) ∧ (tables store).Readable

/-- **ReadsBack** — a store that lists its actors only if it can read all of them. -/
class ReadsBack (σ : Type) [Store σ] [TableStore σ] : Prop where
  readable_of_listed {actors : List Actor} {store : σ} (sound : LedgerStore.Sound store)
    (answer : (Store.listActors none : Storing σ _).answer store = .ok actors) : (TableStore.tables store).Readable

instance : ReadsBack Memory where
  readable_of_listed _ _ _ _ _ := rfl

instance : ReadsBack Relational where
  readable_of_listed := by
    intro actors db sound answer did row stored
    obtain rfl : row.did = did := Keyed.Named.name_eq sound stored
    have listed : row ∈ db.actorRows none := (Relational.mem_actorRows_iff sound).mpr stored
    rw [Storing.answer, Relational.run_listActors, Relational.run_mapM_readable] at answer
    rcases items : (db.actorRows none).mapM ActorColumns.actor? with _ | others
    · rw [items] at answer
      cases answer
    · have read : row.actor? ∈ others.map some := by
        rw [← Relational.map_of_mapM items]
        exact List.mem_map_of_mem listed
      obtain ⟨actor, -, hread⟩ := List.mem_map.mp read
      exact Option.isSome_iff_exists.mpr ⟨actor, hread.symm⟩

namespace CandidStore

open LedgerStore TableStore

section

variable {σ : Type} [Store σ] [TableStore σ]

theorem status_tables (store : σ) : (tables store).status = (ledger store).status := by
  rw [ledger_eq]
  rfl

theorem createActor_tabled {actor stored : Actor} {store : σ}
    (answer : (Store.createActor actor : Storing σ _).answer store = .ok stored) :
    stored.status = actor.status ∧ (tables store).status actor.did = none := by
  have law := createActor_answer actor store
  rw [← status_tables] at law
  split at law
  · next absent =>
    obtain rfl := Except.ok.inj (law.symm.trans answer)
    exact ⟨rfl, absent⟩
  · obtain ⟨failure, refused⟩ := law
    cases refused.symm.trans answer

/-- A request fails for an account that is missing or in the way, and leaves every status as it is. -/
theorem status_of_failed_tabled {now : Timestamp} {request : StoreOperation} {store : σ} {failure : StoreFailure}
    (readable : (tables store).Readable) (failed : request.answer now store = .error failure) :
    (tables (request.after now store)).status = (tables store).status := by
  rw [status_tables, status_tables, ledger_after]
  cases request with
  | createActor actor =>
    have law := createActor_answer actor store
    rw [StoreOperation.answer_of_perform (StoreOperation.perform_createActor now actor)] at failed
    split at law
    · rw [law] at failed
      cases failed
    · next stored =>
      obtain ⟨status, hstatus⟩ := Option.ne_none_iff_exists'.mp stored
      funext did
      by_cases own : did = actor.did
      · subst own
        simp [Ledger.apply, Ledger.addAccount, hstatus]
      · simp [Ledger.apply, Ledger.addAccount, own]
  | setActorStatus did status =>
    rw [StoreOperation.answer_of_perform (StoreOperation.perform_setActorStatus now did status)] at failed
    rcases stored : (tables store).accounts did with _ | row
    · have absent : (ledger store).status did = none := by rw [← status_tables, Tables.status, stored]; rfl
      funext other
      by_cases own : other = did
      · subst own
        simp [Ledger.apply, Ledger.setStatus, absent]
      · simp [Ledger.apply, Ledger.setStatus, own]
    · obtain ⟨actor, read⟩ := Option.isSome_iff_exists.mp (readable did row stored)
      rw [setActorStatus_read (by rw [stored]; exact read) status] at failed
      cases failed
  | _ => rfl

end

instance {σ : Type} [Store σ] [TableStore σ] [ReadsBack σ] : CandidStore σ where
  apply_of_done _ := TableStore.tables_after ..
  status_of_failed := status_of_failed_tabled
  createActor_status := createActor_tabled
  getActor_status := by
    intro did stored store sound answer
    exact (congrFun (status_tables store) did).trans (getActor_answer sound answer).1
  setActorStatus_status := by
    intro did status stored store sound answer
    obtain ⟨-, hstatus, known⟩ := setActorStatus_answer sound answer
    exact ⟨hstatus, fun absent => known ((congrFun (status_tables store) did).symm.trans absent)⟩
  listActors_status := by
    intro actors store sound answer
    refine ⟨fun did => ?_, ReadsBack.readable_of_listed sound answer⟩
    exact (listActors_answer sound answer did).trans (congrFun (status_tables store) did).symm

instance {σ : Type} [Store σ] [CandidStore σ] : CandidStore (Faulty σ) where
  apply_of_done := by
    intro now request store said done
    rcases Faulty.request_cases now request store with ⟨-, refused⟩ | ⟨after, answer⟩
    · rw [refused] at done
      cases done
    · show BoundedStore.tables (request.after now store).base = _
      rw [after]
      exact apply_of_done (answer.symm.trans done)
  status_of_failed := by
    intro now request store failure readable failed
    rcases Faulty.request_cases now request store with ⟨same, -⟩ | ⟨after, answer⟩
    · rw [same]
    · show (BoundedStore.tables (request.after now store).base).status = _
      rw [after]
      exact status_of_failed readable (answer.symm.trans failed)
  createActor_status answer := createActor_status (Faulty.answer_of_guarded answer)
  getActor_status sound answer := getActor_status sound (Faulty.answer_of_guarded answer)
  setActorStatus_status sound answer := setActorStatus_status sound (Faulty.answer_of_guarded answer)
  listActors_status sound answer := listActors_status sound (Faulty.answer_of_guarded answer)

/-! ### What is stored after an account was written -/

theorem status_createActor {L : Schema} (t : Tables L) (now : Timestamp) (actor : Actor) (other : String) :
    (t.apply now (.createActor actor)).status other =
      if other = actor.did then (t.status other).or (some actor.status) else t.status other := by
  refine t.status_changeAccount actor.did (·.or (some (L.ofActor actor))) (f := (·.or (some actor.status))) ?_ other
  rintro (_ | row)
  · exact congrArg some (L.status_ofActor _)
  · rfl

section

variable {σ : Type} [Store σ] [CandidStore σ] {store : σ} {stored : Actor}

open BoundedStore

/-- An account that was added is stored as it was answered. -/
theorem status_after_createActor {actor : Actor} (now : Timestamp)
    (added : (Store.createActor actor : Storing σ _).answer store = .ok stored) (did : String) :
    (tables ((StoreOperation.createActor actor).after now store)).status did =
      if did = stored.did then some stored.status else (tables store).status did := by
  have answered := StoreOperation.answer_of_perform (StoreOperation.perform_createActor (σ := σ) now actor) store
  obtain ⟨same, absent⟩ := createActor_status added
  rw [added] at answered
  rw [apply_of_done answered, status_createActor, createActor_did added, same]
  split
  · next own => rw [own, absent, Option.none_or]
  · rfl

/-- An account that was moved is stored as it was answered. -/
theorem status_after_setActorStatus (sound : Sound store) {own : String} {status : ActorStatus} (now : Timestamp)
    (moved : (Store.setActorStatus own status : Storing σ _).answer store = .ok stored) (did : String) :
    (tables ((StoreOperation.setActorStatus own status).after now store)).status did =
      if did = stored.did then some stored.status else (tables store).status did := by
  have answered :=
    StoreOperation.answer_of_perform (StoreOperation.perform_setActorStatus (σ := σ) now own status) store
  obtain ⟨same, known⟩ := setActorStatus_status sound moved
  obtain ⟨before, hbefore⟩ := Option.ne_none_iff_exists'.mp known
  rw [moved] at answered
  rw [apply_of_done answered, setActorStatus_did sound moved, same]
  refine ((tables store).status_file own now (.set status) did).trans ?_
  split
  · next here =>
    rw [here, hbefore]
    rfl
  · rfl

end

end CandidStore

/-! ## Requests that let accounts be -/

/-- **SparesStatuses** — the request changes no status, and leaves accounts that can be read as readable. -/
def SparesStatuses (L : Schema) (now : Timestamp) (request : StoreOperation) : Prop :=
  ∀ t : Tables L, (t.apply now request).status = t.status ∧ (t.Readable → (t.apply now request).Readable)

/-- What an event enters without touching its account spares the statuses; a profile changes the row of its account,
but not its status. -/
theorem Handler.Entry.sparesStatuses {handler : Handler} {event : Event} {now : Timestamp} {roster : Roster}
    {request : StoreOperation} (entry : Entry handler event now roster request) (L : Schema) :
    SparesStatuses L now request := by
  intro t
  cases entry with
  | @profile row => exact ⟨t.status_addProfile row, fun readable => readable.addProfile row⟩
  | _ => exact ⟨rfl, id⟩

/-! ## Rosters that mirror the store -/

open BoundedStore CandidStore

variable {σ : Type} [Store σ] [CandidStore σ] {handler : Handler} {index : Index σ}

namespace Index

/-- **Mirrors** — the roster shows exactly the accounts that are stored, each with the status that is stored. -/
structure Mirrors (index : Index σ) : Prop where
  agrees (did : String) : index.roster.status? did = (tables index.store).status did
  readable : (tables index.store).Readable
  sound : Sound index.store

namespace Mirrors

/-- The store may change as long as its statuses stay. -/
theorem withStore (mirrors : index.Mirrors) {store : σ}
    (status : (tables store).status = (tables index.store).status) (readable : (tables store).Readable)
    (sound : Sound store) : ({ index with store } : Index σ).Mirrors := by
  refine ⟨fun did => ?_, readable, sound⟩
  rw [status]
  exact mirrors.agrees did

/-- A request that spares the statuses may be done or fail. -/
theorem request (mirrors : index.Mirrors) {now : Timestamp} {request : StoreOperation}
    (spares : SparesStatuses (schema σ) now request) :
    ({ index with store := request.after now index.store } : Index σ).Mirrors := by
  obtain ⟨status, readable⟩ := spares (tables index.store)
  have sound := sound_after now request mirrors.sound
  rcases tables_after now request index.store with same | done
  · exact mirrors.withStore (by rw [same]) (by rw [same]; exact mirrors.readable) sound
  · exact mirrors.withStore (by rw [done, status]) (by rw [done]; exact readable mirrors.readable) sound

/-- A request that fails spares the statuses. -/
theorem failed (mirrors : index.Mirrors) {now : Timestamp} {request : StoreOperation} {failure : StoreFailure}
    (readable : ((tables index.store).apply now request).Readable)
    (failed : request.answer now index.store = .error failure) :
    ({ index with store := request.after now index.store } : Index σ).Mirrors := by
  refine mirrors.withStore (status_of_failed mirrors.readable failed) ?_ (sound_after now request mirrors.sound)
  -- what fails may have been done even so
  rcases tables_after now request index.store with same | done
  · rw [same]
    exact mirrors.readable
  · rw [done]
    exact readable

/-- An account is shown as it is stored, beside others whose statuses have stayed. -/
theorem put (mirrors : index.Mirrors) {store : σ} {actor : Actor}
    (status : ∀ did, (tables store).status did =
      if did = actor.did then some actor.status else (tables index.store).status did)
    (readable : (tables store).Readable) (sound : Sound store) :
    (⟨store, index.roster.put actor⟩ : Index σ).Mirrors := by
  refine ⟨fun did => ?_, readable, sound⟩
  show ((index.roster.put actor).get? did).map (·.status) = (tables store).status did
  rw [Roster.get?_put, status]
  split
  · rfl
  · exact mirrors.agrees did

/-! ### An account that is filed -/

/-- A status is set in both places, or in none. -/
theorem filing_set (mirrors : index.Mirrors) (did : String) (now : Timestamp) (status : ActorStatus) :
    ((filing now did (.set status)).run.run index).2.Mirrors := by
  have perform := StoreOperation.perform_setActorStatus (σ := σ) now did status
  have answered := StoreOperation.answer_of_perform perform index.store
  have readable := mirrors.readable.file did now (.set status)
  unfold filing moveStatus
  rw [Indexing.run_bind, run_indexing, run_setStatus, StoreOperation.after_of_perform now _ perform]
  rcases answer : (Store.setActorStatus did status : Storing σ _).answer index.store with failure | actor
  · rw [answer] at answered
    exact mirrors.failed readable answered
  · rw [answer] at answered
    refine mirrors.put (status_after_setActorStatus mirrors.sound now answer) ?_ (sound_after now _ mirrors.sound)
    rw [apply_of_done answered]
    exact readable

theorem lookUp (mirrors : index.Mirrors) (now : Timestamp) (did : String) :
    ({ index with store := (StoreOperation.getActor did).after now index.store } : Index σ).Mirrors :=
  mirrors.request fun _ => ⟨rfl, id⟩

/-- An account that was refused because it is there already is shown as it is stored. -/
theorem getActor (mirrors : index.Mirrors) {did : String} (now : Timestamp) {stored : Actor}
    (found : (Store.getActor did : Storing σ _).answer index.store = .ok (some stored)) :
    (⟨(StoreOperation.getActor did).after now index.store, index.roster.put stored⟩ : Index σ).Mirrors := by
  have same : tables ((StoreOperation.getActor did).after now index.store) = tables index.store :=
    (tables_after now _ _).elim id id
  have own : stored.did = did := getActor_did mirrors.sound found
  refine mirrors.put (fun other => ?_) (by rw [same]; exact mirrors.readable) (sound_after now _ mirrors.sound)
  rw [same, own]
  split
  · next here => rw [here, getActor_status mirrors.sound found]
  · rfl

/-- An account that was not there is shown as it was added. -/
theorem createActor (mirrors : index.Mirrors) {now : Timestamp} {actor stored : Actor}
    (readable : ((tables index.store).apply now (.createActor actor)).Readable)
    (added : (Store.createActor actor : Storing σ _).answer index.store = .ok stored) :
    (⟨(StoreOperation.createActor actor).after now index.store, index.roster.put stored⟩ : Index σ).Mirrors := by
  have answered := StoreOperation.answer_of_perform (StoreOperation.perform_createActor (σ := σ) now actor) index.store
  rw [added] at answered
  refine mirrors.put (status_after_createActor now added) ?_ (sound_after now _ mirrors.sound)
  rw [apply_of_done answered]
  exact readable

/-- Adding an account comes to the account as it is to be shown, or leaves all as it is. -/
theorem createOrGet (mirrors : index.Mirrors) {now : Timestamp} {actor : Actor}
    (readable : ((tables index.store).apply now (.createActor actor)).Readable) :
    match (Index.createOrGet actor).run.run index with
    | (.ok stored, moved) => ({ moved with roster := moved.roster.put stored } : Index σ).Mirrors
    | (.error _, moved) => moved.Mirrors := by
  have performCreate := StoreOperation.perform_createActor (σ := σ) now actor
  have performGet := StoreOperation.perform_getActor (σ := σ) now actor.did
  rw [run_createOrGet, StoreOperation.after_of_perform now _ performCreate,
    StoreOperation.after_of_perform now _ performGet]
  rcases answer : (Store.createActor actor : Storing σ _).answer index.store with failure | stored
  · have answered := StoreOperation.answer_of_perform performCreate index.store
    rw [answer] at answered
    have refused := mirrors.failed readable answered
    cases failure with
    | actorExists taken =>
      have looked := refused.lookUp now actor.did
      dsimp only
      rcases found : (Store.getActor actor.did : Storing σ _).answer
        ((StoreOperation.createActor actor).after now index.store) with failure | _ | stored
      · exact looked
      · exact looked
      · exact refused.getActor now found
    | _ => exact refused
  · exact mirrors.createActor readable answer

/-- An account is added in both places, or it is shown as it was stored before. -/
theorem filing_add (mirrors : index.Mirrors) (did : String) (now : Timestamp) :
    ((filing now did .add).run.run index).2.Mirrors := by
  have made := mirrors.createOrGet (mirrors.readable.file did now .add)
  unfold filing
  rw [Indexing.run_bind, run_indexing, run_createPending]
  rcases result : (Index.createOrGet (Actor.fresh did .pending addedRemark now)).run.run index with
    ⟨failure | stored, moved⟩
  · rw [result] at made
    exact made
  · rw [result] at made
    exact made

theorem filing? (mirrors : index.Mirrors) (did : String) (now : Timestamp) (change : Option AccountChange) :
    ((Handler.filing? now did change).run.run index).2.Mirrors := by
  rcases change with _ | _ | status
  · exact mirrors
  · exact mirrors.filing_add did now
  · exact mirrors.filing_set did now status

/-! ### An event and a refresh -/

theorem withoutFollow (mirrors : index.Mirrors) (event : Event) (now : Timestamp) :
    ({ index with store := Handler.withoutFollow event now index.store } : Index σ).Mirrors := by
  have looked : ({ index with store := (StoreOperation.getFollow event.uri).after now index.store } :
      Index σ).Mirrors := mirrors.request fun _ => ⟨rfl, id⟩
  exact looked.request fun _ => ⟨rfl, id⟩

/-- **An event keeps the roster the mirror of the store**, handled or not. -/
theorem run (mirrors : index.Mirrors) (handler : Handler) (event : Event) (now : Timestamp) :
    (handler.run event now index).2.Mirrors := by
  have followed := mirrors.filing? event.did now (AccountChange.onFollow? (index.roster.get? event.did))
  rw [← followedSubject_eq] at followed
  have way := handled_run handler event now index
  -- by the way the event went, not by what it is
  generalize (handler.run event now index).1 = result at way
  generalize (handler.run event now index).2 = last at way
  cases way with
  | passed => exact mirrors
  | refused _ => exact mirrors
  | entered _ entry => exact mirrors.request (entry.sparesStatuses _)
  | followFailed _ move =>
    rw [move] at followed
    exact followed
  | followUntimed _ move _ =>
    rw [move] at followed
    exact followed
  | followKept _ move _ =>
    rw [move] at followed
    exact followed.request fun _ => ⟨rfl, id⟩
  | unfollowUnknown _ _ => exact mirrors.request fun _ => ⟨rfl, id⟩
  | unfollowed _ _ _ => exact mirrors.withoutFollow event now
  | @unfollowedSubject actor _ _ _ unfollows _ _ _ move =>
    have moved := (mirrors.withoutFollow event now).filing? event.did now (AccountChange.onUnfollow? actor)
    rw [← moveStatus_eq, move] at moved
    exact moved

end Mirrors

theorem tables_sync (index : Index σ) : tables (sync.run.run index).2.store = tables index.store := by
  have perform := StoreOperation.perform_listActors (σ := σ) ⟨0, 0⟩ none
  have same : tables ((Store.listActors none : Storing σ _).after index.store) = tables index.store :=
    (tables_after_operation perform index.store).elim id id
  rw [run_sync]
  rcases (Store.listActors none : Storing σ _).answer index.store with failure | actors <;> exact same

theorem sound_sync (sound : Sound index.store) : Sound (sync.run.run index).2.store := by
  have perform := StoreOperation.perform_listActors (σ := σ) ⟨0, 0⟩ none
  have kept := sound_after ⟨0, 0⟩ (.listActors none) sound
  rw [← StoreOperation.after_of_perform _ _ perform] at kept
  rw [run_sync]
  rcases (Store.listActors none : Storing σ _).answer index.store with failure | actors <;> exact kept

/-- A refresh that succeeds makes the roster the mirror of the store, whatever it showed before. -/
theorem mirrors_of_sync (sound : Sound index.store) {size : Nat} {synced : Index σ}
    (loaded : sync.run.run index = (.ok size, synced)) : synced.Mirrors := by
  have same := tables_sync index
  have sound' := sound_sync sound
  rw [loaded] at same sound'
  rw [run_sync] at loaded
  rcases answer : (Store.listActors none : Storing σ _).answer index.store with failure | actors
  · rw [answer] at loaded
    cases loaded
  · obtain ⟨shown, readable⟩ := listActors_status sound answer
    rw [answer] at loaded
    obtain rfl := (Prod.mk.inj loaded).2
    refine ⟨fun did => ?_, by rw [same]; exact readable, sound'⟩
    rw [same]
    exact shown did

/-- A refresh keeps the roster the mirror of the store, whether it succeeds or not. -/
theorem Mirrors.sync (mirrors : index.Mirrors) : (Index.sync.run.run index).2.Mirrors := by
  rcases refreshed : Index.sync.run.run index with ⟨failure | size, moved⟩
  · have same := tables_sync index
    have sound := sound_sync mirrors.sound
    rw [refreshed] at same sound
    have roster : moved.roster = index.roster := by
      rw [run_sync] at refreshed
      rcases answer : (Store.listActors none : Storing σ _).answer index.store with failure | actors
      · rw [answer] at refreshed
        rw [← (Prod.mk.inj refreshed).2]
      · rw [answer] at refreshed
        cases refreshed
    have kept := mirrors.withStore (by rw [same]) (by rw [same]; exact mirrors.readable) sound
    rw [← roster] at kept
    exact kept
  · exact mirrors_of_sync mirrors.sound refreshed

end Index

/-! ## Runs -/

/-- **Undisturbed** — what happens to an index while nobody else writes to its accounts: an event is handled, the
roster is taken from the store anew, or something else goes on with the store, which may also fall out of service or
come back. -/
inductive Undisturbed (handler : Handler) (index : Index σ) : Index σ → Prop
  | handled (event : Event) (now : Timestamp) : Undisturbed handler index (handler.run event now index).2
  | synced : Undisturbed handler index (Index.sync.run.run index).2
  | elsewhere {store : σ} (accounts : (tables store).accounts = (tables index.store).accounts)
    (sound : Sound store) : Undisturbed handler index { index with store }

theorem Index.Mirrors.undisturbed {next : Index σ} (mirrors : index.Mirrors) (step : Undisturbed handler index next) :
    next.Mirrors := by
  cases step with
  | handled event now => exact mirrors.run handler event now
  | synced => exact mirrors.sync
  | elsewhere accounts sound =>
    refine mirrors.withStore ?_ ?_ sound
    · unfold Tables.status
      rw [accounts]
    · unfold Tables.Readable
      rw [accounts]
      exact mirrors.readable

/-- **The roster agrees with the store.** From a refresh that succeeds, whatever events are handled, in whatever order
and with whatever result, and whatever further refreshes come to: while nobody else writes to the accounts, the roster
shows exactly the accounts that are stored, each with its stored status. So a refresh has nothing to put right: what
the roster shows of an account, and whether it shows it, is the same before and after. -/
theorem roster_agrees {start synced : Index σ} {size : Nat} (sound : Sound start.store)
    (loaded : Index.sync.run.run start = (.ok size, synced))
    (run : Relation.ReflTransGen (Undisturbed handler) synced index) (did : String) :
    index.roster.status? did = (tables index.store).status did ∧
      (Index.sync.run.run index).2.roster.status? did = index.roster.status? did ∧
      (tables (Index.sync.run.run index).2.store).status did = (tables index.store).status did := by
  have mirrors : index.Mirrors := by
    induction run with
    | refl => exact Index.mirrors_of_sync sound loaded
    | tail _ step mirrors => exact mirrors.undisturbed step
  have stored : (tables (Index.sync.run.run index).2.store).status did = (tables index.store).status did := by
    rw [Index.tables_sync]
  exact ⟨mirrors.agrees did, (mirrors.sync.agrees did).trans (stored.trans (mirrors.agrees did).symm), stored⟩

/-! ### An account of which only a part is written -/

namespace HalfWritten

/-- A store in tables with an approved account, and an empty roster. -/
def start : Index (Faulty Relational) :=
  ⟨⟨(StoreOperation.createActor (.fresh "did:plc:approved" .approved "" ⟨0, 0⟩)).after ⟨0, 0⟩ {}, []⟩, {}⟩

/-- The roster has been taken from the store. -/
def synced : Index (Faulty Relational) := (Index.sync.run.run start).2

/-- The store takes no follows any more. -/
def outage : Index (Faulty Relational) := { synced with store := synced.store.setFailing .createFollow true }

/-- The account that follows the subject. -/
def did : String := "did:plc:hdhoaan3xa3jiuq4fg4mefid"

/-- An unknown account follows the subject. -/
def follow : Event where
  seq := 1
  did := did
  action := .create
  collection := "app.bsky.graph.follow"
  rkey := "f1"
  cid := none
  payload := some (.json
    "\x7b\"subject\":\"did:plc:jdkvwye2lf4mingzk7qdebzc\",\"createdAt\":\"2025-01-26T17:11:03Z\"\x7d")

/-- The event has been handled, without success. -/
def failed : Index (Faulty Relational) := (Handler.run {} follow ⟨1, 0⟩ outage).2

theorem sound_start : Sound start.store :=
  show Relational.Sound start.store.base from Relational.sound_after _ _ Relational.sound_empty

theorem run_failed : Relation.ReflTransGen (Undisturbed {}) synced failed := by
  have out : Undisturbed {} synced outage :=
    .elsewhere rfl (show Sound synced.store from Index.sound_sync sound_start)
  exact .tail (.single out) (.handled follow ⟨1, 0⟩)

set_option maxRecDepth 100000 in
/-- The event fails after its account was added: roster and store agree on the account all the same. -/
theorem account_shown :
    (failed.roster.status? did = (tables failed.store).status did ∧
      (Index.sync.run.run failed).2.roster.status? did = failed.roster.status? did ∧
      (tables (Index.sync.run.run failed).2.store).status did = (tables failed.store).status did) ∧
      (Handler.run {} follow ⟨1, 0⟩ outage).1 = .error (.unstored .poisoned) ∧
      failed.roster.status? did = some .pending ∧ synced.roster.status? did = none ∧
      failed.roster.status? "did:plc:approved" = some .approved :=
  ⟨roster_agrees sound_start (Prod.ext (show _ = Except.ok 1 by decide +kernel) rfl) run_failed did,
    by decide +kernel⟩

end HalfWritten

end FeedIndex
