import FeedIndex.Proofs.Accounts
import FeedIndex.Proofs.Advance

/-!
# The position apart from the rest

A store keeps the position of the stream beside the rows, and neither has to do with the other: a request about
rows is answered alike wherever the position stands, leaves it there, and does to the rows the same. So events can
be handled first and the position be moved afterwards, or the other way round.
-/

namespace FeedIndex

open PositionedStore (position)

/-- The request is about the position of the stream. -/
def StoreOperation.isPositional : StoreOperation → Bool
  | .getCursor | .setCursor _ => true
  | _ => false

/-- **ApartStore** — a store whose position can be moved without touching anything else. That every request about
rows can be exchanged with such a move is what keeps the two apart. -/
class ApartStore (σ : Type) [Store σ] extends SteadyStore σ where
  /-- The store with another position. -/
  moveTo : Option Int → σ → σ
  position_moveTo (p : Option Int) (store : σ) : position (moveTo p store) = p
  moveTo_position (store : σ) : moveTo (position store) store = store
  moveTo_moveTo (p q : Option Int) (store : σ) : moveTo p (moveTo q store) = moveTo p store
  getCursor_after (store : σ) : (Store.getCursor : Storing σ (Option Int)).after store = store
  position_of_getCursor {p : Option Int} {store : σ}
    (answer : (Store.getCursor : Storing σ (Option Int)).answer store = .ok p) : position store = p
  setCursor_after {n : Int} {store : σ} (done : (Store.setCursor n : Storing σ Unit).answer store = .ok ()) :
    (Store.setCursor n : Storing σ Unit).after store = moveTo (some n) store
  /-- Whether the position can be set does not depend on where it stands, -/
  setCursor_moveTo (n : Int) (p : Option Int) (store : σ) :
    (Store.setCursor n : Storing σ Unit).answer (moveTo p store) = (Store.setCursor n : Storing σ Unit).answer store
  /-- and not on what is asked about rows. -/
  setCursor_request (n : Int) (now : Timestamp) (request : StoreOperation) (apart : request.isPositional = false)
    (store : σ) : (Store.setCursor n : Storing σ Unit).answer (request.after now store) =
      (Store.setCursor n : Storing σ Unit).answer store
  run_moveTo (now : Timestamp) (request : StoreOperation) (apart : request.isPositional = false) (p : Option Int)
    (store : σ) : request.run now (moveTo p store) = (request.answer now store, moveTo p (request.after now store))

/-- A request can be exchanged with a move if the operation can that it stands for. -/
theorem StoreOperation.run_exchange {σ α : Type} [Store σ] {now : Timestamp} {request : StoreOperation}
    (operation : Storing σ α) {answer : α → StoreAnswer}
    (perform : request.perform now = (operation >>= fun a => pure (answer a))) {move : σ → σ} {store : σ}
    (exchange : operation.run.run (move store) = (operation.answer store, move (operation.after store))) :
    request.run now (move store) = (request.answer now store, move (request.after now store)) := by
  rw [answer_of_perform perform, ← after_of_perform now request perform]
  show (request.perform now).run.run (move store) = _
  rw [perform, Storing.run_bind_pure, Storing.answer, Storing.after, exchange]

/-! ## The stores -/

namespace Memory

/-- The store with another position. -/
def moveTo (p : Option Int) (m : Memory) : Memory := { m with cursor := p }

theorem updateActor_moveTo (did : String) (change : Actor → Actor) (p : Option Int) (m : Memory) :
    (updateActor did change).run.run (m.moveTo p) =
      ((updateActor did change).answer m, ((updateActor did change).after m).moveTo p) := by
  rw [Storing.answer, Storing.after, run_updateActor, run_updateActor]
  dsimp only [moveTo]
  rcases m.actors.get? did with _ | actor <;> rfl

theorem createActor_moveTo (actor : Actor) (p : Option Int) (m : Memory) :
    (Store.createActor actor : Storing Memory Actor).run.run (m.moveTo p) =
      ((Store.createActor actor : Storing Memory Actor).answer m,
        ((Store.createActor actor : Storing Memory Actor).after m).moveTo p) := by
  rw [Storing.answer, Storing.after, run_createActor, run_createActor]
  by_cases known : (m.actors.get? actor.did).isSome = true
  · rw [if_pos known]
    exact if_pos known
  · rw [if_neg known]
    exact if_neg known

theorem putProfile_moveTo (row : ProfileRow) (p : Option Int) (m : Memory) :
    putProfile row (m.moveTo p) = (putProfile row m).moveTo p := by
  unfold putProfile
  by_cases known : ((m.history row.actorDid).any (·.commitCid == row.commitCid)) = true
  · rw [if_pos known]
    exact if_pos known
  · rw [if_neg known]
    exact if_neg known

instance : ApartStore Memory where
  moveTo := moveTo
  position_moveTo _ _ := rfl
  moveTo_position _ := rfl
  moveTo_moveTo _ _ _ := rfl
  getCursor_after _ := rfl
  position_of_getCursor answer := Except.ok.inj answer
  setCursor_after _ := rfl
  setCursor_moveTo _ _ _ := rfl
  setCursor_request _ _ _ _ _ := rfl
  run_moveTo := by
    intro now request apart p m
    cases request with
    | getCursor | setCursor => cases apart
    | createActor actor =>
      exact StoreOperation.run_exchange _ (StoreOperation.perform_createActor now actor) (createActor_moveTo actor p m)
    | setActorStatus did status =>
      exact StoreOperation.run_exchange _ (StoreOperation.perform_setActorStatus now did status)
        (updateActor_moveTo did _ p m)
    | holdActor did time => exact StoreOperation.run_exchange _ rfl (updateActor_moveTo did _ p m)
    | putProfile row => exact Prod.ext rfl (putProfile_moveTo row p m)
    | _ => rfl

end Memory

namespace Relational

/-- The store with another position. -/
def moveTo (p : Option Int) (db : Relational) : Relational := { db with cursor := p }

theorem updateActor_moveTo (did : String) (change : ActorColumns → ActorColumns) (p : Option Int)
    (db : Relational) : (updateActor did change).run.run (db.moveTo p) =
      ((updateActor did change).answer db, ((updateActor did change).after db).moveTo p) := by
  rw [Storing.answer, Storing.after, run_updateActor, run_updateActor]
  dsimp only [moveTo]
  rcases db.actors.get? did with _ | row <;> rfl

theorem createActor_moveTo (actor : Actor) (p : Option Int) (db : Relational) :
    (Store.createActor actor : Storing Relational Actor).run.run (db.moveTo p) =
      ((Store.createActor actor : Storing Relational Actor).answer db,
        ((Store.createActor actor : Storing Relational Actor).after db).moveTo p) := by
  rw [Storing.answer, Storing.after, run_createActor, run_createActor]
  dsimp only [moveTo]
  rcases db.actors.get? actor.did with _ | row <;> rfl

theorem putProfile_moveTo (profile : ProfileRow) (p : Option Int) (db : Relational) :
    putProfile profile (db.moveTo p) = (putProfile profile db).moveTo p := by
  unfold putProfile
  by_cases known : (db.profiles.any fun row =>
      row.actorDid == profile.actorDid && row.commitCid == profile.commitCid) = true
  · rw [if_pos known]
    exact if_pos known
  · rw [if_neg known]
    exact if_neg known

instance : ApartStore Relational where
  moveTo := moveTo
  position_moveTo _ _ := rfl
  moveTo_position _ := rfl
  moveTo_moveTo _ _ _ := rfl
  getCursor_after _ := rfl
  position_of_getCursor answer := Except.ok.inj answer
  setCursor_after _ := rfl
  setCursor_moveTo _ _ _ := rfl
  setCursor_request _ _ _ _ _ := rfl
  run_moveTo := by
    intro now request apart p db
    cases request with
    | getCursor | setCursor => cases apart
    | listActors status =>
      refine StoreOperation.run_exchange _ (StoreOperation.perform_listActors now status) ?_
      rw [Storing.answer, Storing.after, run_listActors, run_listActors, run_mapM_readable, run_mapM_readable]
      rfl
    | getActor did =>
      refine StoreOperation.run_exchange (selectActor did) rfl ?_
      rw [Storing.answer, Storing.after, run_selectActor, run_selectActor]
      rfl
    | createActor actor =>
      exact StoreOperation.run_exchange _ (StoreOperation.perform_createActor now actor) (createActor_moveTo actor p db)
    | setActorStatus did status =>
      exact StoreOperation.run_exchange _ (StoreOperation.perform_setActorStatus now did status)
        (updateActor_moveTo did _ p db)
    | holdActor did time => exact StoreOperation.run_exchange _ rfl (updateActor_moveTo did _ p db)
    | getPost uri =>
      refine StoreOperation.run_exchange (selectPost uri) rfl ?_
      rw [Storing.answer, Storing.after, run_selectPost, run_selectPost]
      rfl
    | putProfile profile => exact Prod.ext rfl (putProfile_moveTo profile p db)
    | latestProfile did =>
      refine StoreOperation.run_exchange (selectLatest did) rfl ?_
      rw [Storing.answer, Storing.after, run_selectLatest, run_selectLatest]
      rfl
    | profileHistory did =>
      refine StoreOperation.run_exchange (Store.profileHistory did) rfl ?_
      rw [Storing.answer, Storing.after, run_profileHistory, run_profileHistory, run_mapM_readable,
        run_mapM_readable]
      rfl
    | _ => rfl

end Relational

/-! ## Operations -/

open ApartStore (moveTo)

/-- **Spares** — an operation that leaves the position alone, and takes no notice of it. -/
structure Storing.Spares {σ α : Type} [Store σ] [ApartStore σ] (operation : Storing σ α) : Prop where
  answer_moveTo (p : Option Int) (store : σ) : operation.answer (moveTo p store) = operation.answer store
  after_moveTo (p : Option Int) (store : σ) : operation.after (moveTo p store) = moveTo p (operation.after store)
  setCursor_answer (n : Int) (store : σ) : (Store.setCursor n : Storing σ Unit).answer (operation.after store) =
    (Store.setCursor n : Storing σ Unit).answer store

/-- An operation spares the position if the request is about rows that stands for it. -/
theorem ApartStore.spares {σ α : Type} [Store σ] [ApartStore σ] {now : Timestamp} (request : StoreOperation)
    {operation : Storing σ α} {answer : α → StoreAnswer}
    (perform : request.perform now = (operation >>= fun a => pure (answer a)))
    (tells : ∀ a b, answer a = answer b → a = b) (apart : request.isPositional = false) : operation.Spares where
  answer_moveTo p store := by
    have answered : request.answer now (moveTo p store) = request.answer now store :=
      (congrArg Prod.fst (run_moveTo now request apart p store) :)
    rw [StoreOperation.answer_of_perform perform, StoreOperation.answer_of_perform perform] at answered
    -- what the request is answered tells what the operation comes to
    generalize operation.answer (moveTo p store) = told at answered ⊢
    generalize operation.answer store = told' at answered ⊢
    rcases told with failure | a <;> rcases told' with failure' | b
    · exact congrArg Except.error (Except.error.inj answered)
    · cases answered
    · cases answered
    · exact congrArg Except.ok (tells a b (Except.ok.inj answered))
  after_moveTo p store := by
    rw [StoreOperation.after_of_perform now request perform, StoreOperation.after_of_perform now request perform]
    exact (congrArg Prod.snd (run_moveTo now request apart p store) :)
  setCursor_answer n store := by
    rw [StoreOperation.after_of_perform now request perform]
    exact setCursor_request n now request apart store

namespace Faulty

variable {σ α : Type} [Store σ] [ApartStore σ] {now : Timestamp} {request : StoreOperation}

/-- The store with another position inside. -/
def moveBase (p : Option Int) (store : Faulty σ) : Faulty σ := { store with base := moveTo p store.base }

theorem run_moveBase {method : StoreMethod} {operation : Storing σ α} {answer : α → StoreAnswer}
    (outside : request.perform now = (guarded method operation >>= fun a => pure (answer a)))
    (inside : request.perform now = (operation >>= fun a => pure (answer a)))
    (tells : ∀ a b, answer a = answer b → a = b) (apart : request.isPositional = false) (p : Option Int)
    (store : Faulty σ) :
    request.run now (store.moveBase p) = (request.answer now store, (request.after now store).moveBase p) := by
  refine StoreOperation.run_exchange _ outside ?_
  rw [Storing.answer, Storing.after, run_guarded, run_guarded]
  by_cases refused : method ∈ store.failing
  · rw [if_pos refused]
    exact if_pos refused
  · have spares := ApartStore.spares request inside tells apart
    rw [if_neg refused, show (store.moveBase p).failing = store.failing from rfl, if_neg refused]
    rw [show (store.moveBase p).base = moveTo p store.base from rfl, spares.answer_moveTo, spares.after_moveTo]
    rfl

omit [ApartStore σ] in
theorem after_of_guarded {method : StoreMethod} {operation : Storing σ α} {answer : α → StoreAnswer}
    (outside : request.perform now = (guarded method operation >>= fun a => pure (answer a)))
    (inside : request.perform now = (operation >>= fun a => pure (answer a))) (store : Faulty σ) :
    request.after now store = store ∨
      request.after now store = { store with base := request.after now store.base } := by
  rw [← StoreOperation.after_of_perform now request outside, ← StoreOperation.after_of_perform now request inside,
    Storing.after, run_guarded]
  split
  · exact .inl rfl
  · exact .inr rfl

omit [ApartStore σ] in
/-- A request never changes which operations fail. -/
theorem after_cases (now : Timestamp) (request : StoreOperation) (store : Faulty σ) :
    request.after now store = store ∨
      request.after now store = { store with base := request.after now store.base } := by
  cases request <;> exact after_of_guarded rfl rfl store

omit [ApartStore σ] in
theorem answer_setCursor (n : Int) (store : Faulty σ) :
    (Store.setCursor n : Storing (Faulty σ) Unit).answer store =
      if StoreMethod.setCursor ∈ store.failing then .error .poisoned
      else (Store.setCursor n : Storing σ Unit).answer store.base := by
  show ((guarded .setCursor (Store.setCursor n : Storing σ Unit)).run.run store).1 = _
  rw [run_guarded]
  split <;> rfl

instance : ApartStore (Faulty σ) where
  moveTo := moveBase
  position_moveTo p store := ApartStore.position_moveTo p store.base
  moveTo_position store := congrArg (Faulty.mk · _) (ApartStore.moveTo_position store.base)
  moveTo_moveTo p q store := congrArg (Faulty.mk · _) (ApartStore.moveTo_moveTo p q store.base)
  getCursor_after := by
    intro store
    show ((guarded .getCursor (Store.getCursor : Storing σ (Option Int))).run.run store).2 = store
    rw [run_guarded, ApartStore.getCursor_after]
    split <;> rfl
  position_of_getCursor answer := ApartStore.position_of_getCursor (answer_of_guarded answer)
  setCursor_after := by
    intro n store done
    have served : (Store.setCursor n : Storing σ Unit).answer store.base = .ok () := answer_of_guarded done
    rw [answer_setCursor] at done
    show ((guarded .setCursor (Store.setCursor n : Storing σ Unit)).run.run store).2 = _
    rw [run_guarded, ApartStore.setCursor_after served]
    split
    · next refused =>
      rw [if_pos refused] at done
      cases done
    · rfl
  setCursor_moveTo n p store := by
    rw [answer_setCursor, answer_setCursor]
    show (if StoreMethod.setCursor ∈ store.failing then _ else _) = _
    rw [show (store.moveBase p).base = moveTo p store.base from rfl, ApartStore.setCursor_moveTo]
  setCursor_request n now request apart store := by
    rcases after_cases now request store with refused | served
    · rw [refused]
    · rw [served, answer_setCursor, answer_setCursor, ApartStore.setCursor_request n now request apart]
  run_moveTo := by
    intro now request apart p store
    cases request with
    | getCursor | setCursor => cases apart
    | _ => exact run_moveBase rfl rfl (by rintro a b ⟨⟩; rfl) rfl p store

end Faulty

/-! ## Computations on an index -/

variable {σ : Type} [Store σ] [ApartStore σ]

/-- The index with another position. -/
def Index.moveTo (p : Option Int) (index : Index σ) : Index σ :=
  { index with store := ApartStore.moveTo p index.store }

namespace Indexing

variable {ε α β : Type}

/-- **Spares** — a computation that leaves the position alone, and takes no notice of it. -/
structure Spares (operation : Indexing σ ε α) : Prop where
  run_moveTo (p : Option Int) (index : Index σ) : operation.run.run (index.moveTo p) =
    ((operation.run.run index).1, (operation.run.run index).2.moveTo p)
  setCursor_answer (n : Int) (index : Index σ) :
    (Store.setCursor n : Storing σ Unit).answer (operation.run.run index).2.store =
      (Store.setCursor n : Storing σ Unit).answer index.store

/-- The position stays where it is. -/
theorem Spares.position_eq {operation : Indexing σ ε α} (spares : operation.Spares) (index : Index σ) :
    position (operation.run.run index).2.store = position index.store := by
  have moved := spares.run_moveTo (position index.store) index
  rw [show index.moveTo (position index.store) = index from
    congrArg (Index.mk · index.roster) (ApartStore.moveTo_position index.store)] at moved
  calc position (operation.run.run index).2.store
      = position ((operation.run.run index).2.moveTo (position index.store)).store :=
        congrArg (fun ran => position ran.2.store) moved
    _ = position index.store := ApartStore.position_moveTo _ _

theorem spares_pure (a : α) : (pure a : Indexing σ ε α).Spares := ⟨fun _ _ => rfl, fun _ _ => rfl⟩

theorem Spares.bind {operation : Indexing σ ε α} {next : α → Indexing σ ε β} (spares : operation.Spares)
    (rest : ∀ a, (next a).Spares) : (operation >>= next).Spares where
  run_moveTo p index := by
    rw [run_bind, run_bind, spares.run_moveTo]
    rcases operation.run.run index with ⟨failure | a, moved⟩
    · rfl
    · exact (rest a).run_moveTo p moved
  setCursor_answer n index := by
    have kept := spares.setCursor_answer n index
    rw [run_bind]
    generalize operation.run.run index = ran at kept ⊢
    rcases ran with ⟨failure | a, moved⟩
    · exact kept
    · exact ((rest a).setCursor_answer n moved).trans kept

theorem spares_onStore {operation : Storing σ α} (spares : operation.Spares) :
    (Index.onStore operation).Spares where
  run_moveTo p index := by
    rw [run_onStore, run_onStore, Index.moveTo, spares.answer_moveTo, spares.after_moveTo]
    rfl
  setCursor_answer n index := by
    rw [run_onStore]
    exact spares.setCursor_answer n index.store

end Indexing

namespace Index

open Indexing (Spares spares_onStore spares_pure)

theorem spares_getActor (did : String) : (Store.getActor did : Storing σ (Option Actor)).Spares :=
  ApartStore.spares (.getActor did) (StoreOperation.perform_getActor ⟨0, 0⟩ did)
    (fun _ _ same => StoreAnswer.actor.inj same) rfl

theorem spares_createActor (actor : Actor) : (Store.createActor actor : Storing σ Actor).Spares :=
  ApartStore.spares (.createActor actor) (StoreOperation.perform_createActor ⟨0, 0⟩ actor)
    (fun _ _ same => Option.some.inj (StoreAnswer.actor.inj same)) rfl

theorem spares_setActorStatus (did : String) (status : ActorStatus) :
    (Store.setActorStatus did status : Storing σ Actor).Spares :=
  ApartStore.spares (.setActorStatus did status) (StoreOperation.perform_setActorStatus ⟨0, 0⟩ did status)
    (fun _ _ same => Option.some.inj (StoreAnswer.actor.inj same)) rfl

theorem spares_putActor (actor : Actor) : (putActor actor : Indexing σ StoreFailure Unit).Spares :=
  ⟨fun _ _ => rfl, fun _ _ => rfl⟩

theorem spares_setStatus (did : String) (status : ActorStatus) :
    (setStatus did status : Indexing σ StoreFailure Actor).Spares :=
  (spares_onStore (spares_setActorStatus did status)).bind fun actor =>
    (spares_putActor actor).bind fun _ => spares_pure actor

theorem spares_createOrGet (actor : Actor) : (createOrGet actor : Indexing σ StoreFailure Actor).Spares where
  run_moveTo p index := by
    rw [run_createOrGet, run_createOrGet, moveTo, (spares_createActor actor).answer_moveTo,
      (spares_createActor actor).after_moveTo, (spares_getActor actor.did).answer_moveTo,
      (spares_getActor actor.did).after_moveTo]
    rcases (Store.createActor actor : Storing σ Actor).answer index.store with failure | created
    · cases failure <;> rfl
    · rfl
  setCursor_answer n index := by
    have created := (spares_createActor actor).setCursor_answer n index.store
    rw [run_createOrGet]
    rcases (Store.createActor actor : Storing σ Actor).answer index.store with failure | stored
    · cases failure with
      | actorExists did => exact ((spares_getActor actor.did).setCursor_answer n _).trans created
      | _ => exact created
    · exact created

theorem spares_createPending (did : String) (now : Timestamp) :
    (createPending did now : Indexing σ StoreFailure Actor).Spares :=
  (spares_createOrGet _).bind fun actor => (spares_putActor actor).bind fun _ => spares_pure actor

end Index

/-! ## Handling -/

namespace Handler

open Indexing (Spares spares_pure)

variable {α : Type}

theorem spares_deciding (result : Except HandleFailure α) : (deciding result : Handling σ α).Spares :=
  ⟨fun _ _ => rfl, fun _ _ => rfl⟩

theorem spares_indexing {operation : Indexing σ StoreFailure α} (spares : operation.Spares) :
    (indexing operation).Spares where
  run_moveTo p index := by
    rw [run_indexing, run_indexing, spares.run_moveTo]
  setCursor_answer n index := spares.setCursor_answer n index

theorem spares_storing {operation : Storing σ α} (spares : operation.Spares) : (storing operation).Spares :=
  spares_indexing (Indexing.spares_onStore spares)

/-- An operation without an answer spares the position if it is about rows. -/
theorem spares_entering (now : Timestamp) (request : StoreOperation) {operation : Storing σ Unit}
    (perform : request.perform now = (operation >>= fun _ => pure .done)) (apart : request.isPositional = false) :
    (storing operation).Spares :=
  spares_storing (ApartStore.spares request perform (fun _ _ _ => rfl) apart)

theorem spares_moveStatus (did : String) (next : Option ActorStatus) :
    (moveStatus did next : Handling σ Unit).Spares := by
  rcases next with _ | status
  · exact spares_pure ()
  · exact (spares_indexing (Index.spares_setStatus did status)).bind fun _ => spares_pure ()

section

variable (handler : Handler) (event : Event) (now : Timestamp)

theorem spares_followedSubject (actor : Option Actor) :
    (followedSubject event actor now : Handling σ Unit).Spares := by
  rcases actor with _ | actor
  · exact (spares_indexing (Index.spares_createPending event.did now)).bind fun _ => spares_pure ()
  · exact spares_moveStatus event.did _

theorem spares_keepFollow (follow : Follow) : (keepFollow event follow now : Handling σ Unit).Spares :=
  (spares_deciding _).bind fun createdAt =>
    spares_entering now (.createFollow (followRow event follow createdAt now)) rfl rfl

theorem spares_followCreated (actor : Option Actor) :
    (handler.followCreated event actor now : Handling σ Unit).Spares := by
  refine (spares_deciding (handler.openRecord event)).bind fun follow => ?_
  split
  · exact (spares_followedSubject event now actor).bind fun _ => spares_keepFollow event now follow
  · split
    · exact spares_keepFollow event now follow
    · exact spares_pure ()

theorem spares_followDeleted (actor : Actor) :
    (handler.followDeleted event actor now : Handling σ Unit).Spares := by
  have found : (Store.getFollow event.uri : Storing σ (Option LinkRow)).Spares :=
    ApartStore.spares (.getFollow event.uri) (StoreOperation.perform_getFollow now event.uri)
      (fun _ _ same => StoreAnswer.follow.inj same) rfl
  refine (spares_storing found).bind fun follow => ?_
  rcases follow with _ | follow
  · exact spares_pure ()
  · refine (spares_entering now (.deleteFollow event.uri) rfl rfl).bind fun _ => ?_
    split
    · exact spares_moveStatus event.did _
    · exact spares_pure ()

theorem spares_gated {ρ : Type} {gate : Bool} {decision : Except HandleFailure ρ} {operation : ρ → Storing σ Unit}
    (spares : ∀ row, (storing (operation row)).Spares) : (entering gate decision operation).Spares := by
  unfold entering
  split
  · exact (spares_deciding decision).bind fun row => (spares row).bind fun _ => spares_pure none
  · exact spares_pure none

theorem spares_planFor (actor : Option Actor) (collection : Collection) (action : Action) :
    (planFor handler event now actor collection action : Handling σ (Option PostRow)).Spares := by
  unfold planFor
  split
  · exact (spares_followCreated handler event now actor).bind fun _ => spares_pure none
  · rcases actor with _ | actor
    · exact spares_pure none
    · exact (spares_followDeleted handler event now actor).bind fun _ => spares_pure none
  · split
    · exact spares_deciding _
    · exact spares_pure none
  · exact spares_gated fun row => spares_entering now (.createLike row) rfl rfl
  · exact spares_gated fun row => spares_entering now (.putProfile row) rfl rfl
  · exact spares_gated fun row => spares_entering now (.putProfile row) rfl rfl
  · exact spares_gated fun _ => spares_entering now (.deletePost event.uri) rfl rfl
  · exact spares_gated fun _ => spares_entering now (.deleteLike event.uri) rfl rfl
  · exact spares_pure none

theorem spares_plan : (handler.plan event now : Handling σ (Option PostRow)).Spares := by
  by_cases other : Collection.ofName event.collection = .other
  · constructor <;> intros <;> simp only [run_plan_of_other handler event now _ other]
  by_cases valid : Did.isValid event.did = true
  · -- the plan goes by the roster, which does not know the position
    constructor
    · intro p index
      have spares := spares_planFor (σ := σ) handler event now (index.roster.get? event.did)
        (Collection.ofName event.collection) event.action
      rw [run_plan handler event now _ valid rfl rfl other, run_plan handler event now _ valid rfl rfl other]
      exact spares.run_moveTo p index
    · intro n index
      have spares := spares_planFor (σ := σ) handler event now (index.roster.get? event.did)
        (Collection.ofName event.collection) event.action
      rw [run_plan handler event now _ valid rfl rfl other]
      exact spares.setCursor_answer n index
  · have invalid := Bool.eq_false_iff.mpr valid
    constructor <;> intros <;> simp only [run_plan_of_invalid handler event now _ other invalid]

end

theorem spares_createPost (post : PostRow) : (storing (Store.createPost post) : Handling σ Unit).Spares :=
  spares_entering ⟨0, 0⟩ (.createPost post) rfl rfl

theorem spares_handle (handler : Handler) (event : Event) (now : Timestamp) :
    (handler.handle event now : Handling σ Unit).Spares := by
  refine (spares_plan handler event now).bind fun planned => ?_
  rcases planned with _ | post
  · exact spares_pure ()
  · exact spares_createPost post

/-- **Handling spares the position**: it may be moved before the events or after them. -/
theorem runAll_moveTo (handler : Handler) (clock : Nat → Timestamp) (events : List Event) (p : Option Int)
    (index : Index σ) :
    handler.runAll clock events (index.moveTo p) = (handler.runAll clock events index).moveTo p := by
  induction events generalizing index with
  | nil => rfl
  | cons event rest ih =>
    show handler.runAll clock rest (handler.run event (clock rest.length) (index.moveTo p)).2 = _
    have moved : (handler.run event (clock rest.length) (index.moveTo p)).2 =
        (handler.run event (clock rest.length) index).2.moveTo p :=
      congrArg Prod.snd ((spares_handle handler event _).run_moveTo p index)
    rw [moved, ih]
    rfl

end Handler

end FeedIndex
