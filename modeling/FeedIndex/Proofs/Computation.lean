import FeedIndex.Handler
import FeedIndex.Store.Operation

/-!
# How computations run

What a computation on a store or an index answers, and the state it leaves. Each way to build a computation
gets one equation, so that a handler can be read off step by step. The last section says that a request as
data leaves the store in the state in which the operation itself leaves it.
-/

namespace FeedIndex

/-! ## Stores -/

namespace Storing

variable {σ α β : Type}

/-- **answer** — what a computation comes to. -/
def answer (operation : Storing σ α) (store : σ) : Except StoreFailure α := (operation.run.run store).1

/-- **after** — the store that a computation leaves. -/
def after (operation : Storing σ α) (store : σ) : σ := (operation.run.run store).2

theorem run_eq (operation : Storing σ α) (store : σ) :
    operation.run.run store = (operation.answer store, operation.after store) := rfl

theorem run_bind (operation : Storing σ α) (next : α → Storing σ β) (store : σ) :
    (operation >>= next).run.run store =
      match operation.answer store with
      | .ok a => (next a).run.run (operation.after store)
      | .error failure => (.error failure, operation.after store) := by
  show (ExceptT.bindCont next (operation.run.run store).1) (operation.run.run store).2 = _
  rw [run_eq]
  rcases operation.answer store with failure | a <;> rfl

theorem run_get_bind (next : σ → Storing σ β) (store : σ) :
    (get >>= next).run.run store = (next store).run.run store := rfl

theorem run_modify_bind (f : σ → σ) (next : PUnit → Storing σ β) (store : σ) :
    (modify f >>= next).run.run store = (next ⟨⟩).run.run (f store) := rfl

theorem run_set_bind (store' : σ) (next : PUnit → Storing σ β) (store : σ) :
    (set store' >>= next).run.run store = (next ⟨⟩).run.run store' := rfl

/-- What is done with an answer alone leaves the store as it is. -/
theorem run_bind_pure (operation : Storing σ α) (f : α → β) (store : σ) :
    (operation >>= fun a => pure (f a)).run.run store =
      ((operation.answer store).map f, operation.after store) := by
  rw [run_bind]
  rcases operation.answer store with failure | a <;> rfl

end Storing

namespace StoreOperation

variable {σ α : Type} [Store σ]

/-- **answer** — what a request is answered. -/
def answer (now : Timestamp) (request : StoreOperation) (store : σ) : Except StoreFailure StoreAnswer :=
  (request.run now store).1

/-- **after** — the store that a request leaves. -/
def after (now : Timestamp) (request : StoreOperation) (store : σ) : σ := (request.run now store).2

/-- **outcome** — whether a request is done, as the handler of an event sees it. -/
def outcome (now : Timestamp) (request : StoreOperation) (store : σ) : Except HandleFailure Unit :=
  ((request.run now store).1.map fun _ => ()).mapError .unstored

/-- A request leaves the store as the operation does that it stands for. -/
theorem after_of_perform (now : Timestamp) (request : StoreOperation) {operation : Storing σ α}
    {answer : α → StoreAnswer} (h : request.perform now = (operation >>= fun a => pure (answer a)))
    (store : σ) : operation.after store = request.after now store := by
  unfold after run
  rw [h, Storing.run_bind_pure]

/-- A request is answered what the operation comes to that it stands for. -/
theorem answer_of_perform {now : Timestamp} {request : StoreOperation} {operation : Storing σ α}
    {answer : α → StoreAnswer} (h : request.perform now = (operation >>= fun a => pure (answer a)))
    (store : σ) : request.answer now store = (operation.answer store).map answer := by
  unfold StoreOperation.answer run
  rw [h, Storing.run_bind_pure]

/-- A request is done if the operation succeeds that it stands for. -/
theorem outcome_of_perform {now : Timestamp} {request : StoreOperation} {operation : Storing σ α}
    {answer : α → StoreAnswer} (h : request.perform now = (operation >>= fun a => pure (answer a)))
    (store : σ) :
    ((operation.answer store).map fun _ => ()).mapError .unstored = request.outcome now store := by
  unfold outcome run
  rw [h, Storing.run_bind_pure]
  rcases operation.answer store with failure | a <;> rfl

/-! ### What requests stand for -/

section

variable (now : Timestamp)

theorem perform_setCursor (position : Int) : (setCursor position).perform now =
    (Store.setCursor position >>= fun _ => (pure .done : Storing σ StoreAnswer)) := rfl

theorem perform_listActors (status : Option ActorStatus) : (listActors status).perform now =
    (Store.listActors status >>= fun actors => (pure (.actors actors) : Storing σ StoreAnswer)) := rfl

theorem perform_getActor (did : String) : (getActor did).perform now =
    (Store.getActor did >>= fun actor => (pure (.actor actor) : Storing σ StoreAnswer)) := rfl

theorem perform_createActor (actor : Actor) : (createActor actor).perform now =
    (Store.createActor actor >>= fun actor => (pure (.actor (some actor)) : Storing σ StoreAnswer)) := rfl

theorem perform_setActorStatus (did : String) (status : ActorStatus) :
    (setActorStatus did status).perform now =
      (Store.setActorStatus did status >>= fun actor =>
        (pure (.actor (some actor)) : Storing σ StoreAnswer)) := rfl

theorem perform_getFollow (uri : String) : (getFollow uri).perform now =
    (Store.getFollow uri >>= fun row => (pure (.follow row) : Storing σ StoreAnswer)) := rfl

end

end StoreOperation

/-! ## Indexes -/

namespace Indexing

variable {σ ε α β : Type}

theorem run_pure (a : α) (index : Index σ) : (pure a : Indexing σ ε α).run.run index = (.ok a, index) := rfl

theorem run_bind (operation : Indexing σ ε α) (next : α → Indexing σ ε β) (index : Index σ) :
    (operation >>= next).run.run index =
      match operation.run.run index with
      | (.ok a, index) => (next a).run.run index
      | (.error failure, index) => (.error failure, index) := by
  show (ExceptT.bindCont next (operation.run.run index).1) (operation.run.run index).2 = _
  rcases operation.run.run index with ⟨failure | a, index⟩ <;> rfl

theorem run_get_bind (next : Index σ → Indexing σ ε β) (index : Index σ) :
    (get >>= next).run.run index = (next index).run.run index := rfl

theorem run_set_bind (index' : Index σ) (next : PUnit → Indexing σ ε β) (index : Index σ) :
    (set index' >>= next).run.run index = (next ⟨⟩).run.run index' := rfl

/-- Only the store changes when the store is asked. -/
theorem run_onStore (operation : Storing σ α) (index : Index σ) :
    (Index.onStore operation).run.run index =
      (operation.answer index.store, { index with store := operation.after index.store }) := by
  unfold Index.onStore
  rw [run_get_bind, Storing.run_eq operation]
  dsimp only
  rw [run_set_bind]
  rcases operation.answer index.store with failure | a <;> rfl

end Indexing

namespace Handler

variable {σ α : Type}

/-- A decision that is made has made its first part. -/
theorem ok_of_bind {ε β : Type} {decision : Except ε α} {next : α → Except ε β} {b : β}
    (h : (decision >>= next) = .ok b) : ∃ a, decision = .ok a ∧ next a = .ok b := by
  rcases decision with failure | a
  · cases h
  · exact ⟨a, rfl, h⟩

/-- A decision that is made is the same in whatever words it could have failed. -/
theorem ok_of_mapError {ε ε' α : Type} {wrap : ε → ε'} {decision : Except ε α} {a : α}
    (h : decision.mapError wrap = .ok a) : decision = .ok a := by
  rcases decision with failure | b
  · cases h
  · cases h
    rfl

theorem run_deciding (result : Except HandleFailure α) (index : Index σ) :
    (deciding result : Handling σ α).run.run index = (result, index) := rfl

theorem run_indexing (operation : Indexing σ StoreFailure α) (index : Index σ) :
    (indexing operation).run.run index =
      ((operation.run.run index).1.mapError .unstored, (operation.run.run index).2) := rfl

theorem run_storing (operation : Storing σ α) (index : Index σ) :
    (storing operation).run.run index =
      ((operation.answer index.store).mapError .unstored,
        { index with store := operation.after index.store }) := by
  rw [storing, run_indexing, Indexing.run_onStore]

/-- An operation without an answer is run as the request that stands for it. -/
theorem run_entering [Store σ] {now : Timestamp} (request : StoreOperation) {operation : Storing σ Unit}
    (h : request.perform now = (operation >>= fun _ => pure .done)) (index : Index σ) :
    (storing operation).run.run index =
      (request.outcome now index.store, { index with store := request.after now index.store }) := by
  rw [run_storing, StoreOperation.after_of_perform now request h, ← StoreOperation.outcome_of_perform h]
  rcases operation.answer index.store with failure | ⟨⟩ <;> rfl

end Handler

end FeedIndex
