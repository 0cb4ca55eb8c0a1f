import FeedIndex.Proofs.Computation
import FeedIndex.Store.Faulty

/-!
# What a store out of service does

A request to a store of which some operations fail at present does to the store inside what it does there on its
own, or it fails and leaves the store as it is. What is answered is what the store inside answers.
-/

namespace FeedIndex.Faulty

variable {σ α : Type}

theorem run_guarded (method : StoreMethod) (operation : Storing σ α) (store : Faulty σ) :
    (guarded method operation).run.run store =
      if method ∈ store.failing then (.error .poisoned, store)
      else (operation.answer store.base, { store with base := operation.after store.base }) := by
  by_cases failing : method ∈ store.failing
  · rw [if_pos failing]
    exact guarded_failing method operation store failing
  · rw [if_neg failing]
    unfold guarded
    rw [Storing.run_get_bind]
    dsimp only
    rw [if_neg failing, Storing.run_eq operation]
    dsimp only
    rw [Storing.run_set_bind]
    rcases operation.answer store.base with failure | a <;> rfl

/-- An answer comes from the store inside. -/
theorem answer_of_guarded {method : StoreMethod} {operation : Storing σ α} {store : Faulty σ} {a : α}
    (answer : (guarded method operation).answer store = .ok a) : operation.answer store.base = .ok a := by
  rw [Storing.answer, run_guarded] at answer
  split at answer
  · cases answer
  · exact answer

variable [Store σ] {now : Timestamp}

theorem request_of_guarded {method : StoreMethod} {operation : Storing σ α} {request : StoreOperation}
    {answer : α → StoreAnswer}
    (outside : request.perform now = (guarded method operation >>= fun a => pure (answer a)))
    (inside : request.perform now = (operation >>= fun a => pure (answer a))) (store : Faulty σ) :
    request.after now store = store ∧ request.answer now store = .error .poisoned ∨
      (request.after now store).base = request.after now store.base ∧
        request.answer now store = request.answer now store.base := by
  rw [← StoreOperation.after_of_perform now request outside, ← StoreOperation.after_of_perform now request inside,
    StoreOperation.answer_of_perform outside, StoreOperation.answer_of_perform inside, Storing.after, Storing.answer,
    run_guarded]
  split
  · exact .inl ⟨rfl, rfl⟩
  · exact .inr ⟨rfl, rfl⟩

/-- **A request is refused**, and then nothing happens, **or it is made of the store inside.** -/
theorem request_cases (now : Timestamp) (request : StoreOperation) (store : Faulty σ) :
    request.after now store = store ∧ request.answer now store = .error .poisoned ∨
      (request.after now store).base = request.after now store.base ∧
        request.answer now store = request.answer now store.base := by
  cases request <;> exact request_of_guarded rfl rfl store

/-- **A request changes the store inside as it does on its own, or not at all.** -/
theorem base_after (now : Timestamp) (request : StoreOperation) (store : Faulty σ) :
    (request.after now store).base = store.base ∨
      (request.after now store).base = request.after now store.base :=
  (request_cases now request store).imp (fun refused => congrArg base refused.1) (·.1)

end FeedIndex.Faulty
