import FeedIndex.Pipeline.Run
import Mathlib.Tactic.Common

/-!
# Workloads

What the busy workers of a run have left to do. A worker that goes on has less of its commit left than before, or
has finished it, so that the workers come to an end by themselves. A commit that is given up is counted, and the
count is never taken back.
-/

namespace FeedIndex

namespace Task

theorem earliest?_eq_none_iff {tasks : List Task} : earliest? tasks = none ↔ tasks = [] := by
  rcases tasks with _ | ⟨task, rest⟩
  · exact ⟨fun _ => rfl, fun _ => rfl⟩
  · refine ⟨fun nothing => ?_, nofun⟩
    unfold earliest? at nothing
    split at nothing
    · cases nothing
    · split at nothing <;> cases nothing

/-- **workload** — the events that tasks have left, each with the post it stands at. -/
def workload : List Task → Nat
  | [] => 0
  | task :: rest => workload rest + task.rest.length + 1

theorem workload_append (before after : List Task) : workload (before ++ after) = workload before + workload after := by
  induction before with
  | nil => exact (Nat.zero_add _).symm
  | cons task rest ih =>
    rw [List.cons_append, workload, workload, ih]
    omega

theorem workload_filter_le (keeps : Task → Bool) (tasks : List Task) :
    workload (tasks.filter keeps) ≤ workload tasks := by
  induction tasks with
  | nil => exact Nat.le_refl _
  | cons task rest ih =>
    rw [List.filter_cons]
    split
    · rw [workload, workload]
      omega
    · rw [workload]
      omega

end Task

namespace Pipeline

variable {σ : Type} {config : PipelineConfig} {s s' : Pipeline σ}

/-! ## What a worker leaves alone -/

/-- Counting a result changes nothing else. -/
theorem countResult_eq {α : Type} (collection : Collection) (result : Except HandleFailure α) (s : Pipeline σ) :
    s.countResult collection result = { s with metrics := (s.countResult collection result).metrics } := by
  rcases result with failure | a <;> rfl

theorem countResult_tasks {α : Type} (collection : Collection) (result : Except HandleFailure α) (s : Pipeline σ) :
    (s.countResult collection result).tasks = s.tasks := by rw [countResult_eq]

/-! ## Commits that were given up -/

/-- No commit was given up. -/
def InTime (s : Pipeline σ) : Prop := s.metrics.dropped.get? DropReason.timeout.label = none

theorem inTime_countResult {α : Type} (collection : Collection) (result : Except HandleFailure α) {s : Pipeline σ}
    (inTime : (s.countResult collection result).InTime) : s.InTime := by
  rcases result with failure | a
  · have counted : (Metrics.count _ s.metrics.dropped).get? DropReason.timeout.label = none := inTime
    have other : DropReason.timeout.label ≠
        (if failure.isIntegrity then DropReason.integrity else .error).label := by
      rcases failure.isIntegrity <;> decide
    rw [Metrics.get?_count, if_neg other] at counted
    exact counted
  · exact inTime

theorem not_inTime_countTimeout (s : Pipeline σ) : ¬ InTime { s with metrics := s.metrics.countTimeout } := by
  intro inTime
  have counted : (Metrics.count _ s.metrics.dropped).get? DropReason.timeout.label = none := inTime
  rw [Metrics.get?_count, if_pos rfl] at counted
  cases counted

/-! ## What is left -/

/-- The workload is that of the tasks, one by one. -/
theorem load_eq_workload (s : Pipeline σ) : s.load = Task.workload s.tasks := by
  have from_ (n : Nat) (tasks : List Task) :
      tasks.foldl (fun n task => n + task.rest.length + 1) n = n + Task.workload tasks := by
    induction tasks generalizing n with
    | nil => rfl
    | cons task rest ih =>
      rw [List.foldl_cons, ih, Task.workload]
      omega
  unfold load
  rw [from_, Nat.zero_add]

theorem load_congr (same : s'.tasks = s.tasks) : s'.load = s.load := by
  unfold load
  rw [same]

theorem tasks_eq_nil_of_load (nothing : s.load = 0) : s.tasks = [] := by
  rw [load_eq_workload] at nothing
  rcases tasks : s.tasks with _ | ⟨task, rest⟩
  · rfl
  · rw [tasks, Task.workload] at nothing
    omega

/-- A task takes what it has left with it. -/
theorem load_without_lt {task : Task} (listed : task ∈ s.tasks) :
    load { s with tasks := s.tasks.filter (·.worker ≠ task.worker) } + task.rest.length < s.load := by
  obtain ⟨before, after, split⟩ := List.append_of_mem listed
  have gone : (task :: after).filter (·.worker ≠ task.worker) = after.filter (·.worker ≠ task.worker) :=
    List.filter_cons_of_neg (by simp)
  rw [load_eq_workload, load_eq_workload]
  dsimp only
  rw [split, List.filter_append, gone, Task.workload_append, Task.workload_append, Task.workload]
  have left := Task.workload_filter_le (·.worker ≠ task.worker) before
  have right := Task.workload_filter_le (·.worker ≠ task.worker) after
  omega

variable [Store σ]

/-- Writing a post changes the index, and is counted. -/
theorem writePost_eq (post : PostRow) (s : Pipeline σ) :
    s.writePost post = { s with
      index := ((Handler.storing (Store.createPost post)).run.run s.index).2
      metrics := (s.writePost post).metrics } := countResult_eq .post _ _

theorem writePost_idle (post : PostRow) (s : Pipeline σ) : (s.writePost post).idle = s.idle := by
  rw [writePost_eq]

theorem writePost_tasks (post : PostRow) (s : Pipeline σ) : (s.writePost post).tasks = s.tasks := by
  rw [writePost_eq]

theorem inTime_writePost (post : PostRow) (inTime : (s.writePost post).InTime) : s.InTime := by
  have before := inTime_countResult .post _ inTime
  exact before

/-- A worker takes up no more than the events it is given. -/
theorem load_proceed_le (config : PipelineConfig) (worker : Nat) (position : Int) (givenUpAt : Nat)
    (events : List Event) (s : Pipeline σ) :
    (proceed config worker position givenUpAt events s).load ≤ s.load + events.length := by
  induction events generalizing s with
  | nil => exact Nat.le_refl _
  | cons event rest ih =>
    have goOn (t : Pipeline σ) (same : t.tasks = s.tasks) :
        (proceed config worker position givenUpAt rest t).load ≤ s.load + (event :: rest).length := by
      have within := ih t
      rw [load_congr same] at within
      exact Nat.le_succ_of_le within
    unfold proceed
    dsimp only
    rcases (config.handler.plan event (config.clock position rest.length)).run.run s.index with
      ⟨failure | _ | post, index⟩ <;> dsimp only
    · exact goOn _ (countResult_tasks _ _ _)
    · exact goOn _ (countResult_tasks _ _ _)
    · split
      · exact goOn _ (writePost_tasks _ _)
      · split
        · -- the worker stands at the post, with the events after it
          rw [load_eq_workload, load_eq_workload, Task.workload_append, List.length_cons, Task.workload, Task.workload]
          exact Nat.le_of_eq (by rw [Nat.zero_add])
        · exact goOn _ (writePost_tasks _ _)

/-- **A worker that goes on has less left.** -/
theorem load_resume_lt (config : PipelineConfig) {task : Task} (listed : task ∈ s.tasks) :
    (s.resume config task).load < s.load := by
  have freed := load_without_lt listed
  unfold resume
  dsimp only
  split
  · have within := load_proceed_le config task.worker task.position task.givenUpAt task.rest
      (writePost task.post { s with tasks := s.tasks.filter (·.worker ≠ task.worker) })
    rw [load_congr (writePost_tasks task.post _)] at within
    omega
  · exact Nat.lt_of_le_of_lt (Nat.le_add_right _ _) freed

theorem load_step_lt (config : PipelineConfig) {task : Task} (listed : task ∈ s.tasks) :
    (s.step config task).load < s.load :=
  load_resume_lt (s := s.passTo task.time) config listed

/-- **The workers come to an end** if they are not stopped. -/
theorem steps_tasks {fuel : Nat} (light : s.load ≤ fuel) : (steps config none fuel s).tasks = [] := by
  induction fuel generalizing s with
  | zero => exact tasks_eq_nil_of_load (Nat.le_zero.mp light)
  | succ fuel ih =>
    unfold steps
    split
    · next rested => exact Task.earliest?_eq_none_iff.mp rested
    · next task first =>
      have lighter := load_step_lt config (Task.earliest?_mem first)
      rw [show (none : Option Nat).all (task.time ≤ ·) = true from rfl, if_pos rfl]
      exact ih (by omega)

theorem flush_tasks (s : Pipeline σ) : s.flush.tasks = s.tasks := by
  unfold Pipeline.flush
  split <;> rfl

/-- A reader that has waited finds an idle worker. -/
theorem idle_of_stepsToIdle {until? : Option Nat} {fuel : Nat} (waited : stepsToIdle config until? fuel s = some s') :
    s'.idle ≠ [] := by
  induction fuel generalizing s with
  | zero =>
    unfold stepsToIdle at waited
    split at waited
    · cases waited
    · next free =>
      obtain rfl := Option.some.inj waited
      simpa using free
  | succ fuel ih =>
    unfold stepsToIdle at waited
    split at waited
    · next free =>
      obtain rfl := Option.some.inj waited
      simpa using free
    · split at waited
      · cases waited
      · split at waited
        · exact ih waited
        · cases waited

theorem drain_tasks (config : PipelineConfig) (s : Pipeline σ) : (s.drain config).tasks = [] :=
  steps_tasks (Nat.le_refl _)

/-! ## The stream of a run -/

/-- A run that finds its position, and whose stream opens after it, follows that stream. -/
theorem run_eq_follow {source : Option Int → Except ConnectFailure (List Cue)} {index : Index σ}
    {store : σ} {cancelAt : Option Nat} {cursor asked : Option Int} {cues : List Cue}
    (known : (Store.getCursor : Storing σ (Option Int)).run.run index.store = (.ok cursor, store))
    (after : asked? cursor = some asked) (opens : source asked = .ok cues) :
    run config cancelAt source index = follow config cancelAt cursor asked cues { index with store } := by
  unfold run
  rw [known]
  dsimp only
  rw [after]
  dsimp only
  rw [opens]

end Pipeline

end FeedIndex
