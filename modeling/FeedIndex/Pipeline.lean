import FeedIndex.Handler
import FeedIndex.Metrics
import FeedIndex.Watermark.Flusher

/-!
# The workers of a run

A commit is handled by one worker, event by event, and only after its last event does the worker record the
position. A commit that takes too long is given up there and counts as handled. Meanwhile the flusher writes
the low watermark once per period.

Time, in milliseconds, passes only while something waits. Of what a worker does, writing a post is what can
take time: a worker is busy as long as the store takes to write the post it stands at, and everything else
it does at once. A store that refuses a post does so at once.
-/

namespace FeedIndex

/-! ## What a run is set up with -/

/-- **SlowPost** — posts that the store takes long to write. -/
structure SlowPost where
  /-- How the address of such a post ends. -/
  ending : String
  /-- The time it takes; it never ends without one. -/
  duration : Option Nat
deriving DecidableEq, Repr

/-- **Clock** — the time of day at which an event is handled, by the position of its commit and the number of
the events that come after it there. -/
abbrev Clock := Int → Nat → Timestamp

/-- **PipelineConfig** — how a run is set up. -/
structure PipelineConfig where
  handler : Handler := {}
  /-- The number of workers; there is at least one. -/
  workers : Nat := 8
  /-- The time after which a commit is given up. -/
  patience : Nat := 30000
  /-- The time between flushes. -/
  period : Nat := 10000
  /-- The posts that are slow to write. -/
  slow : List SlowPost := []
  clock : Clock := fun _ _ => ⟨0, 0⟩

namespace PipelineConfig

/-- The number of workers there are. -/
def workerCount (config : PipelineConfig) : Nat := max 1 config.workers

/-- How slow a post is to write, if it is. -/
def slowness? (config : PipelineConfig) (uri : String) : Option (Option Nat) :=
  (config.slow.find? fun post => post.ending.toList.isSuffixOf uri.toList).map (·.duration)

end PipelineConfig

/-! ## The state of a run -/

/-- **Task** — what a busy worker stands at: a post that is being written, and the events after it. -/
structure Task where
  worker : Nat
  /-- The position of the commit. -/
  position : Int
  post : PostRow
  rest : List Event
  /-- The time at which the post is written, if it ever is. -/
  writtenAt : Option Nat
  /-- The time at which the commit is given up. -/
  givenUpAt : Nat

namespace Task

/-- The post is written before the commit is given up. -/
def endsInTime (task : Task) : Bool := task.writtenAt.any (· ≤ task.givenUpAt)

/-- **time** — the time at which the worker goes on. -/
def time (task : Task) : Nat :=
  match task.writtenAt with
  | some time => min time task.givenUpAt
  | none => task.givenUpAt

/-- **earliest?** — the task that goes on first. -/
def earliest? : List Task → Option Task
  | [] => none
  | task :: rest =>
    match earliest? rest with
    | none => some task
    | some other => if task.time ≤ other.time then some task else some other

theorem earliest?_mem {tasks : List Task} {task : Task} (h : earliest? tasks = some task) :
    task ∈ tasks := by
  induction tasks with
  | nil => simp [earliest?] at h
  | cons first rest ih =>
    simp only [earliest?] at h
    split at h
    · simp_all
    · split at h <;> simp_all

end Task

/-- **Pipeline** — the workers of a run with all they work on. -/
structure Pipeline (σ : Type) where
  now : Nat := 0
  index : Index σ
  progress : Watermark
  flusher : Flusher
  ticker : Ticker
  /-- The idle workers, the one idle for the longest time first. -/
  idle : List Nat
  /-- What the busy workers stand at. -/
  tasks : List Task := []
  metrics : Metrics := {}

namespace Pipeline

variable {σ : Type}

/-- **start** — idle workers over an index whose position is known. -/
def start (config : PipelineConfig) (cursor : Option Int) (index : Index σ) : Pipeline σ :=
  { index
    progress := .fresh config.workerCount
    flusher := ⟨cursor, []⟩
    ticker := .start 0 config.period
    idle := List.range config.workerCount }

/-- A worker has finished its commit. -/
def finish (worker : Nat) (position : Int) (s : Pipeline σ) : Pipeline σ :=
  { s with progress := s.progress.record worker position, idle := s.idle ++ [worker] }

/-- An event was handled, or dropped. -/
def countResult (collection : Collection) (result : Except HandleFailure α) (s : Pipeline σ) :
    Pipeline σ :=
  match result with
  | .ok _ => { s with metrics := s.metrics.countHandled collection }
  | .error failure =>
    let reason := if failure.isIntegrity then DropReason.integrity else .error
    { s with metrics := s.metrics.countFailed collection reason }

/-- **load** — how many events there are left to handle for the busy workers, each counted with its post. -/
def load (s : Pipeline σ) : Nat := s.tasks.foldl (fun n task => n + task.rest.length + 1) 0

variable [Store σ]

/-- **tryPost** — what writing a post comes to, and the state after it. -/
def tryPost (post : PostRow) (s : Pipeline σ) : Except HandleFailure Unit × Pipeline σ :=
  let (result, index) := (Handler.storing (Store.createPost post)).run.run s.index
  (result, countResult .post result { s with index })

/-- Writes a post. -/
def writePost (post : PostRow) (s : Pipeline σ) : Pipeline σ := (s.tryPost post).2

/-- The store would write the post. -/
def accepts (post : PostRow) (s : Pipeline σ) : Bool := (s.tryPost post).1.isOk

/-- **proceed** — a worker handles events until it has to wait or has handled all of them. -/
def proceed (config : PipelineConfig) (worker : Nat) (position : Int) (givenUpAt : Nat) :
    List Event → Pipeline σ → Pipeline σ
  | [], s => s.finish worker position
  | event :: rest, s =>
    let collection := Collection.ofName event.collection
    let (planned, index) := (config.handler.plan event (config.clock position rest.length)).run.run s.index
    let s := { s with index }
    match planned with
    | .error failure =>
      proceed config worker position givenUpAt rest
        (s.countResult (α := Unit) collection (.error failure))
    | .ok none => proceed config worker position givenUpAt rest (s.countResult collection (.ok ()))
    | .ok (some post) =>
      match config.slowness? post.uri with
      | none => proceed config worker position givenUpAt rest (s.writePost post)
      | some duration =>
        if s.accepts post then
          let writtenAt := duration.map (s.now + ·)
          { s with tasks := s.tasks ++ [⟨worker, position, post, rest, writtenAt, givenUpAt⟩] }
        else proceed config worker position givenUpAt rest (s.writePost post)

/-- **resume** — a worker goes on: the post it stands at is written, or the commit is given up. -/
def resume (config : PipelineConfig) (task : Task) (s : Pipeline σ) : Pipeline σ :=
  let s := { s with tasks := s.tasks.filter (·.worker ≠ task.worker) }
  if task.endsInTime then
    proceed config task.worker task.position task.givenUpAt task.rest (s.writePost task.post)
  else
    { s with metrics := s.metrics.countTimeout }.finish task.worker task.position

/-- **dispatch** — gives a commit to the worker that is idle for the longest time. -/
def dispatch (config : PipelineConfig) (commit : Commit) (s : Pipeline σ) : Pipeline σ :=
  match s.idle with
  | [] => s
  | worker :: idle =>
    proceed config worker commit.seq (s.now + config.patience) commit.events { s with idle }

/-! ## Time -/

/-- **flush** — writes the watermark if it is due. A flusher without a period never writes. -/
def flush (s : Pipeline σ) : Pipeline σ :=
  if s.ticker.period = 0 then s
  else
    let (_, flusher, store) := s.flusher.flush s.progress s.index.store
    { s with flusher, index := { s.index with store } }

/-- **passTo** — lets time pass in which the flusher alone works. -/
def passTo (time : Nat) (s : Pipeline σ) : Pipeline σ :=
  let count := s.ticker.countUntil time
  let (flusher, store) := Flusher.flushTimes s.progress count s.flusher s.index.store
  { s with
    now := max s.now time
    flusher
    index := { s.index with store }
    ticker := s.ticker.skip count }

/-- The worker of a task goes on when its time comes. -/
def step (config : PipelineConfig) (task : Task) (s : Pipeline σ) : Pipeline σ :=
  (s.passTo task.time).resume config task

/-- The workers go on up to a time, or to the end without one, in at most so many steps. -/
def steps (config : PipelineConfig) (until? : Option Nat) : Nat → Pipeline σ → Pipeline σ
  | 0, s => s
  | fuel + 1, s =>
    match Task.earliest? s.tasks with
    | none => s
    | some task =>
      if until?.all (task.time ≤ ·) then steps config until? fuel (s.step config task) else s

/-- **advanceTo** — lets time pass. -/
def advanceTo (config : PipelineConfig) (time : Nat) (s : Pipeline σ) : Pipeline σ :=
  (steps config (some time) s.load s).passTo time

/-- **drain** — the workers finish what they have. -/
def drain (config : PipelineConfig) (s : Pipeline σ) : Pipeline σ := steps config none s.load s

/-- The workers go on until one of them is idle, up to a time if there is one, in at most so many steps. -/
def stepsToIdle (config : PipelineConfig) (until? : Option Nat) : Nat → Pipeline σ → Option (Pipeline σ)
  | 0, s => if s.idle.isEmpty then none else some s
  | fuel + 1, s =>
    if !s.idle.isEmpty then some s
    else
      match Task.earliest? s.tasks with
      | none => none
      | some task =>
        if until?.all (task.time ≤ ·) then stepsToIdle config until? fuel (s.step config task)
        else none

/-- **awaitIdle** — waits for an idle worker, unless the given time comes first. -/
def awaitIdle (config : PipelineConfig) (until? : Option Nat) (s : Pipeline σ) : Option (Pipeline σ) :=
  stepsToIdle config until? s.load s

end Pipeline

end FeedIndex
