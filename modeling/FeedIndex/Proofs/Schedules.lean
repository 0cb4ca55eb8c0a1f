import FeedIndex.Proofs.Deletion
import FeedIndex.Proofs.Resuming
import FeedIndex.Proofs.Workload

/-!
# Schedules of a run

A run in time is one of the schedules of its crew. Whenever a worker goes on, the flusher writes or the reader hands
a commit over, the crew can make moves that bring it to where the run stands then: a post that takes its time is a
plan and a write with the moves of others in between, every other event is handled at once, and a commit that is
given up is a move as well. So what holds under every schedule of a crew holds of every run.
-/

namespace FeedIndex

namespace Crew

variable {σ : Type} [Store σ] {handler : Handler}

theorem run_append (s : Crew σ) (before after : List Move) :
    s.run handler (before ++ after) = (s.run handler before).run handler after :=
  List.foldl_append

end Crew

/-- **commits** — what a stream gives until it ends. -/
def Cue.commits : List Cue → List Commit
  | .commit given :: rest => given :: commits rest
  | .silence _ :: rest => commits rest
  | .failure _ :: _ | .finish :: _ | [] => []

namespace Pipeline

variable {σ : Type} {config : PipelineConfig} {upcoming : List Commit} {worker : Nat} {s t u : Pipeline σ}
  {crew : Crew σ}

/-! ## Runs that stand at the same place -/

/-- **Alike** — two runs differ in what they have counted, and in their time, at most. -/
structure Alike (s t : Pipeline σ) : Prop where
  index : t.index = s.index
  progress : t.progress = s.progress
  flusher : t.flusher = s.flusher
  idle : t.idle = s.idle
  tasks : t.tasks = s.tasks

theorem alike_countResult {α : Type} (collection : Collection) (result : Except HandleFailure α) (s : Pipeline σ) :
    Alike s (s.countResult collection result) := by
  rw [countResult_eq]
  exact ⟨rfl, rfl, rfl, rfl, rfl⟩

theorem alike_writePost [Store σ] (post : PostRow) (s : Pipeline σ) :
    Alike { s with index := ((Handler.storing (Store.createPost post)).run.run s.index).2 } (s.writePost post) := by
  rw [writePost_eq]
  exact ⟨rfl, rfl, rfl, rfl, rfl⟩

/-! ## A crew that stands where a run stands -/

/-- **Shows** — a crew stands where a run stands. The index, the positions and the flusher are the same; a worker is
idle in both, or writes the post of its task; and nobody else is busy, but for a worker that is at work just now. -/
structure Shows (upcoming : List Commit) (atWork : Option Nat) (s : Pipeline σ) (crew : Crew σ) : Prop where
  index : crew.index = s.index
  progress : crew.progress = s.progress
  flusher : crew.flusher = s.flusher
  upcoming : crew.upcoming = upcoming
  idle : ∀ worker ∈ s.idle, crew.hands[worker]? = some none
  apart : s.idle.Nodup
  writing : ∀ task ∈ s.tasks, ∃ event,
    crew.hand? task.worker = some ⟨task.position, event :: task.rest, some task.post⟩
  busy : ∀ worker hand, crew.hand? worker = some hand →
    atWork = some worker ∨ ∃ task ∈ s.tasks, task.worker = worker

/-- **crewOf** — the crew of a run, before its first move. -/
def crewOf (config : PipelineConfig) (cues : List Cue) (cursor : Option Int) (index : Index σ) : Crew σ :=
  Crew.start config.workerCount (Cue.commits cues) cursor index

theorem shows_start (config : PipelineConfig) (cues : List Cue) (cursor : Option Int) (index : Index σ) :
    Shows (Cue.commits cues) none (Pipeline.start config cursor index) (crewOf config cues cursor index) where
  index := rfl
  progress := rfl
  flusher := rfl
  upcoming := rfl
  idle worker listed := by
    show (List.replicate config.workerCount none)[worker]? = some none
    rw [List.getElem?_replicate, if_pos (List.mem_range.mp listed)]
  apart := List.nodup_range
  writing task listed := by cases listed
  busy worker hand busy := by
    rw [crewOf, Crew.hand?_start] at busy
    cases busy

namespace Shows

variable {atWork : Option Nat} {hand : Hand}

/-- A worker that is busy is not among the idle ones. -/
theorem ne_of_idle (shows : Shows upcoming atWork s crew) (busy : crew.hand? worker = some hand) {other : Nat}
    (listed : other ∈ s.idle) : other ≠ worker := by
  rintro rfl
  have idle := shows.idle other listed
  rw [Crew.mem_hands_of_hand? busy] at idle
  cases idle

/-- A worker that writes nothing has no task. -/
theorem ne_of_task (shows : Shows upcoming atWork s crew) (silent : ∀ hand, crew.hand? worker = some hand →
    hand.writing = none) {task : Task} (listed : task ∈ s.tasks) : task.worker ≠ worker := by
  rintro rfl
  obtain ⟨event, busy⟩ := shows.writing task listed
  cases silent _ busy

/-- **A worker turns to something else**, and whatever it does leaves the others as they are. -/
theorem turn (shows : Shows upcoming atWork s crew) (others : atWork = none ∨ atWork = some worker) (hand : Option Hand)
    (index : Index σ) (left : List Commit) {idle : List Nat} (fewer : idle.Sublist s.idle) (awake : worker ∉ idle)
    {tasks : List Task} (kept : ∀ task, task ∈ tasks ↔ task ∈ s.tasks ∧ task.worker ≠ worker) :
    Shows left (some worker) { s with index, idle, tasks }
      { crew.setHand worker hand with index, upcoming := left } where
  index := rfl
  progress := shows.progress
  flusher := shows.flusher
  upcoming := rfl
  idle other listed := by
    show (crew.hands.set worker hand)[other]? = some none
    have other_ne : worker ≠ other := by
      rintro rfl
      exact awake listed
    rw [List.getElem?_set_ne other_ne]
    exact shows.idle other (fewer.subset listed)
  apart := shows.apart.sublist fewer
  writing task listed := by
    obtain ⟨before, other⟩ := (kept task).mp listed
    obtain ⟨event, busy⟩ := shows.writing task before
    exact ⟨event, (Crew.hand?_setHand_of_ne other).trans busy⟩
  busy other found busy := by
    rcases Crew.hand?_of_setHand busy with ⟨rfl, -⟩ | ⟨own, held⟩
    · exact .inl rfl
    · rcases shows.busy other found held with working | ⟨task, listed, same⟩
      · rcases others with nobody | somebody
        · rw [nobody] at working
          cases working
        · exact absurd (Option.some.inj (working.symm.trans somebody)) own
      · exact .inr ⟨task, (kept task).mpr ⟨listed, same ▸ own⟩, same⟩

/-- A worker that has no task is at work on what it holds. -/
theorem goOn (shows : Shows upcoming (some worker) s crew) (busy : crew.hand? worker = some hand)
    (silent : hand.writing = none) (next : Hand) (index : Index σ) :
    Shows upcoming (some worker) { s with index } { crew.setHand worker (some next) with index } := by
  have same := shows.upcoming
  subst same
  refine shows.turn (.inr rfl) (some next) index crew.upcoming (List.Sublist.refl _)
    (fun listed => shows.ne_of_idle busy listed rfl) (fun task => iff_self_and.mpr (shows.ne_of_task ?_))
  intro held found
  rw [← Option.some.inj (busy.symm.trans found)]
  exact silent

/-- A worker at work records its commit, and is idle again. -/
theorem finish (shows : Shows upcoming (some worker) s crew) {position : Int}
    (done : crew.hand? worker = some ⟨position, [], none⟩) :
    Shows upcoming none (s.finish worker position)
      { crew.setHand worker none with progress := crew.progress.record worker position } where
  index := shows.index
  progress := by
    show crew.progress.record worker position = s.progress.record worker position
    rw [shows.progress]
  flusher := shows.flusher
  upcoming := shows.upcoming
  idle other listed := by
    show (crew.hands.set worker none)[other]? = some none
    have inRange := (List.getElem?_eq_some_iff.mp (Crew.mem_hands_of_hand? done)).1
    rcases List.mem_append.mp listed with before | last
    · rw [List.getElem?_set_ne (shows.ne_of_idle done before).symm]
      exact shows.idle other before
    · rw [List.mem_singleton.mp last, List.getElem?_set_self inRange]
  apart := by
    refine List.nodup_append.mpr ⟨shows.apart, List.pairwise_singleton _ worker, ?_⟩
    intro other listed last hlast
    rw [List.mem_singleton.mp hlast]
    exact shows.ne_of_idle done listed
  writing task listed := by
    obtain ⟨event, busy⟩ := shows.writing task listed
    have other : task.worker ≠ worker := shows.ne_of_task (by simp [done]) listed
    exact ⟨event, (Crew.hand?_setHand_of_ne other).trans busy⟩
  busy other found busy := by
    rcases Crew.hand?_of_setHand busy with ⟨-, same⟩ | ⟨own, held⟩
    · cases same
    · rcases shows.busy other found held with working | task
      · exact absurd (Option.some.inj working).symm own
      · exact .inr task

/-- A worker at work begins to write a post that takes its time. -/
theorem wait (shows : Shows upcoming (some worker) s crew) {position : Int} {event : Event} {rest : List Event}
    (busy : crew.hand? worker = some ⟨position, event :: rest, none⟩) (task : Task) (own : task.worker = worker)
    (at_ : task.position = position) (left : task.rest = rest) (index : Index σ) :
    Shows upcoming none { s with index, tasks := s.tasks ++ [task] }
      { crew.setHand worker (some ⟨position, event :: rest, some task.post⟩) with index } where
  index := rfl
  progress := shows.progress
  flusher := shows.flusher
  upcoming := shows.upcoming
  idle other listed := by
    show (crew.hands.set worker _)[other]? = some none
    rw [List.getElem?_set_ne (shows.ne_of_idle busy listed).symm]
    exact shows.idle other listed
  apart := shows.apart
  writing other listed := by
    rcases List.mem_append.mp listed with before | last
    · obtain ⟨first, writes⟩ := shows.writing other before
      have apart : other.worker ≠ worker := shows.ne_of_task (by simp [busy]) before
      exact ⟨first, (Crew.hand?_setHand_of_ne apart).trans writes⟩
    · obtain rfl := List.mem_singleton.mp last
      have inRange := (List.getElem?_eq_some_iff.mp (Crew.mem_hands_of_hand? busy)).1
      rw [own, at_, left]
      exact ⟨event, Crew.hand?_setHand_self inRange⟩
  busy other found held := by
    rcases Crew.hand?_of_setHand held with ⟨rfl, -⟩ | ⟨apart, before⟩
    · exact .inr ⟨task, List.mem_append_right _ (List.mem_singleton_self task), own⟩
    · rcases shows.busy other found before with working | ⟨task', listed, same⟩
      · exact absurd (Option.some.inj working).symm apart
      · exact .inr ⟨task', List.mem_append_left _ listed, same⟩

/-- What is counted of a run is not seen in its crew. -/
theorem counted (shows : Shows upcoming atWork s crew) (alike : Alike s t) : Shows upcoming atWork t crew where
  index := shows.index.trans alike.index.symm
  progress := shows.progress.trans alike.progress.symm
  flusher := shows.flusher.trans alike.flusher.symm
  upcoming := shows.upcoming
  idle := alike.idle ▸ shows.idle
  apart := alike.idle ▸ shows.apart
  writing := alike.tasks ▸ shows.writing
  busy := alike.tasks ▸ shows.busy

end Shows

/-! ## The moves of a run -/

variable [Store σ]

/-- **Reaches** — a crew can make moves after which it shows where a run stands later. It gives no commit up if none
was given up in the run since. -/
def Reaches (config : PipelineConfig) (s : Pipeline σ) (crew : Crew σ) (left : List Commit) (t : Pipeline σ) : Prop :=
  ∃ moves, Shows left none t (crew.run config.handler moves) ∧
    (t.InTime → s.InTime ∧ ∀ move ∈ moves, move.givesUp = false)

theorem Reaches.refl (shows : Shows upcoming none s crew) : Reaches config s crew upcoming s :=
  ⟨[], shows, fun inTime => ⟨inTime, nofun⟩⟩

/-- What can be reached after some moves can be reached. -/
theorem Reaches.after {moves : List Move} (patient : t.InTime → s.InTime ∧ ∀ move ∈ moves, move.givesUp = false)
    (later : Reaches config t (crew.run config.handler moves) upcoming u) : Reaches config s crew upcoming u := by
  obtain ⟨others, shows, patient'⟩ := later
  refine ⟨moves ++ others, ?_, ?_⟩
  · rw [Crew.run_append]
    exact shows
  · intro inTime
    obtain ⟨between, kept'⟩ := patient' inTime
    obtain ⟨before, kept⟩ := patient between
    refine ⟨before, ?_⟩
    intro move listed
    rcases List.mem_append.mp listed with early | late
    · exact kept move early
    · exact kept' move late

theorem Reaches.trans {left : List Commit} (first : Reaches config s crew upcoming t)
    (next : ∀ crew', Shows upcoming none t crew' → Reaches config t crew' left u) :
    Reaches config s crew left u := by
  obtain ⟨moves, shows, patient⟩ := first
  exact .after patient (next _ shows)

/-- A move that gives no commit up, and what can be reached after it. -/
theorem Reaches.move {move : Move} {crew' : Crew σ} (stepped : crew.step config.handler move = crew')
    (patient : move.givesUp = false) (inTime : t.InTime → s.InTime) (later : Reaches config t crew' upcoming u) :
    Reaches config s crew upcoming u := by
  have once : Reaches config t (crew.run config.handler [move]) upcoming u := by
    show Reaches config t (crew.step config.handler move) upcoming u
    rw [stepped]
    exact later
  refine .after (fun still => ⟨inTime still, ?_⟩) once
  intro other listed
  rw [List.mem_singleton.mp listed]
  exact patient

/-! ### A worker -/

namespace Shows

/-- **A worker goes on** with its commit, to the end or to a post that takes its time. -/
theorem proceed (config : PipelineConfig) (givenUpAt : Nat) {position : Int} {events : List Event}
    (shows : Shows upcoming (some worker) s crew) (busy : crew.hand? worker = some ⟨position, events, none⟩) :
    Reaches config s crew upcoming (proceed config worker position givenUpAt events s) := by
  induction events generalizing s crew with
  | nil =>
    have stepped : crew.step config.handler (.finish worker) =
        { crew.setHand worker none with progress := crew.progress.record worker position } := by
      simp only [Crew.step, busy]
    exact .move (t := s.finish worker position) stepped rfl id (.refl (shows.finish busy))
  | cons event rest ih =>
    have inRange := (List.getElem?_eq_some_iff.mp (Crew.mem_hands_of_hand? busy)).1
    unfold Pipeline.proceed
    dsimp only
    generalize config.clock position rest.length = now
    have run := Handler.run_eq_plan config.handler event now s.index
    -- most events are handled at once, and the worker is at work with those after them
    have goOn {t : Pipeline σ} (alike : Alike { s with index := (config.handler.run event now s.index).2 } t)
        (inTime : t.InTime → s.InTime) :
        Reaches config s crew upcoming (Pipeline.proceed config worker position givenUpAt rest t) := by
      have stepped : crew.step config.handler (.handle worker now) =
          { crew.setHand worker (some ⟨position, rest, none⟩) with
            index := (config.handler.run event now s.index).2 } := by
        simp only [Crew.step, busy, shows.index]
      exact .move stepped rfl inTime
        (ih ((shows.goOn busy rfl ⟨position, rest, none⟩ _).counted alike) (Crew.hand?_setHand_self inRange))
    rcases planned : (config.handler.plan event now).run.run s.index with ⟨failure | _ | post, index⟩ <;>
      rw [planned] at run <;> dsimp only at run ⊢ <;> rw [run] at goOn
    · exact goOn (alike_countResult _ _ _) (inTime_countResult _ (.error failure : Except _ Unit))
    · exact goOn (alike_countResult _ _ _) id
    · have written := goOn (alike_writePost post { s with index }) (inTime_writePost post)
      split
      · exact written
      · next duration _ =>
        split
        · have stepped : crew.step config.handler (.plan worker now) =
              { crew.setHand worker (some ⟨position, event :: rest, some post⟩) with index } := by
            rw [← shows.index] at planned
            simp only [Crew.step, busy, planned]
          exact .move stepped rfl id (.refl (shows.wait busy
            ⟨worker, position, post, rest, duration.map (s.now + ·), givenUpAt⟩ rfl rfl rfl index))
        · exact written

/-- **A worker that has a task goes on**: its post is written, or the commit is given up. -/
theorem resume (config : PipelineConfig) (shows : Shows upcoming none s crew) {task : Task} (listed : task ∈ s.tasks) :
    Reaches config s crew upcoming (s.resume config task) := by
  obtain ⟨event, busy⟩ := shows.writing task listed
  have inRange := (List.getElem?_eq_some_iff.mp (Crew.mem_hands_of_hand? busy)).1
  -- the worker is at work, and its task is gone
  have atWork (rest : List Event) (index : Index σ) :
      Shows upcoming (some task.worker) { s with index, tasks := s.tasks.filter (·.worker ≠ task.worker) }
        { crew.setHand task.worker (some ⟨task.position, rest, none⟩) with index } := by
    have same := shows.upcoming
    subst same
    refine shows.turn (.inl rfl) _ index crew.upcoming (List.Sublist.refl _)
      (fun waits => shows.ne_of_idle busy waits rfl) fun other => ?_
    rw [List.mem_filter, decide_eq_true_iff]
  unfold Pipeline.resume
  dsimp only
  split
  · have stepped : crew.step config.handler (.write task.worker) =
        { crew.setHand task.worker (some ⟨task.position, task.rest, none⟩) with
          index := ((Handler.storing (Store.createPost task.post)).run.run s.index).2 } := by
      simp only [Crew.step, busy, shows.index]
    have written := (atWork task.rest _).counted (alike_writePost task.post
      { s with tasks := s.tasks.filter (·.worker ≠ task.worker) })
    exact .move stepped rfl
      (inTime_writePost (s := { s with tasks := s.tasks.filter (·.worker ≠ task.worker) }) task.post)
      (written.proceed config task.givenUpAt (Crew.hand?_setHand_self inRange))
  · have stepped : crew.step config.handler (.giveUp task.worker) =
        { crew.setHand task.worker (some ⟨task.position, [], none⟩) with index := s.index } := by
      simp only [Crew.step, busy, ← shows.index]
      rfl
    have givenUp : Shows upcoming (some task.worker)
        { s with tasks := s.tasks.filter (·.worker ≠ task.worker), metrics := s.metrics.countTimeout }
        { crew.setHand task.worker (some ⟨task.position, [], none⟩) with index := s.index } :=
      (atWork [] s.index).counted ⟨rfl, rfl, rfl, rfl, rfl⟩
    obtain ⟨moves, shows', -⟩ := givenUp.proceed config task.givenUpAt (Crew.hand?_setHand_self inRange)
    refine ⟨.giveUp task.worker :: moves, ?_, fun still => absurd still (not_inTime_countTimeout s)⟩
    show Shows upcoming none _ ((crew.step config.handler _).run config.handler moves)
    rw [stepped]
    exact shows'

/-- **A commit is handed over** to a worker that is idle. -/
theorem dispatch (config : PipelineConfig) {commit : Commit} (shows : Shows (commit :: upcoming) none s crew)
    (free : s.idle ≠ []) : Reaches config s crew upcoming (s.dispatch config commit) := by
  unfold Pipeline.dispatch
  rcases waiting : s.idle with _ | ⟨worker, others⟩
  · exact absurd waiting free
  dsimp only
  have idle : crew.hands[worker]? = some none := by
    apply shows.idle
    rw [waiting]
    exact List.mem_cons_self
  have apart := shows.apart
  rw [waiting, List.nodup_cons] at apart
  have stepped : crew.step config.handler (.take worker) =
      { crew.setHand worker (some ⟨commit.seq, commit.events, none⟩) with index := s.index, upcoming } := by
    simp only [Crew.step, idle, shows.upcoming, ← shows.index]
    rfl
  have silent : ∀ hand, crew.hand? worker = some hand → hand.writing = none := by simp [Crew.hand?, idle]
  have fewer : others.Sublist s.idle := by
    rw [waiting]
    exact List.sublist_cons_self worker others
  have taken : Shows upcoming (some worker) { s with idle := others }
      { crew.setHand worker (some ⟨commit.seq, commit.events, none⟩) with index := s.index, upcoming } :=
    shows.turn (.inl rfl) _ s.index upcoming fewer apart.1 fun task => iff_self_and.mpr (shows.ne_of_task silent)
  exact .move stepped rfl id (taken.proceed config _
    (Crew.hand?_setHand_self (List.getElem?_eq_some_iff.mp idle).1))

/-! ### The flusher -/

/-- A flush of the run is a flush of the crew. -/
theorem flushOnce (config : PipelineConfig) (shows : Shows upcoming none s crew) :
    Reaches config s crew upcoming { s with
      flusher := (s.flusher.flush s.progress s.index.store).2.1
      index := { s.index with store := (s.flusher.flush s.progress s.index.store).2.2 } } := by
  refine .move (rfl : crew.step config.handler .flush = crew.flush) rfl id (.refl ?_)
  refine ⟨?_, shows.progress, ?_, shows.upcoming, shows.idle, shows.apart, shows.writing, shows.busy⟩
  · show Index.mk (crew.flusher.flush crew.progress crew.index.store).2.2 crew.index.roster = _
    rw [shows.index, shows.progress, shows.flusher]
  · show (crew.flusher.flush crew.progress crew.index.store).2.1 = _
    rw [shows.index, shows.progress, shows.flusher]

theorem flush (config : PipelineConfig) (shows : Shows upcoming none s crew) :
    Reaches config s crew upcoming s.flush := by
  unfold Pipeline.flush
  split
  · exact .refl shows
  · exact shows.flushOnce config

/-- While time passes the flusher alone works. -/
theorem passTo (config : PipelineConfig) (shows : Shows upcoming none s crew) (time : Nat) :
    Reaches config s crew upcoming (s.passTo time) := by
  have flushes (count : Nat) : Reaches config s crew upcoming { s with
      flusher := (Flusher.flushTimes s.progress count s.flusher s.index.store).1
      index := { s.index with store := (Flusher.flushTimes s.progress count s.flusher s.index.store).2 } } := by
    induction count generalizing s crew with
    | zero => exact .refl shows
    | succ count ih => exact (shows.flushOnce config).trans fun _ flushed => ih flushed
  exact (flushes (s.ticker.countUntil time)).trans fun _ flushed => .refl (flushed.counted ⟨rfl, rfl, rfl, rfl, rfl⟩)

/-! ### The run -/

theorem step (config : PipelineConfig) (shows : Shows upcoming none s crew) {task : Task} (listed : task ∈ s.tasks) :
    Reaches config s crew upcoming (s.step config task) :=
  (shows.passTo config task.time).trans fun _ later => later.resume config listed

theorem steps (config : PipelineConfig) (shows : Shows upcoming none s crew) (until? : Option Nat) (fuel : Nat) :
    Reaches config s crew upcoming (steps config until? fuel s) := by
  induction fuel generalizing s crew with
  | zero => exact .refl shows
  | succ fuel ih =>
    unfold Pipeline.steps
    split
    · exact .refl shows
    · next task first =>
      split
      · exact (shows.step config (Task.earliest?_mem first)).trans fun _ later => ih later
      · exact .refl shows

theorem advanceTo (config : PipelineConfig) (shows : Shows upcoming none s crew) (time : Nat) :
    Reaches config s crew upcoming (s.advanceTo config time) :=
  (shows.steps config (some time) s.load).trans fun _ later => later.passTo config time

/-- The reader waits until a worker is idle. -/
theorem stepsToIdle (shows : Shows upcoming none s crew) {until? : Option Nat} {fuel : Nat}
    (waited : stepsToIdle config until? fuel s = some t) : Reaches config s crew upcoming t := by
  induction fuel generalizing s crew with
  | zero =>
    unfold Pipeline.stepsToIdle at waited
    split at waited
    · cases waited
    · obtain rfl := Option.some.inj waited
      exact .refl shows
  | succ fuel ih =>
    unfold Pipeline.stepsToIdle at waited
    split at waited
    · obtain rfl := Option.some.inj waited
      exact .refl shows
    · split at waited
      · cases waited
      · next task first =>
        split at waited
        · exact (shows.step config (Task.earliest?_mem first)).trans fun _ later => ih later waited
        · cases waited

/-- **The reader** hands over what the stream gives until it ends, or less if the run is cancelled. -/
theorem read (config : PipelineConfig) (cancelAt : Option Nat) {cues : List Cue}
    (shows : Shows (Cue.commits cues) none s crew) :
    ∃ left, Reaches config s crew left (read config cancelAt cues s).2 ∧
      ((read config cancelAt cues s).1 ≠ .ok () → left = []) := by
  induction cues generalizing s crew with
  | nil => exact ⟨[], .refl shows, fun _ => rfl⟩
  | cons cue rest ih =>
    cases cue with
    | finish => exact ⟨[], .refl shows, fun _ => rfl⟩
    | failure cause => exact ⟨[], .refl shows, fun _ => rfl⟩
    | silence duration =>
      have waited (time : Nat) : ∃ left, Reaches config s crew left (Pipeline.read config cancelAt rest
          (s.advanceTo config time)).2 ∧
            ((Pipeline.read config cancelAt rest (s.advanceTo config time)).1 ≠ .ok () → left = []) := by
        obtain ⟨moves, later, patient⟩ := shows.advanceTo config time
        obtain ⟨left, reached, ended⟩ := ih later
        exact ⟨left, .after patient reached, ended⟩
      unfold Pipeline.read
      split
      · split
        · exact ⟨_, shows.advanceTo config _, fun ended => absurd rfl ended⟩
        · exact waited _
      · exact waited _
    | commit commit =>
      unfold Pipeline.read
      split
      · next ready found =>
        have handed : Reaches config s crew (Cue.commits rest) (ready.dispatch config commit) :=
          (shows.stepsToIdle found).trans fun _ idle => idle.dispatch config (idle_of_stepsToIdle found)
        obtain ⟨moves, later, patient⟩ := handed
        obtain ⟨left, reached, ended⟩ := ih later
        exact ⟨left, .after patient reached, ended⟩
      · -- the commit that the reader holds is dropped
        split
        · exact ⟨_, shows.advanceTo config _, fun ended => absurd rfl ended⟩
        · exact ⟨_, .refl shows, fun ended => absurd rfl ended⟩

end Shows

/-- **Tells** — a report tells of a crew that has come to rest: of its index, its positions and its writes. If the run
has ended with its stream, the crew has been handed all commits. -/
structure Tells (report : RunReport σ) (crew : Crew σ) : Prop where
  index : crew.index = report.index
  positions : crew.progress.positions = report.metrics.workerCursors
  writes : crew.flusher.writes = report.writes
  rested : ∀ worker, crew.hand? worker = none
  handedOver : report.result ≠ .ok () → crew.upcoming = []

omit [Store σ] in
/-- A crew in which nobody has a task tells what its run reports. -/
theorem Shows.tells {left : List Commit} (shows : Shows left none s crew) (rested : s.tasks = [])
    {result : Except RunFailure Unit} (ended : result ≠ .ok () → left = []) (asked : Option Int) :
    Tells (s.report result asked) crew where
  index := shows.index
  positions := congrArg Watermark.positions shows.progress
  writes := congrArg Flusher.writes shows.flusher
  rested worker := by
    rcases busy : crew.hand? worker with _ | hand
    · rfl
    · rcases shows.busy worker hand busy with working | ⟨task, listed, -⟩
      · cases working
      · rw [rested] at listed
        cases listed
  handedOver failed := shows.upcoming.trans (ended failed)

/-- **A run is a schedule of its crew.** There are moves after which the crew, with the commits that the stream gives,
is what the run reports; and they give no commit up if the run counts none. -/
theorem follow_scheduled (config : PipelineConfig) (cancelAt : Option Nat) (cursor asked : Option Int)
    (cues : List Cue) (index : Index σ) :
    ∃ moves, Tells (follow config cancelAt cursor asked cues index)
        ((crewOf config cues cursor index).run config.handler moves) ∧
      ((follow config cancelAt cursor asked cues index).metrics.dropped.get? DropReason.timeout.label = none →
        ∀ move ∈ moves, move.givesUp = false) := by
  obtain ⟨left, reached, ended⟩ := (shows_start config cues cursor index).read config cancelAt
  unfold follow
  generalize Pipeline.read config cancelAt cues (Pipeline.start config cursor index) = read at reached ended
  obtain ⟨result, s⟩ := read
  -- the workers finish what they have, and the watermark is flushed for the last time
  have drained : Reaches config _ _ left (s.drain config) :=
    reached.trans fun _ later => later.steps config none s.load
  obtain ⟨moves, shows, patient⟩ := drained.trans fun _ later => later.flush config
  refine ⟨moves, shows.tells ((flush_tasks _).trans (drain_tasks config s)) ended asked, fun inTime => ?_⟩
  exact (patient inTime).2

/-! ## What holds of every run -/

section

variable {cancelAt : Option Nat} {source : Option Int → Except ConnectFailure (List Cue)} {index : Index σ} {store : σ}
  {cursor asked : Option Int} {cues : List Cue}
  (known : (Store.getCursor : Storing σ (Option Int)).run.run index.store = (.ok cursor, store))
  (after : asked? cursor = some asked) (opens : source asked = .ok cues)

include known after opens

/-- **A run that has come to its end can be followed by another.** However many workers it had, and whenever it was
cancelled: every commit of its stream up to a position that it has written was handed over, and nobody is busy with
it any more. -/
theorem settled_of_written (config : PipelineConfig) (ordered : (Cue.commits cues).Pairwise (·.seq < ·.seq))
    (natural : ∀ commit ∈ Cue.commits cues, 0 ≤ commit.seq) :
    ∃ moves, Tells (run config cancelAt source index)
        ((crewOf config cues cursor { index with store }).run config.handler moves) ∧
      ∀ position ∈ (run config cancelAt source index).writes, ∀ commit ∈ Cue.commits cues, commit.seq ≤ position →
        ((crewOf config cues cursor { index with store }).run config.handler moves).Settled commit := by
  rw [run_eq_follow known after opens]
  obtain ⟨moves, tells, -⟩ := follow_scheduled config cancelAt cursor asked cues { index with store }
  refine ⟨moves, tells, ?_⟩
  intro position written commit _ reached
  rw [← tells.writes] at written
  refine ⟨fun upcoming => ?_, fun worker hand busy => ?_⟩
  · have before := Crew.written_before_upcoming config.handler config.workerCount ordered natural cursor
      { index with store } moves position written commit upcoming
    omega
  · rw [tells.rested worker] at busy
    cases busy

/-- **A deletion is lost in a run** only to a creation that one of its workers handles after it. -/
theorem live_in_run_iff [LedgerStore σ] (config : PipelineConfig) {record : RecordUri} {table : Table}
    (indexed : (Collection.ofName record.collection).table? = some table) (valid : Did.isValid record.did = true)
    (sound : LedgerStore.Sound store) (tracked : (index.roster.get? record.did).isSome = true)
    (inTime : (run config cancelAt source index).metrics.dropped.get? DropReason.timeout.label = none)
    (ended : (run config cancelAt source index).result ≠ .ok ())
    (deleted : (Crew.ofRecord record ((Cue.commits cues).flatMap (·.events))).getLast?.map (·.action) = some .delete) :
    ∃ moves, Tells (run config cancelAt source index)
        ((crewOf config cues cursor { index with store }).run config.handler moves) ∧
      ((LedgerStore.ledger (run config cancelAt source index).index.store).mark table record.render = some none ↔
        Crew.Revived config.handler (crewOf config cues cursor { index with store }) table record moves) := by
  rw [run_eq_follow known after opens] at inTime ended ⊢
  obtain ⟨moves, tells, patient⟩ := follow_scheduled config cancelAt cursor asked cues { index with store }
  have done : ((crewOf config cues cursor { index with store }).run config.handler moves).AllHandled := by
    refine ⟨tells.handedOver ended, ?_⟩
    intro worker hand busy
    rw [tells.rested worker] at busy
    cases busy
  have tracks : Crew.Tracks config.handler (crewOf config cues cursor { index with store }) record :=
    Crew.tracks_start config.handler config.workerCount (Cue.commits cues) cursor sound tracked
  refine ⟨moves, tells, ?_⟩
  rw [← tells.index]
  exact Crew.live_iff_revived indexed valid tracks (Crew.deletion_handled (patient inTime) done deleted)

end

end Pipeline

end FeedIndex
