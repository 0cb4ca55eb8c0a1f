import FeedIndex.Proofs.Separation
import FeedIndex.Proofs.Workload

/-!
# A worker alone

A run with one worker takes the commits of a stream in their order, so that it comes to what handling all their
events in a row comes to, however slow the posts are and whenever the watermark is flushed. What the worker still
owes, for the commit it is busy with, is done to the index as it stands; with it the index is the one that is
expected, up to the position. The position is that of a commit that is finished, or the one the run began with, and
the last flush brings it to the last commit.
-/

namespace FeedIndex

open PositionedStore (position)

/-! ## What is expected -/

namespace Cue

/-- **commit?** — the commit that a stream gives. -/
def commit? : Cue → Option Commit
  | .commit given => some given
  | .silence _ | .failure _ | .finish => none

/-- **ending?** — how a run ends with a stream, if the stream goes no further. -/
def ending? : Cue → Option RunFailure
  | .commit _ | .silence _ => none
  | .failure cause => some (.stream cause)
  | .finish => some .streamEnded

end Cue

/-- **furthest** — the position after some commits: that of the last one, unless the position was ahead already. -/
def furthest (cursor : Option Int) (commits : List Commit) : Option Int :=
  match commits.getLast? with
  | none => cursor
  | some last => some (max (cursor.getD last.seq) last.seq)

namespace Pipeline

variable {σ : Type} [Store σ]

/-- **inOrder** — the index after the events of all commits, one after the other, each at its time. -/
def inOrder (config : PipelineConfig) (commits : List Commit) (index : Index σ) : Index σ :=
  commits.foldl (fun index commit => config.handler.runAll (config.clock commit.seq) commit.events index) index

theorem inOrder_concat (config : PipelineConfig) (commits : List Commit) (commit : Commit) (index : Index σ) :
    inOrder config (commits ++ [commit]) index =
      config.handler.runAll (config.clock commit.seq) commit.events (inOrder config commits index) := by
  unfold inOrder
  rw [List.foldl_append, List.foldl_cons, List.foldl_nil]

/-- What a busy worker still owes: the post it stands at, and the events after it. -/
def owed (config : PipelineConfig) (task : Task) (index : Index σ) : Index σ :=
  config.handler.runAll (config.clock task.position) task.rest
    ((Handler.storing (Store.createPost task.post)).run.run index).2

/-! ## Where a run stands -/

/-- **Reached** — a position that a run may have come to: the one it began with, or that of a commit that is finished
and was ahead of it. A flusher without a period never moves. -/
def Reached (config : PipelineConfig) (cursor : Option Int) (finished : List Commit) (p : Option Int) : Prop :=
  p = cursor ∨ config.period ≠ 0 ∧ ∃ commit ∈ finished, p = some commit.seq ∧ ∀ q, cursor = some q → q < commit.seq

variable [ApartStore σ]

/-- **Stage** — where a run with one worker stands once some commits are finished. What is left to be done would
bring the index where it is expected to be, wherever the position is. -/
structure Stage (config : PipelineConfig) (cursor : Option Int) (finished : List Commit)
    (left : Index σ → Index σ) (expected : Index σ) (s : Pipeline σ) : Prop where
  progress : s.progress = ⟨[finished.getLast?.map (·.seq)]⟩
  period : s.ticker.period = config.period
  known : s.flusher.flushed = position s.index.store
  serving (n : Int) : (Store.setCursor n : Storing σ Unit).answer s.index.store = .ok ()
  reached : Reached config cursor finished (position s.index.store)
  outcome : s.InTime → left s.index = expected.moveTo (position s.index.store)

variable {config : PipelineConfig} {cursor : Option Int} {finished : List Commit} {left left' : Index σ → Index σ}
  {expected : Index σ} {s s' : Pipeline σ}

/-- What is done to the rows is done from what is left. -/
theorem Stage.goOn (stage : Stage config cursor finished left expected s) (progress : s'.progress = s.progress)
    (ticker : s'.ticker.period = s.ticker.period) (flusher : s'.flusher = s.flusher)
    (kept : position s'.index.store = position s.index.store)
    (serving : ∀ n, (Store.setCursor n : Storing σ Unit).answer s'.index.store =
      (Store.setCursor n : Storing σ Unit).answer s.index.store)
    (inTime : s'.InTime → s.InTime) (outcome : left' s'.index = left s.index) :
    Stage config cursor finished left' expected s' where
  progress := progress.trans stage.progress
  period := ticker.trans stage.period
  known := by rw [flusher, kept, stage.known]
  serving n := (serving n).trans (stage.serving n)
  reached := by
    rw [kept]
    exact stage.reached
  outcome still := by
    rw [outcome, kept]
    exact stage.outcome (inTime still)

/-- The worker records the commit that it has finished. -/
theorem Stage.finish {last : Commit} (stage : Stage config cursor finished left expected s)
    (done : s.InTime → left s.index = s.index) :
    Stage config cursor (finished ++ [last]) id expected (s.finish 0 last.seq) where
  progress := by
    show s.progress.record 0 last.seq = _
    rw [stage.progress, List.getLast?_concat]
    rfl
  period := stage.period
  known := stage.known
  serving := stage.serving
  reached := by
    rcases stage.reached with same | ⟨active, commit, listed, at_, ahead⟩
    · exact .inl same
    · exact .inr ⟨active, commit, List.mem_append_left _ listed, at_, ahead⟩
  outcome still := (done still).symm.trans (stage.outcome still)

/-! ## Flushes -/

/-- After a flush that the store serves, the position is no longer behind the watermark. -/
theorem caughtUp_flush {progress : Watermark} {flusher : Flusher} {store : σ} (known : flusher.flushed = position store)
    (serving : ∀ n, (Store.setCursor n : Storing σ Unit).answer store = .ok ()) {w : Int}
    (low : progress.low? = some w) :
    ∃ p, position (flusher.flush progress store).2.2 = some p ∧ w ≤ p := by
  have flushed : Flusher.Flushed progress flusher store _ := Flusher.flushed_flush known
  generalize flusher.flush progress store = result at flushed
  cases flushed with
  | idle passed => exact passed w low
  | @stored w' store' low' ahead asked kept =>
    obtain rfl : w' = w := Option.some.inj (low'.symm.trans low)
    exact ⟨w', kept, Int.le_refl w'⟩
  | @failed w' failure low' ahead asked =>
    have refused : (Store.setCursor w' : Storing σ Unit).answer store = .error failure := congrArg Prod.fst asked
    rw [serving] at refused
    cases refused

/-- A flush moves the position to the commit that was finished last, or not at all. -/
theorem Stage.flush (stage : Stage config cursor finished left expected s) (active : config.period ≠ 0)
    (spares : ∀ p index, left (index.moveTo p) = (left index).moveTo p) :
    Stage config cursor finished left expected
      { s with
        flusher := (s.flusher.flush s.progress s.index.store).2.1
        index := { s.index with store := (s.flusher.flush s.progress s.index.store).2.2 } } := by
  have flushed : Flusher.Flushed s.progress s.flusher s.index.store _ := Flusher.flushed_flush stage.known
  generalize s.flusher.flush s.progress s.index.store = result at flushed
  cases flushed with
  | idle passed => exact stage
  | @failed w failure low ahead asked =>
    have refused : (Store.setCursor w : Storing σ Unit).answer s.index.store = .error failure := congrArg Prod.fst asked
    rw [stage.serving] at refused
    cases refused
  | @stored w store' low ahead asked kept =>
    have done : (Store.setCursor w : Storing σ Unit).answer s.index.store = .ok () := congrArg Prod.fst asked
    have left_at : (Store.setCursor w : Storing σ Unit).after s.index.store = store' := congrArg Prod.snd asked
    obtain rfl : ApartStore.moveTo (some w) s.index.store = store' :=
      (ApartStore.setCursor_after done).symm.trans left_at
    -- the watermark is the commit that was finished last
    obtain ⟨last, hlast, rfl⟩ : ∃ last, finished.getLast? = some last ∧ last.seq = w := by
      have slot := (Watermark.low?_eq_some_iff.mp low).1.1
      rw [stage.progress, List.mem_singleton] at slot
      exact Option.map_eq_some_iff.mp slot.symm
    have behind : ∀ q, cursor = some q → q < last.seq := by
      intro q began
      rcases stage.reached with same | ⟨-, commit, -, at_, passed⟩
      · exact ahead q (same.trans began)
      · exact Int.lt_trans (passed q began) (ahead commit.seq at_)
    refine ⟨stage.progress, stage.period, ?_, fun n => ?_, ?_, fun still => ?_⟩
    · exact kept.symm
    · exact (ApartStore.setCursor_moveTo n _ _).trans (stage.serving n)
    · exact .inr ⟨active, last, List.mem_of_getLast? hlast, kept, behind⟩
    · show left (s.index.moveTo (some last.seq)) = expected.moveTo (position _)
      rw [spares, stage.outcome still, kept]
      exact congrArg (Index.mk · _) (ApartStore.moveTo_moveTo _ _ _)

/-- **The run stands where it stood** after a time in which only the flusher works. -/
theorem Stage.passTo (stage : Stage config cursor finished left expected s) (time : Nat)
    (spares : ∀ p index, left (index.moveTo p) = (left index).moveTo p) :
    Stage config cursor finished left expected (s.passTo time) := by
  have flushes (count : Nat) (active : count ≠ 0 → config.period ≠ 0) :
      Stage config cursor finished left expected
        { s with
          flusher := (Flusher.flushTimes s.progress count s.flusher s.index.store).1
          index := { s.index with store := (Flusher.flushTimes s.progress count s.flusher s.index.store).2 } } := by
    induction count generalizing s with
    | zero => exact stage
    | succ count ih =>
      have active := active (Nat.succ_ne_zero count)
      exact ih (stage.flush active spares) fun _ => active
  have ticks : s.ticker.countUntil time ≠ 0 → config.period ≠ 0 := by
    intro some_ never
    refine some_ (if_pos (.inl ?_))
    rw [stage.period, never]
  exact (flushes _ ticks).goOn rfl rfl rfl rfl (fun _ => rfl) id rfl

/-! ## The worker -/

section

variable (config cursor) (start : Index σ)

/-- **Standing** — where a run stands that was given some commits: its worker is idle, or busy with the last one. -/
inductive Standing (given : List Commit) (s : Pipeline σ) : Prop
  | idle (waits : s.idle = [0]) (none_busy : s.tasks = [])
      (stage : Stage config cursor given id (inOrder config given start) s)
  | busy {finished : List Commit} {last : Commit} {task : Task} (taken : given = finished ++ [last])
      (none_idle : s.idle = []) (busy : s.tasks = [task]) (own : task.worker = 0) (at_ : task.position = last.seq)
      (stage : Stage config cursor finished (owed config task) (inOrder config given start) s)

end

variable {start : Index σ} {given : List Commit} {last : Commit}

theorem owed_moveTo (task : Task) (p : Option Int) (index : Index σ) :
    owed config task (index.moveTo p) = (owed config task index).moveTo p := by
  have written := congrArg Prod.snd ((Handler.spares_createPost task.post).run_moveTo p index)
  unfold owed
  rw [written]
  exact Handler.runAll_moveTo config.handler (config.clock task.position) task.rest p _

theorem Stage.countResult {α : Type} (stage : Stage config cursor finished left expected s) (collection : Collection)
    (result : Except HandleFailure α) :
    Stage config cursor finished left expected (s.countResult collection result) := by
  rcases result with failure | a <;>
    exact stage.goOn rfl rfl rfl rfl (fun _ => rfl) (inTime_countResult collection _) rfl

/-- A part of what is left is done. -/
theorem Stage.handle {α : Type} {operation : Handler.Handling σ α} (spares : operation.Spares)
    (stage : Stage config cursor finished left expected s) {result : Except HandleFailure α} {index : Index σ}
    (ran : operation.run.run s.index = (result, index)) (outcome : left' index = left s.index) :
    Stage config cursor finished left' expected { s with index } := by
  obtain rfl : (operation.run.run s.index).2 = index := congrArg Prod.snd ran
  exact stage.goOn rfl rfl rfl (spares.position_eq s.index) (fun n => spares.setCursor_answer n s.index) id outcome

/-- A post that is left to be written is written. -/
theorem Stage.writePost {post : PostRow} (stage : Stage config cursor finished left expected s)
    (outcome : left' ((Handler.storing (Store.createPost post)).run.run s.index).2 = left s.index) :
    Stage config cursor finished left' expected (s.writePost post) :=
  (stage.handle (Handler.spares_createPost post) rfl outcome).countResult .post _

/-- A worker that has finished its commit waits for the next. -/
theorem standing_finish (none_idle : s.idle = []) (none_busy : s.tasks = [])
    (stage : Stage config cursor finished left (inOrder config (finished ++ [last]) start) s)
    (done : s.InTime → left s.index = s.index) :
    Standing config cursor start (finished ++ [last]) (s.finish 0 last.seq) := by
  refine .idle ?_ none_busy (stage.finish done)
  show s.idle ++ [0] = [0]
  rw [none_idle]
  rfl

/-- A worker that stands at a slow post is busy. -/
theorem standing_wait (task : Task) (none_idle : s.idle = []) (none_busy : s.tasks = []) (own : task.worker = 0)
    (at_ : task.position = last.seq)
    (stage : Stage config cursor finished (owed config task) (inOrder config (finished ++ [last]) start) s) :
    Standing config cursor start (finished ++ [last]) { s with tasks := s.tasks ++ [task] } := by
  have only : s.tasks ++ [task] = [task] := by
    rw [none_busy]
    rfl
  exact .busy rfl none_idle only own at_ (stage.goOn rfl rfl rfl rfl (fun _ => rfl) id rfl)

/-- **A worker goes on** until it has finished its commit, or stands at a slow post of it. -/
theorem standing_proceed (givenUpAt : Nat) {events : List Event} (none_idle : s.idle = []) (none_busy : s.tasks = [])
    (stage : Stage config cursor finished (config.handler.runAll (config.clock last.seq) events)
      (inOrder config (finished ++ [last]) start) s) :
    Standing config cursor start (finished ++ [last]) (proceed config 0 last.seq givenUpAt events s) := by
  induction events generalizing s with
  | nil => exact standing_finish none_idle none_busy stage fun _ => rfl
  | cons event rest ih =>
    have goOn {t : Pipeline σ} (idle_eq : t.idle = s.idle) (tasks_eq : t.tasks = s.tasks)
        (stage : Stage config cursor finished (config.handler.runAll (config.clock last.seq) rest)
          (inOrder config (finished ++ [last]) start) t) :
        Standing config cursor start (finished ++ [last]) (proceed config 0 last.seq givenUpAt rest t) :=
      ih (idle_eq.trans none_idle) (tasks_eq.trans none_busy) stage
    have run : config.handler.runAll (config.clock last.seq) (event :: rest) s.index =
        config.handler.runAll (config.clock last.seq) rest
          (config.handler.run event (config.clock last.seq rest.length) s.index).2 := rfl
    rw [Handler.run_eq_plan] at run
    unfold proceed
    dsimp only
    generalize config.clock last.seq rest.length = now at run ⊢
    have spares : (config.handler.plan event now : Handler.Handling σ _).Spares :=
      Handler.spares_plan config.handler event now
    rcases planned : (config.handler.plan event now).run.run s.index with ⟨failure | _ | post, index⟩ <;>
      rw [planned] at run <;> dsimp only at run ⊢
    · exact goOn rfl rfl ((stage.handle spares planned run.symm).countResult _ _)
    · exact goOn rfl rfl ((stage.handle spares planned run.symm).countResult _ _)
    · -- what is left begins with the post
      have handled : Stage config cursor finished (fun index => config.handler.runAll (config.clock last.seq) rest
          ((Handler.storing (Store.createPost post)).run.run index).2) _ { s with index } :=
        stage.handle spares planned run.symm
      have written := goOn (writePost_idle post { s with index }) (writePost_tasks post { s with index })
        (handled.writePost rfl)
      split
      · exact written
      · next duration _ =>
        split
        · exact standing_wait ⟨0, last.seq, post, rest, duration.map (s.now + ·), givenUpAt⟩ (s := { s with index })
            none_idle none_busy rfl rfl handled
        · exact written

/-- A worker that is busy goes on, or gives its commit up. -/
theorem standing_resume {task : Task} (taken : given = finished ++ [last]) (none_idle : s.idle = [])
    (busy : s.tasks = [task]) (own : task.worker = 0) (at_ : task.position = last.seq)
    (stage : Stage config cursor finished (owed config task) (inOrder config given start) s) :
    Standing config cursor start given (s.resume config task) := by
  subst taken
  have free : s.tasks.filter (·.worker ≠ task.worker) = [] := by
    rw [busy]
    simp
  unfold resume
  dsimp only
  rw [free, own, at_]
  split
  · have freed : Stage config cursor finished (owed config task) (inOrder config (finished ++ [last]) start)
        { s with tasks := [] } := stage.goOn rfl rfl rfl rfl (fun _ => rfl) id rfl
    refine standing_proceed task.givenUpAt ((writePost_idle task.post { s with tasks := [] }).trans none_idle)
      (writePost_tasks task.post { s with tasks := [] }) (freed.writePost ?_)
    rw [← at_]
    rfl
  · -- given up: the commit counts as finished, and nothing is said of the index
    have counted : Stage config cursor finished (owed config task) (inOrder config (finished ++ [last]) start)
        { s with tasks := [], metrics := s.metrics.countTimeout } :=
      stage.goOn rfl rfl rfl rfl (fun _ => rfl) (fun still => absurd still (not_inTime_countTimeout _)) rfl
    exact standing_finish (s := { s with tasks := [], metrics := s.metrics.countTimeout }) none_idle rfl counted
      fun still => absurd still (not_inTime_countTimeout _)

theorem Standing.passTo (standing : Standing config cursor start given s) (time : Nat) :
    Standing config cursor start given (s.passTo time) := by
  cases standing with
  | idle waits none_busy stage => exact .idle waits none_busy (stage.passTo time fun _ _ => rfl)
  | busy taken none_idle busy own at_ stage =>
    exact .busy taken none_idle busy own at_ (stage.passTo time (owed_moveTo _))

/-- A worker that is busy goes on when its time comes. -/
theorem standing_step {task : Task} (taken : given = finished ++ [last]) (none_idle : s.idle = [])
    (busy : s.tasks = [task]) (own : task.worker = 0) (at_ : task.position = last.seq)
    (stage : Stage config cursor finished (owed config task) (inOrder config given start) s) :
    Standing config cursor start given (s.step config task) :=
  standing_resume (s := s.passTo task.time) taken none_idle busy own at_ (stage.passTo task.time (owed_moveTo task))

/-- **The steps of a worker.** -/
theorem standing_steps (until? : Option Nat) (fuel : Nat) (standing : Standing config cursor start given s) :
    Standing config cursor start given (steps config until? fuel s) := by
  induction fuel generalizing s with
  | zero => exact standing
  | succ fuel ih =>
    unfold steps
    cases standing with
    | idle waits none_busy stage =>
      rw [none_busy]
      exact .idle waits none_busy stage
    | @busy finished last task taken none_idle busy own at_ stage =>
      rw [busy, show Task.earliest? [task] = some task from rfl]
      dsimp only
      split
      · exact ih (standing_step taken none_idle busy own at_ stage)
      · exact .busy taken none_idle busy own at_ stage

/-- A worker that is waited for becomes idle. -/
theorem standing_stepsToIdle (fuel : Nat) (standing : Standing config cursor start given s) (light : s.load ≤ fuel) :
    ∃ s', stepsToIdle config none fuel s = some s' ∧ s'.idle = [0] ∧ s'.tasks = [] ∧
      Stage config cursor given id (inOrder config given start) s' := by
  induction fuel generalizing s with
  | zero =>
    cases standing with
    | idle waits none_busy stage =>
      refine ⟨s, ?_, waits, none_busy, stage⟩
      unfold stepsToIdle
      rw [waits]
      rfl
    | busy taken none_idle busy own at_ stage =>
      rw [tasks_eq_nil_of_load (Nat.le_zero.mp light)] at busy
      cases busy
  | succ fuel ih =>
    unfold stepsToIdle
    cases standing with
    | idle waits none_busy stage =>
      rw [waits]
      exact ⟨s, rfl, waits, none_busy, stage⟩
    | @busy finished last task taken none_idle busy own at_ stage =>
      have lighter := load_step_lt config (s := s) (busy ▸ List.mem_singleton_self task)
      rw [none_idle, busy]
      exact ih (standing_step taken none_idle busy own at_ stage) (by omega)

/-! ## The reader -/

/-- **A commit is handed over** to the worker, who is idle by then. -/
theorem standing_dispatch (commit : Commit) (waits : s.idle = [0]) (none_busy : s.tasks = [])
    (stage : Stage config cursor given id (inOrder config given start) s) :
    Standing config cursor start (given ++ [commit]) (s.dispatch config commit) := by
  unfold dispatch
  rw [waits]
  refine standing_proceed (s := { s with idle := [] }) _ rfl none_busy ?_
  have taken (index : Index σ) (p : Option Int) (same : index = (inOrder config given start).moveTo p) :
      config.handler.runAll (config.clock commit.seq) commit.events index =
        (inOrder config (given ++ [commit]) start).moveTo p := by
    rw [same, inOrder_concat]
    exact Handler.runAll_moveTo config.handler (config.clock commit.seq) commit.events p _
  exact ⟨stage.progress, stage.period, stage.known, stage.serving, stage.reached,
    fun still => taken _ _ (stage.outcome still)⟩

/-- **The reader** hands every commit over, and ends as the stream does. -/
theorem read_of_ending {cue : Cue} {failure : RunFailure} (ends : cue.ending? = some failure) (rest : List Cue) :
    ∀ (body : List Cue) (given : List Commit) (s : Pipeline σ), (∀ cue ∈ body, cue.ending? = none) →
      Standing config cursor start given s →
      ∃ s', read config none (body ++ cue :: rest) s = (.error failure, s') ∧
        Standing config cursor start (given ++ body.filterMap Cue.commit?) s' := by
  intro body
  induction body with
  | nil =>
    intro given s _ standing
    refine ⟨s, ?_, by rwa [List.filterMap_nil, List.append_nil]⟩
    cases cue <;> cases ends <;> rfl
  | cons next body ih =>
    intro given s goesOn standing
    have rest_goesOn : ∀ cue ∈ body, cue.ending? = none := fun cue listed => goesOn cue (List.mem_cons_of_mem _ listed)
    have next_goesOn := goesOn next List.mem_cons_self
    cases next with
    | commit commit =>
      obtain ⟨ready, waited, waits, none_busy, stage⟩ := standing_stepsToIdle s.load standing (Nat.le_refl _)
      obtain ⟨s', done, standing'⟩ := ih (given ++ [commit]) (ready.dispatch config commit) rest_goesOn
        (standing_dispatch commit waits none_busy stage)
      refine ⟨s', ?_, ?_⟩
      · rw [List.cons_append, read, awaitIdle, waited]
        exact done
      · rwa [List.append_assoc] at standing'
    | silence duration =>
      have passed : Standing config cursor start given (s.advanceTo config (s.now + duration)) :=
        (standing_steps _ _ standing).passTo _
      exact ih given _ rest_goesOn passed
    | failure cause => cases next_goesOn
    | finish => cases next_goesOn

/-! ## The end of a run -/

/-- The watermark of a run with one worker is the commit that was finished last. -/
theorem Stage.low? (stage : Stage config cursor given left expected s) (hlast : given.getLast? = some last)
    (natural : 0 ≤ last.seq) : s.progress.low? = some last.seq := by
  rw [stage.progress, hlast, Watermark.low?_eq_some_iff]
  refine ⟨⟨List.mem_singleton_self _, by unfold Watermark.unset; omega⟩, fun other found _ => ?_⟩
  exact Int.le_of_eq (Option.some.inj (List.mem_singleton.mp found)).symm

/-- A position that was reached and is not behind the last commit is the furthest one. -/
theorem furthest_of_reached {p : Int} (reached : Reached config cursor given (some p))
    (ordered : given.Pairwise (·.seq < ·.seq)) (hlast : given.getLast? = some last) (notBehind : last.seq ≤ p) :
    some p = furthest cursor given := by
  unfold furthest
  rw [hlast]
  dsimp only
  rcases reached with began | ⟨-, commit, taken, same, ahead⟩
  · -- the position was ahead of the stream when the run began
    rw [← began, Option.getD_some, Int.max_eq_left notBehind]
  · have notAfter : commit.seq ≤ last.seq := by
      obtain ⟨before, rfl⟩ := List.getLast?_eq_some_iff.mp hlast
      rcases List.mem_append.mp taken with earlier | final
      · exact Int.le_of_lt ((List.pairwise_append.mp ordered).2.2 commit earlier last (List.mem_singleton_self last))
      · exact Int.le_of_eq (congrArg Commit.seq (List.mem_singleton.mp final))
    have there : p = commit.seq := Option.some.inj same
    obtain rfl : p = last.seq := by omega
    rcases cursor with _ | began
    · rw [Option.getD_none, Int.max_self]
    · have passed := ahead began rfl
      rw [Option.getD_some, Int.max_eq_right (by omega)]

/-- **The last flush** brings the position to the last commit. -/
theorem Stage.lastFlush (stage : Stage config cursor given id expected s) (ordered : given.Pairwise (·.seq < ·.seq))
    (natural : ∀ commit ∈ given, 0 ≤ commit.seq) :
    Stage config cursor given id expected s.flush ∧
      position s.flush.index.store = if config.period = 0 then cursor else furthest cursor given := by
  unfold Pipeline.flush
  rw [stage.period]
  by_cases never : config.period = 0
  · rw [if_pos never, if_pos never]
    refine ⟨stage, ?_⟩
    rcases stage.reached with same | ⟨active, -⟩
    · exact same
    · exact absurd never active
  rw [if_neg never, if_neg never]
  have flushed := stage.flush never fun _ _ => rfl
  refine ⟨flushed, ?_⟩
  show position (s.flusher.flush s.progress s.index.store).2.2 = _
  have reached : Reached config cursor given (position (s.flusher.flush s.progress s.index.store).2.2) :=
    flushed.reached
  rcases hlast : given.getLast? with _ | last
  · obtain rfl := List.getLast?_eq_none_iff.mp hlast
    rcases reached with same | ⟨-, commit, listed, -, -⟩
    · exact same
    · cases listed
  · have low := stage.low? hlast (natural last (List.mem_of_getLast? hlast))
    obtain ⟨p, at_, notBehind⟩ := caughtUp_flush stage.known stage.serving low
    rw [at_] at reached ⊢
    exact furthest_of_reached reached ordered hlast notBehind

/-- A run with one worker begins idle, with nothing to be done. -/
theorem standing_start (alone : config.workerCount = 1) {index : Index σ} (stored : position index.store = cursor)
    (serving : ∀ n, (Store.setCursor n : Storing σ Unit).answer index.store = .ok ()) :
    Standing config cursor index [] (Pipeline.start config cursor index) := by
  refine .idle ?_ rfl ⟨?_, rfl, stored.symm, serving, .inl stored, fun _ => ?_⟩
  · show List.range config.workerCount = [0]
    rw [alone]
    rfl
  · show Watermark.fresh config.workerCount = _
    rw [alone]
    rfl
  · exact congrArg (Index.mk · index.roster) (ApartStore.moveTo_position index.store).symm

/-- A run that is connected reads its stream; then the workers finish, and the watermark is flushed once more. -/
theorem run_of_read {source : Option Int → Except ConnectFailure (List Cue)} {index : Index σ} {cues : List Cue}
    {failure : RunFailure} (known : (Store.getCursor : Storing σ (Option Int)).answer index.store = .ok cursor)
    {asked : Option Int} (after : asked? cursor = some asked) (opens : source asked = .ok cues)
    (ended : read config none cues (Pipeline.start config cursor index) = (.error failure, s)) :
    run config none source index = (s.drain config).flush.report (.error failure) asked := by
  have got : (Store.getCursor : Storing σ (Option Int)).run.run index.store = (.ok cursor, index.store) :=
    Prod.ext known (ApartStore.getCursor_after index.store)
  rw [run_eq_follow got after opens, follow, ended]

/-- **A run with one worker handles a stream in order.** However slow its posts are and whenever the watermark is
flushed, if nothing is given up, it ends as the stream does, with the index that all events leave that are handled one
after the other, and with the position of the last commit, unless the stored one was ahead. (A flusher without a
period never writes.) -/
theorem one_worker_in_order (config : PipelineConfig) (one : config.workers ≤ 1)
    (source : Option Int → Except ConnectFailure (List Cue)) (index : Index σ) {cursor : Option Int}
    (known : (Store.getCursor : Storing σ (Option Int)).answer index.store = .ok cursor)
    (serving : ∀ n, (Store.setCursor n : Storing σ Unit).answer index.store = .ok ())
    {asked : Option Int} (after : asked? cursor = some asked)
    {body rest : List Cue} {cue : Cue} {failure : RunFailure} (opens : source asked = .ok (body ++ cue :: rest))
    (goesOn : ∀ cue ∈ body, cue.ending? = none) (ends : cue.ending? = some failure)
    (ordered : (body.filterMap Cue.commit?).Pairwise (·.seq < ·.seq))
    (natural : ∀ commit ∈ body.filterMap Cue.commit?, 0 ≤ commit.seq)
    (inTime : (run config none source index).metrics.dropped.get? DropReason.timeout.label = none) :
    (run config none source index).result = .error failure ∧
      (run config none source index).index = (inOrder config (body.filterMap Cue.commit?) index).moveTo
        (position (run config none source index).index.store) ∧
      position (run config none source index).index.store =
        if config.period = 0 then cursor else furthest cursor (body.filterMap Cue.commit?) := by
  have alone : config.workerCount = 1 := Nat.max_eq_left one
  have begun := standing_start alone (ApartStore.position_of_getCursor known) serving
  -- reader, worker and flusher, up to the end
  obtain ⟨s, ended, standing⟩ := read_of_ending ends rest body [] _ goesOn begun
  have drained : Standing config cursor index _ (s.drain config) := standing_steps none s.load standing
  have idle := drain_tasks config s
  rw [run_of_read known after opens ended] at inTime ⊢
  cases drained with
  | busy _ _ busy _ _ _ =>
    rw [idle] at busy
    cases busy
  | idle _ _ stage =>
    obtain ⟨last, reached⟩ := stage.lastFlush ordered natural
    exact ⟨rfl, last.outcome inTime, reached⟩

end Pipeline

/-! ### A slow post, and an event that fails -/

namespace Unhurried

open Pipeline (run inOrder one_worker_in_order)

/-- The account whose posts are indexed. -/
def did : String := "did:plc:hdhoaan3xa3jiuq4fg4mefid"

def event (did : String) (seq : Int) (collection text : String) : Event where
  seq := seq
  did := did
  action := .create
  collection := collection
  rkey := "p1"
  cid := none
  payload := some (.json text)

/-- A post, and a like that points to nothing. -/
def commits : List Commit := [
  ⟨3, [event did 3 "app.bsky.feed.post" "\x7b\"text\":\"hi\",\"createdAt\":\"2025-01-26T17:11:03Z\"\x7d"]⟩,
  ⟨8, [event did 8 "app.bsky.feed.like"
    "\x7b\"subject\":\x7b\"uri\":\"nothing\",\"cid\":\"\"\x7d,\"createdAt\":\"2025-01-26T17:11:03Z\"\x7d"]⟩]

def script : List Cue := commits.flatMap fun commit => [.commit commit, .silence 1500]

/-- It takes four and a half seconds to write the post, and the watermark is flushed every second. -/
def config : PipelineConfig := { workers := 0, period := 1000, slow := [⟨"/p1", some 4500⟩] }

def account : Actor := .fresh did .approved "" ⟨0, 0⟩

def start : Index Memory := ⟨{ cursor := some 5, actors := [(did, account)] }, Roster.ofActors [account]⟩

set_option maxRecDepth 100000 in
theorem post_written_like_dropped :
    (run config none (fun _ => .ok (script ++ [.finish])) start).result = .error .streamEnded ∧
      (run config none (fun _ => .ok (script ++ [.finish])) start).index =
        (inOrder config commits start).moveTo (some 8) ∧
      (run config none (fun _ => .ok (script ++ [.finish])) start).index.store.posts.length = 1 ∧
      (run config none (fun _ => .ok (script ++ [.finish])) start).index.store.likes = [] := by
  obtain ⟨ended, same, reached⟩ := one_worker_in_order config (by decide) (fun _ => .ok (script ++ [.finish])) start
    (show (Store.getCursor : Storing Memory (Option Int)).answer start.store = .ok (some 5) from rfl) (fun _ => rfl)
    (show Pipeline.asked? (some 5) = some (some 6) from rfl) rfl (by decide)
    (show Cue.finish.ending? = some .streamEnded from rfl) (by decide) (by decide) (by decide +kernel)
  have at_ : position (run config none (fun _ => .ok (script ++ [.finish])) start).index.store = some 8 :=
    reached.trans (by decide)
  rw [at_] at same
  exact ⟨ended, same, by decide +kernel, by decide +kernel⟩

end Unhurried

end FeedIndex
