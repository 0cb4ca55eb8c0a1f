import FeedIndex.CommandLine.Program
import FeedIndex.Proofs.Cbor.Written
import FeedIndex.Proofs.Delivery
import FeedIndex.Proofs.Separation

/-!
# Going on after the stored position

A run goes on at the position after the stored one. Positions are numbers of 64 bits from the wire to the store:
both transports read nothing else, a stream gives out the positions that it reads, the watermark is one of those that
the workers have recorded, and a flush stores the watermark. So the stored position is a number of 64 bits, and it has
a successor of 64 bits unless it is the greatest of them all. Nothing on the way keeps that one out, and a run that
finds it breaks off.
-/

namespace FeedIndex

open Cbor (IsWord)
open PositionedStore (position)

/-! ## Numbers from the wire -/

namespace Wire

variable {ω α β : Type}

/-- **Gives** — whatever a reading takes has a property. -/
def Gives (read : Reading ω α) (P : α → Prop) : Prop :=
  ∀ ⦃levels : Nat⦄ ⦃input rest : ω⦄ ⦃a : α⦄, read levels input = some (a, rest) → P a

theorem gives_true (read : Reading ω α) : Gives read fun _ => True := fun _ _ _ _ _ => trivial

theorem Gives.mapped {read : Reading ω α} {P : α → Prop} {Q : β → Prop} {f : α → β} (gives : Gives read P)
    (maps : ∀ a, P a → Q (f a)) : Gives (mapped f read) Q := by
  intro levels input rest b taken
  obtain ⟨⟨a, rest'⟩, first, same⟩ := Option.map_eq_some_iff.mp taken
  obtain rfl : f a = b := congrArg Prod.fst same
  exact maps a (gives first)

theorem gives_signed [Wire ω] : Gives (signed : Reading ω Int) IsWord := by
  intro levels input rest n taken
  obtain ⟨⟨m, rest'⟩, -, kept⟩ := Option.bind_eq_some_iff.mp taken
  obtain ⟨m', inside, same⟩ := Option.map_eq_some_iff.mp kept
  obtain rfl : m' = n := congrArg Prod.fst same
  obtain ⟨bounds, kept⟩ := Option.ite_none_right_eq_some.mp inside
  exact Option.some.inj kept ▸ bounds

/-- A field keeps a property of the structure that it is read into. -/
def Field.Keeps (f : Field ω β) (P : β → Prop) : Prop := ∀ b, P b → Gives (f.readInto b) P

variable {read : Reading ω α} {put : α → β → β} {Q : α → Prop} {P : β → Prop} {blank : β} {fs : List (Field ω β)}

/-- A field, required or not, keeps what its values and the structure before it have. -/
theorem keeps_put {name : String} {isRequired : Bool} (gives : Gives read Q)
    (kept : ∀ a b, Q a → P b → P (put a b)) : Field.Keeps ⟨name, isRequired, fun b => mapped (put · b) read⟩ P :=
  fun b holds => gives.mapped fun a fits => kept a b fits holds

theorem gives_members [Wire ω] (keep : ∀ f ∈ fs, f.Keeps P) {levels n : Nat} {seen : List String} {b b' : β}
    {input rest : ω} (holds : P b) (taken : members fs levels n seen b input = some (b', rest)) : P b' := by
  induction n generalizing seen b input with
  | zero =>
    unfold members at taken
    split at taken
    · cases taken
      exact holds
    · cases taken
  | succ n ih =>
    unfold members at taken
    split at taken
    · cases taken
    · split at taken
      -- a member that is no field is read over
      · obtain ⟨_, -, later⟩ := Option.bind_eq_some_iff.mp taken
        exact ih holds later
      · next f found =>
        split at taken
        · cases taken
        · split at taken
          · cases taken
          · next first => exact ih (keep f (List.mem_of_find?_eq_some found) _ holds first) taken

theorem gives_inOrder (keep : ∀ f ∈ fs, f.Keeps P) {levels n : Nat} {b b' : β} {input rest : ω} (holds : P b)
    (taken : inOrder levels fs n b input = some (b', rest)) : P b' := by
  induction n generalizing fs b input with
  | zero =>
    unfold inOrder at taken
    split at taken
    · cases taken
      exact holds
    · cases taken
  | succ n ih =>
    rcases fs with _ | ⟨f, fs⟩ <;> unfold inOrder at taken
    · cases taken
    · split at taken
      · cases taken
      · next first =>
        exact ih (fun f' listed => keep f' (List.mem_cons_of_mem f listed))
          (keep f List.mem_cons_self _ holds first) taken

/-- **A structure has what its fields keep**, if a blank one has it. -/
theorem gives_fields [Wire ω] (holds : P blank) (keep : ∀ f ∈ fs, f.Keeps P) : Gives (fields blank fs) P := by
  intro levels input rest b taken
  unfold fields at taken
  split at taken
  · cases taken
  · split at taken
    · cases taken
    · exact gives_members keep holds taken
    · exact gives_inOrder keep holds taken

end Wire

open Wire (Gives keeps_put gives_fields gives_signed gives_true)

theorem ok_of_map {ε α β : Type} {f : α → β} {result : Except ε α} {b : β} (made : result.map f = .ok b) :
    ∃ a, result = .ok a ∧ f a = b := by
  rcases result with failure | a
  · cases made
  · exact ⟨a, rfl, Except.ok.inj made⟩

theorem Message.gives_reading : Gives reading fun message => IsWord message.time := by
  unfold reading
  have blank : IsWord 0 := by decide
  refine gives_fields blank ?_
  simp only [List.forall_mem_cons]
  refine ⟨keeps_put gives_signed fun time _ word _ => word, ?_, ?_, ?_, List.forall_mem_nil _⟩ <;>
    exact keeps_put (gives_true _) fun _ _ _ word => word

theorem Message.isWord_time {s : String} {message : Message} (read : ofText? s = some message) :
    IsWord message.time := by
  obtain ⟨slice, -, read⟩ := Option.bind_eq_some_iff.mp read
  obtain ⟨⟨_, rest⟩, taken, rfl⟩ := Option.map_eq_some_iff.mp read
  exact gives_reading taken

theorem Frame.gives_commitReading : Gives commitReading fun body => IsWord body.seq := by
  unfold commitReading
  have blank : IsWord 0 := by decide
  refine gives_fields blank ?_
  simp only [List.forall_mem_cons]
  refine ⟨keeps_put gives_signed fun seq _ word _ => word, ?_, ?_, ?_, ?_, ?_, List.forall_mem_nil _⟩ <;>
    exact keeps_put (gives_true _) fun _ _ _ word => word

theorem Frame.isWord_seq {content : Bytes} {body : RepoCommit} (decoded : decode content = .ok (.commit body)) :
    IsWord body.seq := by
  have of_body {bs : Bytes} (made : (bodyOf commitReading bs).map Frame.commit = .ok (.commit body)) :
      IsWord body.seq := by
    obtain ⟨_, read, same⟩ := ok_of_map made
    cases same
    unfold bodyOf at read
    split at read
    · next taken =>
      cases read
      unfold Cbor.read? at taken
      split at taken
      · next whole =>
        cases taken
        exact gives_commitReading whole
      · cases taken
    · cases read
  unfold decode at decoded
  split at decoded
  · cases decoded
  · split at decoded
    · obtain ⟨_, -, same⟩ := ok_of_map decoded
      cases same
    · split at decoded
      · split at decoded
        · exact of_body decoded
        · split at decoded
          · obtain ⟨_, -, same⟩ := ok_of_map decoded
            cases same
          · cases decoded
      · cases decoded

/-! ## What a stream gives out -/

namespace Session

variable {last last' : Option Int} {commit : Commit}

theorem isWord_of_acceptText {content : String} (given : (acceptText content last).1 = some commit) :
    IsWord commit.seq := by
  obtain ⟨ahead, moved⟩ := acceptText_snd given
  unfold acceptText at given moved
  rcases read : Message.ofText? content with _ | message <;> rw [read] at given moved <;> dsimp only at given moved
  · cases given
  · split at moved
    · exact Option.some.inj moved ▸ Message.isWord_time read
    · next behind =>
      rw [if_neg behind] at given
      cases given

theorem isWord_of_acceptFrame {content : Bytes} (taken : acceptFrame content last = .ok (some commit, last')) :
    IsWord commit.seq := by
  unfold acceptFrame at taken
  rcases decoded : Frame.decode content with failure | body | ⟨name, message⟩ | ⟨code, message⟩ | type <;>
    rw [decoded] at taken <;> dsimp only at taken
  case ok.commit =>
    split at taken
    · split at taken
      · cases taken
        exact Frame.isWord_seq decoded
      · cases taken
    · cases taken
  all_goals cases taken

theorem isWord_of_receive {incoming : Incoming} {session session' : Session}
    (received : session.receive incoming = .ok (some commit, session')) : IsWord commit.seq := by
  unfold receive at received
  split at received
  · cases received
  · cases received
  · exact isWord_of_acceptText (congrArg Prod.fst (Except.ok.inj received))
  · split at received
    · next taken =>
      cases received
      exact isWord_of_acceptFrame taken
    · cases received
  · cases received

/-- **Whatever a stream gives out has a position of 64 bits.** -/
theorem isWord_of_play {incoming : List Incoming} {session : Session}
    (given : some commit ∈ (play incoming session).1) : IsWord commit.seq := by
  induction incoming generalizing session with
  | nil => cases given
  | cons first rest ih =>
    unfold play at given
    split at given
    · cases List.mem_singleton.mp given
    · next received =>
      rcases List.mem_cons.mp given with rfl | later
      · exact isWord_of_receive received
      · exact ih later

end Session

theorem Subscription.isWord_of_connect {dial : Dial} {asked : Option Int} {subscription : Subscription}
    {played : List (Option Commit) × Option SessionEnd} (connected : subscription.connect dial asked = .ok played)
    {commit : Commit} (given : some commit ∈ played.1) : IsWord commit.seq := by
  unfold connect at connected
  split at connected
  · cases connected
  · split at connected
    · cases connected
    · split at connected
      · cases connected
      · cases connected
        exact Session.isWord_of_play given

theorem Program.given_of_mem_cuesOf {played : List (Option Commit) × Option SessionEnd} {commit : Commit}
    (listed : .commit commit ∈ cuesOf played) : some commit ∈ played.1 := by
  rcases List.mem_append.mp listed with body | ending
  · obtain ⟨given, among, made⟩ := List.mem_filterMap.mp body
    obtain ⟨commit', rfl, same⟩ := Option.map_eq_some_iff.mp made
    rwa [← Cue.commit.inj same]
  · split at ending
    · cases ending
    · cases List.mem_singleton.mp ending
    · cases List.mem_singleton.mp ending

/-! ## The positions in a run -/

namespace Pipeline

variable {σ : Type} [Store σ] [ApartStore σ] {P : Int → Prop} {config : PipelineConfig} {s s' : Pipeline σ}

/-- **Positioned** — every position in a run has a property: what the workers have recorded, the commits that they are
busy with, and the stored position, which the flusher knows. -/
structure Positioned (P : Int → Prop) (s : Pipeline σ) : Prop where
  recorded : ∀ p, some p ∈ s.progress.slots → P p
  busy : ∀ task ∈ s.tasks, P task.position
  known : s.flusher.flushed = position s.index.store
  stored : ∀ p, position s.index.store = some p → P p

theorem Positioned.goOn (positioned : Positioned P s) (progress : s'.progress = s.progress)
    (tasks : ∀ task ∈ s'.tasks, task ∈ s.tasks) (flusher : s'.flusher = s.flusher)
    (kept : position s'.index.store = position s.index.store) : Positioned P s' where
  recorded := progress ▸ positioned.recorded
  busy task listed := positioned.busy task (tasks task listed)
  known := by rw [flusher, kept, positioned.known]
  stored := kept ▸ positioned.stored

theorem positioned_start {cursor : Option Int} {index : Index σ} (begun : position index.store = cursor)
    (holds : ∀ p, cursor = some p → P p) : Positioned P (Pipeline.start config cursor index) where
  recorded p listed := by cases (List.mem_replicate.mp listed).2
  busy task listed := by cases listed
  known := begun.symm
  stored p stored := holds p (begun.symm.trans stored)

/-! ### Workers -/

theorem Positioned.finish (positioned : Positioned P s) (worker : Nat) {p : Int} (holds : P p) :
    Positioned P (s.finish worker p) where
  recorded q listed := by
    rcases List.mem_or_eq_of_mem_set listed with before | same
    · exact positioned.recorded q before
    · exact Option.some.inj same ▸ holds
  busy := positioned.busy
  known := positioned.known
  stored := positioned.stored

theorem Positioned.countResult {α : Type} (positioned : Positioned P s) (collection : Collection)
    (result : Except HandleFailure α) : Positioned P (s.countResult collection result) := by
  rcases result with failure | a <;> exact positioned.goOn rfl (fun _ => id) rfl rfl

/-- What handles an event leaves the position alone. -/
theorem Positioned.handle {α : Type} {operation : Handler.Handling σ α} (spares : operation.Spares)
    (positioned : Positioned P s) {result : Except HandleFailure α} {index : Index σ}
    (ran : operation.run.run s.index = (result, index)) : Positioned P { s with index } := by
  obtain rfl : (operation.run.run s.index).2 = index := congrArg Prod.snd ran
  exact positioned.goOn rfl (fun _ => id) rfl (spares.position_eq s.index)

theorem Positioned.writePost (positioned : Positioned P s) (post : PostRow) : Positioned P (s.writePost post) :=
  (positioned.handle (Handler.spares_createPost post) rfl).countResult .post _

theorem Positioned.proceed (positioned : Positioned P s) (worker : Nat) {p : Int} (holds : P p) (givenUpAt : Nat)
    (events : List Event) : Positioned P (proceed config worker p givenUpAt events s) := by
  induction events generalizing s with
  | nil => exact positioned.finish worker holds
  | cons event rest ih =>
    unfold Pipeline.proceed
    dsimp only
    generalize config.clock p rest.length = now
    have spares : (config.handler.plan event now : Handler.Handling σ _).Spares :=
      Handler.spares_plan config.handler event now
    rcases planned : (config.handler.plan event now).run.run s.index with ⟨failure | _ | post, index⟩ <;>
      dsimp only <;> have handled := positioned.handle spares planned
    · exact ih (handled.countResult _ _)
    · exact ih (handled.countResult _ _)
    · split
      · exact ih (handled.writePost post)
      · split
        · -- the worker stands at the post, with the position of its commit
          refine { handled with busy := fun task listed => ?_ }
          rcases List.mem_append.mp listed with before | added
          · exact handled.busy task before
          · rwa [List.mem_singleton.mp added]
        · exact ih (handled.writePost post)

theorem Positioned.resume (positioned : Positioned P s) {task : Task} (listed : task ∈ s.tasks) :
    Positioned P (s.resume config task) := by
  have holds := positioned.busy task listed
  -- the position of the task outlasts it, so it is taken before the task goes
  have freed : Positioned P { s with tasks := s.tasks.filter (·.worker ≠ task.worker) } :=
    positioned.goOn rfl (fun _ kept => (List.mem_filter.mp kept).1) rfl rfl
  unfold Pipeline.resume
  dsimp only
  split
  · exact (freed.writePost task.post).proceed task.worker holds task.givenUpAt task.rest
  · have counted : Positioned P { s with
        tasks := s.tasks.filter (·.worker ≠ task.worker)
        metrics := s.metrics.countTimeout } := freed.goOn rfl (fun _ => id) rfl rfl
    exact counted.finish task.worker holds

theorem Positioned.dispatch (positioned : Positioned P s) {commit : Commit} (holds : P commit.seq) :
    Positioned P (s.dispatch config commit) := by
  unfold Pipeline.dispatch
  split
  · exact positioned
  · next worker idle _ =>
    have woken : Positioned P { s with idle } := positioned.goOn rfl (fun _ => id) rfl rfl
    exact woken.proceed worker holds _ commit.events

/-! ### Flushes -/

theorem Positioned.flushOnce (positioned : Positioned P s) :
    Positioned P { s with
      flusher := (s.flusher.flush s.progress s.index.store).2.1
      index := { s.index with store := (s.flusher.flush s.progress s.index.store).2.2 } } := by
  have flushed : Flusher.Flushed s.progress s.flusher s.index.store _ := Flusher.flushed_flush positioned.known
  have keeps := flushed.keeps positioned.known
  generalize s.flusher.flush s.progress s.index.store = result at flushed keeps
  refine ⟨positioned.recorded, positioned.busy, keeps.known, fun p stored => ?_⟩
  cases flushed with
  | idle _ => exact positioned.stored p stored
  | failed _ _ _ => exact positioned.stored p stored
  | @stored w store' low _ _ kept =>
    -- the watermark is a position that a worker has recorded
    obtain rfl := Option.some.inj (kept.symm.trans stored)
    exact positioned.recorded w (Watermark.low?_eq_some_iff.mp low).1.1

theorem Positioned.flush (positioned : Positioned P s) : Positioned P s.flush := by
  unfold Pipeline.flush
  split
  · exact positioned
  · exact positioned.flushOnce

theorem Positioned.passTo (positioned : Positioned P s) (time : Nat) : Positioned P (s.passTo time) := by
  -- the ticks in between are as many flushes, and then the clock is set
  have flushes (count : Nat) : Positioned P { s with
      flusher := (Flusher.flushTimes s.progress count s.flusher s.index.store).1
      index := { s.index with store := (Flusher.flushTimes s.progress count s.flusher s.index.store).2 } } := by
    induction count generalizing s with
    | zero => exact positioned
    | succ count ih => exact ih positioned.flushOnce
  exact (flushes (s.ticker.countUntil time)).goOn rfl (fun _ => id) rfl rfl

/-! ### The run -/

theorem Positioned.step (positioned : Positioned P s) {task : Task} (listed : task ∈ s.tasks) :
    Positioned P (s.step config task) := (positioned.passTo task.time).resume listed

theorem Positioned.steps (positioned : Positioned P s) (until? : Option Nat) (fuel : Nat) :
    Positioned P (steps config until? fuel s) := by
  induction fuel generalizing s with
  | zero => exact positioned
  | succ fuel ih =>
    unfold Pipeline.steps
    split
    · exact positioned
    · next task first =>
      split
      · exact ih (positioned.step (Task.earliest?_mem first))
      · exact positioned

theorem Positioned.advanceTo (positioned : Positioned P s) (time : Nat) : Positioned P (s.advanceTo config time) :=
  (positioned.steps (some time) s.load).passTo time

theorem Positioned.stepsToIdle (positioned : Positioned P s) {until? : Option Nat} {fuel : Nat}
    (waited : stepsToIdle config until? fuel s = some s') : Positioned P s' := by
  induction fuel generalizing s with
  | zero =>
    unfold Pipeline.stepsToIdle at waited
    split at waited
    · cases waited
    · exact Option.some.inj waited ▸ positioned
  | succ fuel ih =>
    unfold Pipeline.stepsToIdle at waited
    split at waited
    · exact Option.some.inj waited ▸ positioned
    · split at waited
      · cases waited
      · next task first =>
        split at waited
        · exact ih (positioned.step (Task.earliest?_mem first)) waited
        · cases waited

theorem Positioned.read (positioned : Positioned P s) (cancelAt : Option Nat) {cues : List Cue}
    (holds : ∀ commit, .commit commit ∈ cues → P commit.seq) :
    Positioned P (read config cancelAt cues s).2 := by
  induction cues generalizing s with
  | nil => exact positioned
  | cons cue rest ih =>
    have later : ∀ commit, .commit commit ∈ rest → P commit.seq :=
      fun commit listed => holds commit (List.mem_cons_of_mem cue listed)
    rcases cue with commit | duration | cause | _ <;> unfold Pipeline.read
    · split
      · next waited =>
        exact ih ((positioned.stepsToIdle waited).dispatch (holds commit List.mem_cons_self)) later
      · split
        · exact positioned.advanceTo _
        · exact positioned
    · split
      · split
        · exact positioned.advanceTo _
        · exact ih (positioned.advanceTo _) later
      · exact ih (positioned.advanceTo _) later
    · exact positioned
    · exact positioned

/-- **A run leaves a position like those it is given**: the stored one, and those of the commits on its stream. -/
theorem position_of_run {cancelAt : Option Nat} {source : Option Int → Except ConnectFailure (List Cue)}
    {index : Index σ} (begun : ∀ p, position index.store = some p → P p)
    (given : ∀ asked cues, source asked = .ok cues → ∀ commit, .commit commit ∈ cues → P commit.seq) {p : Int}
    (left : position (run config cancelAt source index).index.store = some p) : P p := by
  have same := ApartStore.getCursor_after index.store
  unfold run at left
  rw [Storing.run_eq, same] at left
  rcases answer : (Store.getCursor : Storing σ (Option Int)).answer index.store with failure | cursor <;>
    rw [answer] at left <;> dsimp only at left
  · exact begun p left
  · have stored := ApartStore.position_of_getCursor answer
    split at left
    · exact begun p left
    split at left
    · exact begun p left
    · next cues opens =>
      have start : Positioned P (Pipeline.start config cursor index) :=
        positioned_start stored fun q known => begun q (stored.trans known)
      exact ((start.read cancelAt (given _ cues opens)).steps none _).flush.stored p left

/-! ## The next run -/

/-- **OpensAt** — a run asks for the stream at a position, and for no other. -/
def OpensAt (config : PipelineConfig) (cancelAt : Option Nat) (index : Index σ) (asked : Option Int) : Prop :=
  ∀ source, (run config cancelAt source index).asked = some asked ∧
    ∀ other, other asked = source asked → run config cancelAt other index = run config cancelAt source index

/-- **BreaksOff** — a run asks for no stream at all, whatever there is to be had, and leaves the index as it is. -/
def BreaksOff (config : PipelineConfig) (cancelAt : Option Nat) (index : Index σ) : Prop :=
  ∀ source, run config cancelAt source index = reportOfFailure .overflow none index

omit [ApartStore σ] in
/-- What is asked for does not depend on what there is to be had. -/
theorem asked_run {cancelAt : Option Nat} {index : Index σ} {cursor : Option Int}
    (answer : (Store.getCursor : Storing σ (Option Int)).answer index.store = .ok cursor)
    (source : Option Int → Except ConnectFailure (List Cue)) :
    (run config cancelAt source index).asked = asked? cursor := by
  unfold run
  rw [Storing.run_eq, answer]
  dsimp only
  rcases asked? cursor with _ | asked
  · rfl
  · dsimp only
    split <;> rfl

omit [ApartStore σ] in
theorem opensAt_iff {cancelAt : Option Nat} {index : Index σ} {cursor asked : Option Int}
    (answer : (Store.getCursor : Storing σ (Option Int)).answer index.store = .ok cursor) :
    OpensAt config cancelAt index asked ↔ asked? cursor = some asked := by
  constructor
  · intro opensAt
    exact (asked_run answer fun _ => .ok []).symm.trans (opensAt _).1
  · intro after source
    refine ⟨(asked_run answer source).trans after, fun other same => ?_⟩
    unfold run
    rw [Storing.run_eq, answer]
    dsimp only
    rw [after]
    dsimp only
    rw [same]

theorem breaksOff_iff {cancelAt : Option Nat} {index : Index σ} {cursor : Option Int}
    (answer : (Store.getCursor : Storing σ (Option Int)).answer index.store = .ok cursor) :
    BreaksOff config cancelAt index ↔ asked? cursor = none := by
  constructor
  · intro breaksOff
    have broken := breaksOff fun _ => .ok []
    exact (asked_run answer _).symm.trans (congrArg RunReport.asked broken)
  · intro last source
    unfold run
    rw [Storing.run_eq, answer, ApartStore.getCursor_after]
    dsimp only
    rw [last]

/-- The greatest position. -/
def greatest : Int := 2 ^ 63 - 1

theorem asked?_of_ne_greatest {c : Int} (word : IsWord c) (smaller : c ≠ greatest) :
    asked? (some c) = some (some (c + 1)) := by
  have inside : c + 1 < Nat.pow 2 63 := by
    have bound : c < 2 ^ 63 := word.2
    unfold greatest at smaller
    show c + 1 < 2 ^ 63
    omega
  show (if c + 1 < Nat.pow 2 63 then some (c + 1) else none).map some = _
  rw [if_pos inside, Option.map_some]

theorem asked?_greatest : asked? (some greatest) = none := by decide

/-- **Every stored position has a successor to go on from, but for the greatest.** If a run over either transport
leaves a position, then it is a number of 64 bits, and every run that finds it asks for the stream at its successor,
unless there is none of 64 bits. Exactly after the greatest number it breaks off instead. -/
theorem resumes_after_iff {cancelAt : Option Nat} {dial : Dial} {subscription : Subscription} {index : Index σ}
    (begun : ∀ p, position index.store = some p → IsWord p) {c : Int}
    (left : position (run config cancelAt (fun asked => (subscription.connect dial asked).map Program.cuesOf)
      index).index.store = some c)
    (config' : PipelineConfig) (cancelAt' : Option Nat) {next : Index σ} (kept : position next.store = some c)
    {cursor : Option Int} (answer : (Store.getCursor : Storing σ (Option Int)).answer next.store = .ok cursor) :
    IsWord c ∧ (OpensAt config' cancelAt' next (some (c + 1)) ↔ c ≠ greatest) ∧
      (BreaksOff config' cancelAt' next ↔ c = greatest) := by
  obtain rfl : some c = cursor := kept.symm.trans (ApartStore.position_of_getCursor answer)
  have word : IsWord c := by
    refine position_of_run begun (fun asked cues opens commit listed => ?_) left
    obtain ⟨played, connected, rfl⟩ := ok_of_map opens
    exact Subscription.isWord_of_connect connected (Program.given_of_mem_cuesOf listed)
  rw [opensAt_iff answer, breaksOff_iff answer]
  by_cases last : c = greatest
  · subst last
    rw [asked?_greatest]
    exact ⟨word, ⟨nofun, fun smaller => absurd rfl smaller⟩, ⟨fun _ => rfl, fun _ => rfl⟩⟩
  · rw [asked?_of_ne_greatest word last]
    exact ⟨word, ⟨fun _ => last, fun _ => rfl⟩, ⟨nofun, fun same => absurd same last⟩⟩

end Pipeline

/-! ### A position with a successor, and the last one -/

namespace LastPosition

open Pipeline (run OpensAt BreaksOff opensAt_iff breaksOff_iff greatest asked?_greatest resumes_after_iff)

/-- A like that is taken back, as a Jetstream tells of it. -/
def text (time : String) : String :=
  "\x7b\"did\":\"did:plc:hdhoaan3xa3jiuq4fg4mefid\",\"time_us\":" ++ time ++ ",\"kind\":\"commit\"," ++
    "\"commit\":\x7b\"operation\":\"delete\",\"collection\":\"app.bsky.feed.like\",\"rkey\":\"k\"\x7d\x7d"

def subscription : Subscription := .jetstream { endpoint := "ws://[::1]:6008/subscribe" }

def dial (time : String) : Dial := fun _ => .ok [.text (text time)]

def config : PipelineConfig := { workers := 1 }

/-- The index after a run that is given one message. -/
def ran (time : String) : Index Memory :=
  (run config none (fun asked => (subscription.connect (dial time) asked).map Program.cuesOf) ⟨{}, {}⟩).index

theorem ordinary_resumed :
    position (ran "1737911463522000").store = some 1737911463522000 ∧
      OpensAt config none (ran "1737911463522000") (some 1737911463522001) := by
  have left : position (ran "1737911463522000").store = some 1737911463522000 := by decide +kernel
  have empty : ∀ p, position ({} : Memory) = some p → IsWord p := by
    intro p stored
    cases stored
  obtain ⟨-, successor, -⟩ := resumes_after_iff empty left config none left (congrArg Except.ok left)
  exact ⟨left, successor.mpr (by decide)⟩

/-- The greatest time is read, given out, handled and stored; the next run breaks off. -/
theorem last_not_resumed :
    position (ran "9223372036854775807").store = some greatest ∧
      ¬ OpensAt config none (ran "9223372036854775807") (some (greatest + 1)) ∧
      BreaksOff config none (ran "9223372036854775807") := by
  have left : position (ran "9223372036854775807").store = some greatest := by decide +kernel
  have answer : (Store.getCursor : Storing Memory (Option Int)).answer (ran "9223372036854775807").store =
      .ok (some greatest) := congrArg Except.ok left
  refine ⟨left, fun opens => ?_, (breaksOff_iff answer).mpr asked?_greatest⟩
  have asked := (opensAt_iff answer).mp opens
  rw [asked?_greatest] at asked
  cases asked

end LastPosition

end FeedIndex
