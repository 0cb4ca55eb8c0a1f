import FeedIndex.Proofs.Crew
import FeedIndex.Proofs.Faulty
import FeedIndex.Proofs.Ledger.Memory
import FeedIndex.Proofs.Prefixes

/-!
# Where a run can go on

The watermark is meant to be a position up to which every commit has been handled, so that a run that stops
at any time can go on after the position it has stored. It is one, except for a worker that has not recorded
anything yet: such a worker does not count, and a commit that it is still busy with can be overtaken. A run
can go on after the stored position at any time exactly if no flush overtakes such a worker.
-/

namespace FeedIndex

/-! ## Stores with a position -/

/-- **PositionedStore** — a store whose position is what was last set. -/
class PositionedStore (σ : Type) [Store σ] where
  position : σ → Option Int
  position_after {n : Int} {store : σ}
    (done : (Store.setCursor n : Storing σ Unit).answer store = .ok ()) :
    position ((Store.setCursor n : Storing σ Unit).after store) = some n

instance {σ : Type} [Store σ] [LedgerStore σ] : PositionedStore σ where
  position store := (LedgerStore.ledger store).position
  position_after := by
    intro n store _
    rw [LedgerStore.ledger_after_of_perform _ _ (StoreOperation.perform_setCursor ⟨0, 0⟩ n)]
    rfl

/-- A store that is out of service at times has a position as well. -/
instance {σ : Type} [Store σ] [PositionedStore σ] : PositionedStore (Faulty σ) where
  position store := PositionedStore.position store.base
  position_after := by
    intro n store done
    change ((Faulty.guarded .setCursor (Store.setCursor n : Storing σ Unit)).run.run store).1 = _ at done
    show PositionedStore.position
      ((Faulty.guarded .setCursor (Store.setCursor n : Storing σ Unit)).run.run store).2.base = _
    rw [Faulty.run_guarded] at done ⊢
    by_cases failing : StoreMethod.setCursor ∈ store.failing
    · rw [if_pos failing] at done
      cases done
    · rw [if_neg failing] at done ⊢
      exact PositionedStore.position_after done

namespace Flusher

variable {σ : Type} [Store σ] {progress : Watermark} {flusher : Flusher} {store : σ}

/-- What is written is the watermark, and the store has taken it. -/
theorem of_flush_eq_some {n : Int} (h : (flusher.flush progress store).1 = some n) :
    progress.low? = some n ∧ (Store.setCursor n : Storing σ Unit).answer store = .ok () ∧
      (flusher.flush progress store).2.2 = (Store.setCursor n : Storing σ Unit).after store := by
  unfold flush at h ⊢
  rcases due : flusher.due? progress with _ | position
  · rw [due] at h
    cases h
  · rw [due] at h
    dsimp only at h ⊢
    rw [Storing.run_eq] at h ⊢
    rcases answer : (Store.setCursor position : Storing σ Unit).answer store with failure | ⟨⟩
    · rw [answer] at h
      cases h
    · rw [answer] at h
      obtain rfl := Option.some.inj h
      exact ⟨(due?_eq_some_iff.mp due).1, answer, rfl⟩

theorem writes_flush : (flusher.flush progress store).2.1.writes =
    flusher.writes ++ (flusher.flush progress store).1.toList := by
  unfold flush
  rcases flusher.due? progress with _ | position
  · simp
  · dsimp only
    rcases (Store.setCursor position : Storing σ Unit).run.run store with ⟨failure | ⟨⟩, store'⟩
    · simp
    · rfl

end Flusher

namespace Crew

variable {σ : Type} [Store σ] {handler : Handler} {stream : List Commit} {s : Crew σ}

/-! ## Positions along the stream -/

/-- **InOrder** — what the positions of a crew have to do with each other: the stream goes on behind
everything that was taken from it, and a worker is busy with something behind all that it has recorded. -/
structure InOrder (stream : List Commit) (s : Crew σ) : Prop where
  ordered : s.upcoming.Pairwise (·.seq < ·.seq)
  known : ∀ commit ∈ s.upcoming, commit ∈ stream ∧ 0 ≤ commit.seq
  taken : ∀ worker hand, s.hand? worker = some hand →
    (∃ commit ∈ stream, commit.seq = hand.position) ∧ 0 ≤ hand.position ∧
      ∀ commit ∈ s.upcoming, hand.position < commit.seq
  recorded : ∀ worker position, s.recorded? worker = some position →
    0 ≤ position ∧ ∀ commit ∈ s.upcoming, position < commit.seq
  behind : ∀ worker position hand, s.recorded? worker = some position → s.hand? worker = some hand →
    position < hand.position

omit [Store σ] in
theorem inOrder_start (workers : Nat) (ordered : stream.Pairwise (·.seq < ·.seq))
    (natural : ∀ commit ∈ stream, 0 ≤ commit.seq) (flushed : Option Int) (index : Index σ) :
    InOrder stream (start workers stream flushed index) := by
  have idle : ∀ worker hand, (start workers stream flushed index).hand? worker ≠ some hand := by
    intro worker hand busy
    rw [hand?_start] at busy
    cases busy
  have unrecorded : ∀ worker position,
      (start workers stream flushed index).recorded? worker ≠ some position := by
    intro worker position found
    have hmem := List.mem_of_getElem? (Option.join_eq_some_iff.mp found)
    cases List.eq_of_mem_replicate hmem
  refine ⟨ordered, ?_, ?_, ?_, ?_⟩
  · intro commit hmem
    exact ⟨hmem, natural commit hmem⟩
  · intro worker hand busy
    exact absurd busy (idle worker hand)
  · intro worker position found
    exact absurd found (unrecorded worker position)
  · intro worker position hand found
    exact absurd found (unrecorded worker position)

omit [Store σ] in
/-- What a worker has recorded after one of them has finished. -/
theorem recorded?_of_record {worker other : Nat} {position found : Int} {progress : Watermark}
    (h : ((progress.record worker position).slots[other]?).join = some found) :
    other = worker ∧ found = position ∨ other ≠ worker ∧ (progress.slots[other]?).join = some found := by
  unfold Watermark.record at h
  rw [List.getElem?_set] at h
  by_cases hother : worker = other
  · subst hother
    rw [if_pos rfl] at h
    split at h
    · exact .inl ⟨rfl, (Option.some.inj h).symm⟩
    · cases h
  · rw [if_neg hother] at h
    exact .inr ⟨Ne.symm hother, h⟩

omit [Store σ] in
/-- A worker that takes the next commit keeps the positions in order. -/
theorem InOrder.take (inOrder : InOrder stream s) {worker : Nat} {commit : Commit} {rest : List Commit}
    (upcoming : s.upcoming = commit :: rest) :
    InOrder stream { s.setHand worker (some ⟨commit.seq, commit.events, none⟩) with upcoming := rest } := by
  have ordered := inOrder.ordered
  rw [upcoming, List.pairwise_cons] at ordered
  have hcommit : commit ∈ s.upcoming := by
    rw [upcoming]
    exact List.mem_cons_self
  have hrest : ∀ other ∈ rest, other ∈ s.upcoming := by
    intro other hmem
    rw [upcoming]
    exact List.mem_cons_of_mem _ hmem
  refine ⟨ordered.2, ?_, ?_, ?_, ?_⟩
  · intro other hmem
    exact inOrder.known other (hrest other hmem)
  · intro other hand busy
    rcases hand?_of_setHand busy with ⟨rfl, heq⟩ | ⟨-, held⟩
    · obtain rfl := Option.some.inj heq
      have natural := (inOrder.known commit hcommit).2
      exact ⟨⟨commit, (inOrder.known commit hcommit).1, rfl⟩, natural, ordered.1⟩
    · obtain ⟨fromStream, natural, before⟩ := inOrder.taken other hand held
      refine ⟨fromStream, natural, ?_⟩
      intro next hmem
      exact before next (hrest next hmem)
  · intro other position found
    obtain ⟨natural, before⟩ := inOrder.recorded other position found
    refine ⟨natural, ?_⟩
    intro next hmem
    exact before next (hrest next hmem)
  · intro other position hand found busy
    rcases hand?_of_setHand busy with ⟨rfl, heq⟩ | ⟨-, held⟩
    · obtain rfl := Option.some.inj heq
      exact (inOrder.recorded other position found).2 commit hcommit
    · exact inOrder.behind other position hand found held

omit [Store σ] in
/-- Whatever a worker does about its commit, the positions stay in order. -/
theorem InOrder.goOn (inOrder : InOrder stream s) {worker : Nat} {hand : Hand} (busy : s.hand? worker = some hand)
    (rest : List Event) (writing : Option PostRow) (index : Index σ) :
    InOrder stream { s.setHand worker (some ⟨hand.position, rest, writing⟩) with index } := by
  -- every worker stands where it stood before
  have same : ∀ other found, (s.setHand worker (some ⟨hand.position, rest, writing⟩)).hand? other = some found →
      ∃ old, s.hand? other = some old ∧ old.position = found.position := by
    intro other found hfound
    rcases hand?_of_setHand hfound with ⟨rfl, heq⟩ | ⟨-, held⟩
    · obtain rfl := Option.some.inj heq
      exact ⟨hand, busy, rfl⟩
    · exact ⟨found, held, rfl⟩
  refine ⟨inOrder.ordered, inOrder.known, ?_, inOrder.recorded, ?_⟩
  · intro other found hfound
    obtain ⟨old, held, heq⟩ := same other found hfound
    rw [← heq]
    exact inOrder.taken other old held
  · intro other position found hrecorded hfound
    obtain ⟨old, held, heq⟩ := same other found hfound
    rw [← heq]
    exact inOrder.behind other position old hrecorded held

omit [Store σ] in
/-- A worker that has finished keeps the positions in order. -/
theorem InOrder.finish (inOrder : InOrder stream s) {worker : Nat} {position : Int}
    (done : s.hand? worker = some ⟨position, [], none⟩) :
    InOrder stream { s.setHand worker none with progress := s.progress.record worker position } := by
  obtain ⟨-, natural, before⟩ := inOrder.taken worker _ done
  -- nobody is busy but who was busy before
  have held : ∀ other hand, (s.setHand worker none).hand? other = some hand →
      other ≠ worker ∧ s.hand? other = some hand := by
    intro other hand busy
    rcases hand?_of_setHand busy with ⟨-, heq⟩ | held
    · cases heq
    · exact held
  refine ⟨inOrder.ordered, inOrder.known, ?_, ?_, ?_⟩
  · intro other hand busy
    exact inOrder.taken other hand (held other hand busy).2
  · intro other found hfound
    rcases recorded?_of_record hfound with ⟨-, rfl⟩ | ⟨-, hold⟩
    · exact ⟨natural, before⟩
    · exact inOrder.recorded other found hold
  · intro other found hand hfound busy
    obtain ⟨hother, hheld⟩ := held other hand busy
    rcases recorded?_of_record hfound with ⟨heq, -⟩ | ⟨-, hold⟩
    · exact absurd heq hother
    · exact inOrder.behind other found hand hold hheld

/-- **Every move keeps the positions in order.** -/
theorem InOrder.step (inOrder : InOrder stream s) (move : Move) : InOrder stream (s.step handler move) := by
  have way := steps_step handler s move
  generalize s.step handler move = s' at way
  cases way with
  | stay => exact inOrder
  | take _ upcoming => exact inOrder.take upcoming
  | handle busy => exact inOrder.goOn busy _ none _
  | plan busy _ => exact inOrder.goOn busy _ _ _
  | write busy => exact inOrder.goOn busy _ none _
  | giveUp busy => exact inOrder.goOn busy [] none s.index
  | finish done => exact inOrder.finish done
  | flush => exact ⟨inOrder.ordered, inOrder.known, inOrder.taken, inOrder.recorded, inOrder.behind⟩

/-! ## What has been handled -/

/-- **Settled** — a commit of the stream has been handled: it has been handed over, and no worker has events
of it left. -/
def Settled (s : Crew σ) (commit : Commit) : Prop :=
  commit ∉ s.upcoming ∧ ∀ worker hand, s.hand? worker = some hand → hand.position = commit.seq → hand.rest = []

/-- **Covers** — everything up to a position has been handled. -/
def Covers (s : Crew σ) (position : Int) : Prop :=
  (∀ commit ∈ s.upcoming, position < commit.seq) ∧
    ∀ worker hand, s.hand? worker = some hand → hand.position ≤ position → hand.rest = []

/-- **Overtakes** — a flush writes a position at or after a commit that a worker is still busy with, who has
not recorded anything yet. -/
def Overtakes (s : Crew σ) : Prop :=
  ∃ position, (s.flusher.flush s.progress s.index.store).1 = some position ∧
    ∃ worker hand, s.hand? worker = some hand ∧ s.recorded? worker = none ∧
      hand.position ≤ position ∧ hand.rest ≠ []

omit [Store σ] in
theorem Covers.settled {position : Int} (covers : s.Covers position) {commit : Commit}
    (h : commit.seq ≤ position) : s.Settled commit := by
  constructor
  · intro upcoming
    have := covers.1 commit upcoming
    omega
  · intro worker hand busy heq
    exact covers.2 worker hand busy (by omega)

omit [Store σ] in
/-- The watermark covers what has been handled, unless it overtakes a worker. -/
theorem covers_low {position : Int} (inOrder : InOrder stream s) (low : s.progress.low? = some position)
    (fair : ∀ worker hand, s.hand? worker = some hand → s.recorded? worker = none →
      hand.position ≤ position → hand.rest = []) : s.Covers position := by
  obtain ⟨⟨hmem, -⟩, least⟩ := Watermark.low?_eq_some_iff.mp low
  constructor
  · intro commit upcoming
    obtain ⟨worker, hworker⟩ := List.mem_iff_getElem?.mp hmem
    have recorded : s.recorded? worker = some position := by
      unfold recorded?
      rw [hworker]
      rfl
    exact (inOrder.recorded worker position recorded).2 commit upcoming
  · intro worker hand busy hle
    rcases recorded : s.recorded? worker with _ | last
    · exact fair worker hand busy recorded hle
    · -- a worker that counts is busy with something behind the watermark
      have natural := (inOrder.recorded worker last recorded).1
      have behind := inOrder.behind worker last hand recorded busy
      have counted : some last ∈ s.progress.slots :=
        List.mem_of_getElem? (Option.join_eq_some_iff.mp recorded)
      have hlast : position ≤ last := by
        refine least last counted ?_
        unfold Watermark.unset
        omega
      omega

omit [Store σ] in
/-- A worker with events left stands behind what is covered, so that it may go on. -/
theorem Covers.goOn {position : Int} (covers : s.Covers position) {worker : Nat} {hand : Hand}
    (busy : s.hand? worker = some hand) (unfinished : hand.rest ≠ []) (rest : List Event)
    (writing : Option PostRow) (index : Index σ) :
    Covers { s.setHand worker (some ⟨hand.position, rest, writing⟩) with index } position := by
  refine ⟨covers.1, ?_⟩
  intro other found hfound hle
  rcases hand?_of_setHand hfound with ⟨-, heq⟩ | ⟨-, held⟩
  · obtain rfl := Option.some.inj heq
    exact absurd (covers.2 worker hand busy hle) unfinished
  · exact covers.2 other found held hle

/-- What is covered stays covered, whatever a crew does. -/
theorem Covers.step {position : Int} (covers : s.Covers position) (move : Move) :
    (s.step handler move).Covers position := by
  have way := steps_step handler s move
  generalize s.step handler move = s' at way
  cases way with
  | stay => exact covers
  | @take worker commit rest _ upcoming =>
    -- the commit that is taken lies behind what is covered
    have hcommit : position < commit.seq := by
      apply covers.1
      rw [upcoming]
      exact List.mem_cons_self
    constructor
    · intro other hmem
      apply covers.1
      rw [upcoming]
      exact List.mem_cons_of_mem _ hmem
    · intro other hand busy hle
      rcases hand?_of_setHand busy with ⟨-, heq⟩ | ⟨-, held⟩
      · obtain rfl := Option.some.inj heq
        dsimp only at hle
        omega
      · exact covers.2 other hand held hle
  | handle busy => exact covers.goOn busy nofun _ _ _
  | plan busy _ => exact covers.goOn busy nofun _ _ _
  | write busy => exact covers.goOn busy nofun _ _ _
  | @giveUp worker hand busy =>
    refine ⟨covers.1, ?_⟩
    intro other found hfound hle
    rcases hand?_of_setHand hfound with ⟨-, heq⟩ | ⟨-, held⟩
    · obtain rfl := Option.some.inj heq
      rfl
    · exact covers.2 other found held hle
  | finish _ =>
    refine ⟨covers.1, ?_⟩
    intro other found hfound hle
    rcases hand?_of_setHand hfound with ⟨-, heq⟩ | ⟨-, held⟩
    · cases heq
    · exact covers.2 other found held hle
  | flush => exact covers

/-! ## Going on after a stop -/

/-- **Safe** — the positions of a crew are in order, and everything up to each position that it has written
has been handled. -/
structure Safe (stream : List Commit) (s : Crew σ) : Prop where
  inOrder : InOrder stream s
  covers : ∀ position ∈ s.flusher.writes, s.Covers position

/-- Only a flush writes, and it writes what the flusher says. -/
theorem writes_step (move : Move) {position : Int} (h : position ∈ (s.step handler move).flusher.writes) :
    position ∈ s.flusher.writes ∨
      move = .flush ∧ (s.flusher.flush s.progress s.index.store).1 = some position := by
  have way := steps_step handler s move
  generalize s.step handler move = s' at way h
  cases way with
  | flush =>
    change position ∈ (s.flusher.flush s.progress s.index.store).2.1.writes at h
    rw [Flusher.writes_flush] at h
    rcases List.mem_append.mp h with old | new
    · exact .inl old
    · exact .inr ⟨rfl, Option.mem_toList.mp new⟩
  | _ => exact .inl h

/-- **A move that overtakes nobody keeps a crew safe.** -/
theorem Safe.step (safe : Safe stream s) (handler : Handler) {move : Move} (fair : move = .flush → ¬ s.Overtakes) :
    Safe stream (s.step handler move) := by
  refine ⟨safe.inOrder.step move, ?_⟩
  intro position hmem
  rcases writes_step move hmem with old | ⟨rfl, written⟩
  · exact (safe.covers position old).step move
  · -- the flush is what the watermark covers
    have covers : s.Covers position := by
      refine covers_low safe.inOrder (Flusher.of_flush_eq_some written).1 ?_
      intro worker hand busy unrecorded hle
      by_contra unfinished
      exact fair rfl ⟨position, written, worker, hand, busy, unrecorded, hle, unfinished⟩
    exact covers.step .flush

/-! ### A crew at rest -/

/-- What is still to come was to come before. -/
theorem upcoming_step (move : Move) {commit : Commit} (later : commit ∈ (s.step handler move).upcoming) :
    commit ∈ s.upcoming := by
  have way := steps_step handler s move
  generalize s.step handler move = s' at way later
  cases way with
  | take _ upcoming =>
    rw [upcoming]
    exact List.mem_cons_of_mem _ later
  | _ => exact later

/-- **What was written lies before what is still to come**, even if it overtakes a worker. -/
theorem written_before_upcoming (handler : Handler) (workers : Nat) (ordered : stream.Pairwise (·.seq < ·.seq))
    (natural : ∀ commit ∈ stream, 0 ≤ commit.seq) (flushed : Option Int) (index : Index σ) (moves : List Move) :
    ∀ position ∈ ((start workers stream flushed index).run handler moves).flusher.writes,
      ∀ commit ∈ ((start workers stream flushed index).run handler moves).upcoming, position < commit.seq := by
  have preserved : ∀ (s : Crew σ) move,
      InOrder stream s ∧ (∀ position ∈ s.flusher.writes, ∀ commit ∈ s.upcoming, position < commit.seq) →
      InOrder stream (s.step handler move) ∧ ∀ position ∈ (s.step handler move).flusher.writes,
        ∀ commit ∈ (s.step handler move).upcoming, position < commit.seq := by
    rintro s move ⟨inOrder, before⟩
    refine ⟨inOrder.step move, ?_⟩
    intro position hmem commit later
    have upcoming := upcoming_step move later
    rcases writes_step move hmem with old | ⟨-, written⟩
    · exact before position old commit upcoming
    · -- a watermark is what a worker has recorded, and that lies before all that is still to come
      obtain ⟨⟨slot, -⟩, -⟩ := Watermark.low?_eq_some_iff.mp (Flusher.of_flush_eq_some written).1
      obtain ⟨worker, hworker⟩ := List.mem_iff_getElem?.mp slot
      have recorded : s.recorded? worker = some position := by
        unfold recorded?
        rw [hworker]
        rfl
      exact (inOrder.recorded worker position recorded).2 commit upcoming
  exact (run_invariant preserved ⟨inOrder_start workers ordered natural flushed index, nofun⟩ moves).2

/-! ### A worker alone -/

/-- **Sized** — a crew of so many workers, each with a slot of its own. -/
structure Sized (workers : Nat) (s : Crew σ) : Prop where
  hands : s.hands.length = workers
  slots : s.progress.slots.length = workers

omit [Store σ] in
theorem sized_start (workers : Nat) (flushed : Option Int) (index : Index σ) :
    Sized workers (start workers stream flushed index) :=
  ⟨List.length_replicate, List.length_replicate⟩

theorem Sized.step {workers : Nat} (sized : Sized workers s) (move : Move) :
    Sized workers (s.step handler move) := by
  have way := steps_step handler s move
  generalize s.step handler move = s' at way
  cases way with
  | stay => exact sized
  | take _ _ => exact ⟨List.length_set.trans sized.hands, sized.slots⟩
  | handle _ => exact ⟨List.length_set.trans sized.hands, sized.slots⟩
  | plan _ _ => exact ⟨List.length_set.trans sized.hands, sized.slots⟩
  | write _ => exact ⟨List.length_set.trans sized.hands, sized.slots⟩
  | giveUp _ => exact ⟨List.length_set.trans sized.hands, sized.slots⟩
  | finish _ => exact ⟨List.length_set.trans sized.hands, List.length_set.trans sized.slots⟩
  | flush => exact ⟨sized.hands, sized.slots⟩

/-- A worker alone is not overtaken: the watermark is its own. -/
theorem Sized.not_overtakes (sized : Sized 1 s) : ¬ s.Overtakes := by
  rintro ⟨position, written, worker, hand, busy, unrecorded, -, -⟩
  obtain ⟨⟨hmem, -⟩, -⟩ := Watermark.low?_eq_some_iff.mp (Flusher.of_flush_eq_some written).1
  obtain ⟨slot, hslot⟩ := List.length_eq_one_iff.mp sized.slots
  have hworker : worker < s.hands.length := (List.getElem?_eq_some_iff.mp (mem_hands_of_hand? busy)).1
  rw [sized.hands] at hworker
  obtain rfl : worker = 0 := by omega
  rw [hslot, List.mem_singleton] at hmem
  rw [recorded?, hslot, ← hmem] at unrecorded
  cases unrecorded

variable [PositionedStore σ]

/-- **Resumable** — if the stored position was written by the run, every commit of the stream up to it has
been handled. -/
def Resumable (stream : List Commit) (s : Crew σ) : Prop :=
  ∀ position, PositionedStore.position s.index.store = some position → position ∈ s.flusher.writes →
    ∀ commit ∈ stream, commit.seq ≤ position → s.Settled commit

theorem Safe.resumable (safe : Safe stream s) : Resumable stream s := by
  intro position _ written commit _ hle
  exact (safe.covers position written).settled hle

/-- **A run with one worker** can go on after its stored position at any time. -/
theorem resumable_of_single (handler : Handler) (ordered : stream.Pairwise (·.seq < ·.seq))
    (natural : ∀ commit ∈ stream, 0 ≤ commit.seq) (flushed : Option Int) (index : Index σ)
    (moves : List Move) : Resumable stream ((start 1 stream flushed index).run handler moves) := by
  have preserved : ∀ (s : Crew σ) move, Safe stream s ∧ Sized 1 s →
      Safe stream (s.step handler move) ∧ Sized 1 (s.step handler move) := by
    rintro s move ⟨safe, sized⟩
    exact ⟨safe.step handler fun _ => sized.not_overtakes, sized.step move⟩
  have safe : Safe stream (start 1 stream flushed index) :=
    ⟨inOrder_start 1 ordered natural flushed index, nofun⟩
  exact (run_invariant preserved ⟨safe, sized_start 1 flushed index⟩ moves).1.resumable

/-- After a flush that overtakes a worker a run cannot go on. -/
theorem not_resumable_flush (inOrder : InOrder stream s) (overtakes : s.Overtakes) :
    ¬ Resumable stream s.flush := by
  obtain ⟨position, written, worker, hand, busy, -, hle, unfinished⟩ := overtakes
  obtain ⟨-, done, hstore⟩ := Flusher.of_flush_eq_some written
  obtain ⟨⟨commit, hstream, hseq⟩, -, -⟩ := inOrder.taken worker hand busy
  intro resumable
  have stored : PositionedStore.position s.flush.index.store = some position := by
    show PositionedStore.position (s.flusher.flush s.progress s.index.store).2.2 = some position
    rw [hstore]
    exact PositionedStore.position_after done
  have hwritten : position ∈ s.flush.flusher.writes := by
    show position ∈ (s.flusher.flush s.progress s.index.store).2.1.writes
    rw [Flusher.writes_flush, written]
    simp
  have settled := resumable position stored hwritten commit hstream (by omega)
  exact unfinished (settled.2 worker hand busy hseq.symm)

/-- All along its moves a crew in order is resumable exactly if none of its flushes overtakes a worker. -/
theorem resumable_run_iff {moves : List Move} (safe : Safe stream s) :
    (∀ before, before <+: moves → Resumable stream (s.run handler before)) ↔
      ∀ before last, before ++ [last] <+: moves → last = .flush → ¬ (s.run handler before).Overtakes := by
  -- the crew is safe up to the first flush that overtakes, and cannot go on right after it
  induction moves generalizing s with
  | nil =>
    constructor
    · intro _ before last hbefore
      exact absurd hbefore Prefixes.not_next_prefix_nil
    · intro _ before hbefore
      obtain rfl := List.prefix_nil.mp hbefore
      exact safe.resumable
  | cons move rest ih =>
    rw [Prefixes.forall_prefix_cons_iff, Prefixes.forall_next_cons_iff]
    by_cases fair : move = .flush → ¬ s.Overtakes
    · have rest_iff := ih (safe.step handler fair)
      constructor
      · rintro ⟨-, resumable⟩
        exact ⟨fair, rest_iff.mp resumable⟩
      · rintro ⟨-, fairAfter⟩
        exact ⟨safe.resumable, rest_iff.mpr fairAfter⟩
    · constructor
      · rintro ⟨-, resumable⟩
        -- the first move is a flush that overtakes
        refine absurd ?_ fair
        rintro rfl overtakes
        exact not_resumable_flush safe.inOrder overtakes (resumable [] List.nil_prefix)
      · rintro ⟨first, -⟩
        exact absurd first fair

/-- **A run can go on after its stored position** at any time, under any schedule of any number of workers,
exactly if no flush overtakes a worker that has not recorded anything yet. -/
theorem resumable_iff (handler : Handler) (workers : Nat) (ordered : stream.Pairwise (·.seq < ·.seq))
    (natural : ∀ commit ∈ stream, 0 ≤ commit.seq) (flushed : Option Int) (index : Index σ)
    (moves : List Move) :
    (∀ before, before <+: moves →
        Resumable stream ((start workers stream flushed index).run handler before)) ↔
      ∀ before, before ++ [.flush] <+: moves →
        ¬ ((start workers stream flushed index).run handler before).Overtakes := by
  have safe : Safe stream (start workers stream flushed index) :=
    ⟨inOrder_start workers ordered natural flushed index, nofun⟩
  rw [resumable_run_iff safe]
  constructor
  · intro fair before hbefore
    exact fair before .flush hbefore rfl
  · rintro fair before last hbefore rfl
    exact fair before hbefore

end Crew

/-! ### A first commit that is overtaken -/

namespace Overtaking

/-- The deletion of a post. -/
def deletion (seq : Int) : Event where
  seq := seq
  did := "did:plc:hdhoaan3xa3jiuq4fg4mefid"
  action := .delete
  collection := "app.bsky.feed.post"
  rkey := "p1"
  cid := none
  payload := none

def stream : List Commit := [⟨1, [deletion 1]⟩, ⟨2, [deletion 2]⟩]

/-- Two workers have taken a commit each, and the second one has finished. -/
def meanwhile : List Move := [.take 0, .take 1, .handle 1 ⟨0, 0⟩, .finish 1]

def crew : Crew Memory := Crew.start 2 stream none ⟨{}, {}⟩

/-- The position of the second commit is stored, and nothing of the first one has been handled. -/
theorem second_stored_before_first :
    (crew.run {} (meanwhile ++ [.flush])).index.store.cursor = some 2 ∧
      (crew.run {} (meanwhile ++ [.flush])).flusher.writes = [2] ∧
      (crew.run {} (meanwhile ++ [.flush])).hand? 0 = some ⟨1, [deletion 1], none⟩ := by
  refine ⟨by decide +kernel, by decide +kernel, ?_⟩
  rfl

theorem written : ((crew.run {} meanwhile).flusher.flush (crew.run {} meanwhile).progress
    (crew.run {} meanwhile).index.store).1 = some 2 := by
  decide +kernel

theorem meanwhile_overtakes : (crew.run {} meanwhile).Overtakes := by
  refine ⟨2, written, 0, ⟨1, [deletion 1], none⟩, ?_, ?_, ?_, ?_⟩
  · rfl
  · decide +kernel
  · decide
  · exact nofun

/-- A run that stops then loses the first commit. -/
theorem first_lost :
    ¬ ∀ before, before <+: meanwhile ++ [.flush] → Crew.Resumable stream (crew.run {} before) := by
  have iff := Crew.resumable_iff {} 2 (by decide : stream.Pairwise (·.seq < ·.seq)) (by decide) none
    (⟨{}, {}⟩ : Index Memory) (meanwhile ++ [.flush])
  intro resumable
  exact iff.mp resumable meanwhile List.prefix_rfl meanwhile_overtakes

end Overtaking

end FeedIndex
