import FeedIndex.Proofs.Ledger.Relational
import FeedIndex.Proofs.Resuming
import Mathlib.Logic.Relation

/-!
# The stored position only goes up

The flusher does not read the position that is stored; it remembers the one it wrote last. As long as nobody else
writes it, that is the position that is stored: a write that succeeds changes both, and one that fails changes
neither. So the flusher writes exactly if the watermark has passed the stored position, and the stored position never
goes back, however the workers' positions go up and down.
-/

namespace FeedIndex

/-! ## Stores that fail as a whole -/

/-- **SteadyStore** — a store with a position that stays as it is if the position cannot be set. -/
class SteadyStore (σ : Type) [Store σ] extends PositionedStore σ where
  after_of_failed {n : Int} {store : σ} {failure : StoreFailure}
    (failed : (Store.setCursor n : Storing σ Unit).answer store = .error failure) :
    (Store.setCursor n : Storing σ Unit).after store = store

instance : SteadyStore Memory where
  after_of_failed := nofun

instance : SteadyStore Relational where
  after_of_failed := nofun

instance {σ : Type} [Store σ] [SteadyStore σ] : SteadyStore (Faulty σ) where
  after_of_failed := by
    intro n store failure failed
    change ((Faulty.guarded .setCursor (Store.setCursor n : Storing σ Unit)).run.run store).1 = _ at failed
    show ((Faulty.guarded .setCursor (Store.setCursor n : Storing σ Unit)).run.run store).2 = store
    rw [Faulty.run_guarded] at failed ⊢
    split at failed
    · next refused => rw [if_pos refused]
    · next serving =>
      rw [if_neg serving, SteadyStore.after_of_failed failed]

open PositionedStore

/-! ## One flush -/

/-- The position has not gone back, and has not been lost. -/
def Onward (before after : Option Int) : Prop := ∀ p, before = some p → ∃ q, after = some q ∧ p ≤ q

theorem Onward.refl (position : Option Int) : Onward position position := fun p stored => ⟨p, stored, Int.le_refl p⟩

theorem Onward.trans {before between after : Option Int} (first : Onward before between)
    (second : Onward between after) : Onward before after := by
  intro p stored
  obtain ⟨q, stored', le⟩ := first p stored
  obtain ⟨r, stored'', le'⟩ := second q stored'
  exact ⟨r, stored'', Int.le_trans le le'⟩

variable {σ : Type} [Store σ] [SteadyStore σ]

namespace Flusher

/-- **Flushed** — what a flush comes to, by the watermark and the position that is stored. -/
inductive Flushed (progress : Watermark) (flusher : Flusher) (store : σ) : Option Int × Flusher × σ → Prop
  /-- There is no watermark, or it has not passed the stored position: the store is not asked for anything. -/
  | idle (passed : ∀ w, progress.low? = some w → ∃ p, position store = some p ∧ w ≤ p) :
      Flushed progress flusher store (none, flusher, store)
  /-- The watermark is ahead of the stored position, and the store takes it. -/
  | stored {w : Int} {store' : σ} (low : progress.low? = some w) (ahead : ∀ p, position store = some p → p < w)
      (asked : (Store.setCursor w : Storing σ Unit).run.run store = (.ok (), store'))
      (kept : position store' = some w) : Flushed progress flusher store (some w, flusher.wrote w, store')
  /-- The watermark is ahead of the stored position, and the store does not take it. Nothing has changed, so that the
  next flush finds it ahead again. -/
  | failed {w : Int} {failure : StoreFailure} (low : progress.low? = some w)
      (ahead : ∀ p, position store = some p → p < w)
      (asked : (Store.setCursor w : Storing σ Unit).run.run store = (.error failure, store)) :
      Flushed progress flusher store (none, flusher, store)

variable {progress : Watermark} {flusher : Flusher} {store : σ}

/-- **A flush goes by the stored position**, if that is the one that the flusher remembers. -/
theorem flushed_flush (known : flusher.flushed = position store) :
    Flushed progress flusher store (flusher.flush progress store) := by
  unfold flush
  rcases due : flusher.due? progress with _ | w
  · refine .idle fun w low => ?_
    by_contra missed
    have written : flusher.due? progress = some w := by
      refine due?_eq_some_iff.mpr ⟨low, fun last remembered => ?_⟩
      by_contra behind
      exact missed ⟨last, known.symm.trans remembered, Int.not_lt.mp behind⟩
    cases due.symm.trans written
  · obtain ⟨low, ahead⟩ := due?_eq_some_iff.mp due
    rw [known] at ahead
    -- only now is the store asked, once, and the flusher goes by the answer
    dsimp only
    rcases asked : (Store.setCursor w : Storing σ Unit).run.run store with ⟨failure | ⟨⟩, store'⟩
    · have answer : (Store.setCursor w : Storing σ Unit).answer store = .error failure := congrArg Prod.fst asked
      have after : (Store.setCursor w : Storing σ Unit).after store = store' := congrArg Prod.snd asked
      obtain rfl : store = store' := (SteadyStore.after_of_failed answer).symm.trans after
      exact .failed low ahead asked
    · have answer : (Store.setCursor w : Storing σ Unit).answer store = .ok () := congrArg Prod.fst asked
      have after : (Store.setCursor w : Storing σ Unit).after store = store' := congrArg Prod.snd asked
      exact .stored low ahead asked (after ▸ position_after answer)

/-- **Keeps** — what a flush makes of a flusher and its store: the flusher still remembers what is stored, and that
has not gone back. -/
structure Keeps (flusher : Flusher) (store : σ) (flusher' : Flusher) (store' : σ) : Prop where
  known : flusher'.flushed = position store'
  onward : Onward (position store) (position store')

theorem Keeps.refl (known : flusher.flushed = position store) : Keeps flusher store flusher store :=
  ⟨known, .refl _⟩

theorem Flushed.keeps {result : Option Int × Flusher × σ} (flushed : Flushed progress flusher store result)
    (known : flusher.flushed = position store) : Keeps flusher store result.2.1 result.2.2 := by
  cases flushed with
  | idle _ => exact .refl known
  | stored _ ahead _ kept => exact ⟨kept.symm, fun p stored => ⟨_, kept, Int.le_of_lt (ahead p stored)⟩⟩
  | failed _ _ _ => exact .refl known

theorem keeps_flush (progress : Watermark) (known : flusher.flushed = position store) :
    Keeps flusher store (flusher.flush progress store).2.1 (flusher.flush progress store).2.2 :=
  (flushed_flush known).keeps known

theorem keeps_flushTimes (progress : Watermark) (count : Nat) (known : flusher.flushed = position store) :
    Keeps flusher store (flushTimes progress count flusher store).1 (flushTimes progress count flusher store).2 := by
  induction count generalizing flusher store with
  | zero => exact .refl known
  | succ count ih =>
    have first := keeps_flush progress known
    have rest := ih first.known
    exact ⟨rest.known, first.onward.trans rest.onward⟩

end Flusher

/-! ## Runs -/

namespace Flushing

/-- **Turn** — what happens while nobody else writes the position: a worker finishes a commit, the watermark is
flushed, a flusher that runs once per period is started, left alone for some time or stopped, or something else goes
on with the store, which may also fall out of service or come back. -/
inductive Turn (s : Flushing σ) : Flushing σ → Prop
  | recorded (worker : Nat) (position : Int) : Turn s (s.record worker position)
  | flushed : Turn s s.flush.2
  | started : Turn s s.start
  | slept (duration : Nat) : Turn s (s.sleep duration)
  | stopped : Turn s s.stop.2
  | elsewhere {store : σ} (same : position store = position s.store) : Turn s { s with store }

variable {s₀ s t : Flushing σ}

theorem keeps_sleep (duration : Nat) (known : s.flusher.flushed = position s.store) :
    Flusher.Keeps s.flusher s.store (s.sleep duration).flusher (s.sleep duration).store := by
  unfold sleep
  rcases s.ticker with _ | ticker
  · exact .refl known
  · exact Flusher.keeps_flushTimes s.progress _ known

theorem keeps_stop (known : s.flusher.flushed = position s.store) :
    Flusher.Keeps s.flusher s.store s.stop.2.flusher s.stop.2.store := by
  unfold stop
  rcases s.ticker with _ | ticker
  · exact .refl known
  · exact Flusher.keeps_flush s.progress known

/-- After every turn the flusher remembers what is stored, and that has not gone back. -/
theorem Turn.keeps (turn : Turn s t) (known : s.flusher.flushed = position s.store) :
    Flusher.Keeps s.flusher s.store t.flusher t.store := by
  cases turn with
  | recorded _ _ => exact .refl known
  | flushed => exact Flusher.keeps_flush s.progress known
  | started => exact .refl known
  | slept duration => exact keeps_sleep duration known
  | stopped => exact keeps_stop known
  | elsewhere same =>
    refine ⟨known.trans same.symm, ?_⟩
    rw [same]
    exact .refl _

theorem keeps_run (run : Relation.ReflTransGen Turn s t) (known : s.flusher.flushed = position s.store) :
    Flusher.Keeps s.flusher s.store t.flusher t.store := by
  induction run with
  | refl => exact .refl known
  | tail _ turn keeps =>
    have next := turn.keeps keeps.known
    exact ⟨next.known, keeps.onward.trans next.onward⟩

/-- **The stored position only goes up.** A flusher starts with the position that is stored, and nobody else writes it.
Then at every moment `s` of the run the flusher remembers what is stored; at every later moment `t` the stored position
is there still, and no lower; and a flush at `s` asks the store to set the watermark exactly if that is ahead of the
stored position, or none is stored. -/
theorem position_advances (known : s₀.flusher.flushed = position s₀.store)
    (run : Relation.ReflTransGen Turn s₀ s) (later : Relation.ReflTransGen Turn s t) :
    s.flusher.flushed = position s.store ∧ Onward (position s.store) (position t.store) ∧
      Flusher.Flushed s.progress s.flusher s.store (s.flusher.flush s.progress s.store) := by
  have known' := (keeps_run run known).known
  exact ⟨known', (keeps_run later known').onward, Flusher.flushed_flush known'⟩

end Flushing

/-! ### A write that is tried again -/

namespace Retry

/-- Two workers, and a store that takes no position at present. -/
def start : Flushing (Faulty Memory) := { progress := .fresh 2, flusher := ⟨none, []⟩, store := ⟨{}, [.setCursor]⟩ }

/-- Both workers have finished a commit. -/
def ahead : Flushing (Faulty Memory) := (start.record 0 100).record 1 90

/-- The watermark has been flushed, in vain, and the store is in service again. -/
def restored : Flushing (Faulty Memory) :=
  { ahead.flush.2 with store := ahead.flush.2.store.setFailing .setCursor false }

/-- The watermark has been flushed again, and a worker has gone back behind it. -/
def behind : Flushing (Faulty Memory) := restored.flush.2.record 0 7

theorem run_restored : Relation.ReflTransGen Flushing.Turn start restored := by
  have recorded : Relation.ReflTransGen Flushing.Turn start ahead :=
    .tail (.single (.recorded 0 100)) (.recorded 1 90)
  exact .tail (.tail recorded .flushed) (.elsewhere rfl)

theorem run_behind : Relation.ReflTransGen Flushing.Turn restored behind :=
  .tail (.single .flushed) (.recorded 0 7)

/-- What could not be stored at first is stored by the next flush, and a worker that goes back does not undo it. -/
theorem stored_by_next :
    (restored.flusher.flushed = position restored.store ∧ Onward (position restored.store) (position behind.store) ∧
      Flusher.Flushed restored.progress restored.flusher restored.store
        (restored.flusher.flush restored.progress restored.store)) ∧
      ahead.flush.1 = none ∧ restored.store.base.cursor = none ∧ restored.flush.1 = some 90 ∧
      behind.progress.low? = some 7 ∧ behind.flush.1 = none ∧ behind.flush.2.store.base.cursor = some 90 :=
  ⟨Flushing.position_advances (show start.flusher.flushed = position start.store from rfl) run_restored run_behind,
    by decide +kernel⟩

end Retry

end FeedIndex
