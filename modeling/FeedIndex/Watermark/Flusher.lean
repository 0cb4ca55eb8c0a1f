import FeedIndex.Store.Basic
import FeedIndex.Ticker
import FeedIndex.Watermark

/-!
# Flushing the watermark

The low watermark is written to the store once it has moved past what was written before, so the stored
position never goes back. A write that fails changes nothing and is tried again the next time. `Flushing`
does so once per period.
-/

namespace FeedIndex

/-- **Flusher** — what has been written. -/
structure Flusher where
  /-- The stored position, as far as the flusher knows. -/
  flushed : Option Int
  /-- The positions it has written, the first one first. -/
  writes : List Int := []
deriving DecidableEq, Repr

namespace Flusher

/-- **due?** — the position to write: the watermark, if it moved past what was written. -/
def due? (progress : Watermark) (flusher : Flusher) : Option Int :=
  progress.low?.filter fun position =>
    match flusher.flushed with
    | none => true
    | some last => last < position

/-- The flusher after a write. -/
def wrote (position : Int) (flusher : Flusher) : Flusher :=
  ⟨some position, flusher.writes ++ [position]⟩

/-- **flush** — writes the watermark if it is due: the position written, and both sides afterwards. -/
def flush [Store σ] (progress : Watermark) (flusher : Flusher) (store : σ) :
    Option Int × Flusher × σ :=
  match flusher.due? progress with
  | none => (none, flusher, store)
  | some position =>
    match (Store.setCursor position : Storing σ Unit).run.run store with
    | (.ok (), store) => (some position, flusher.wrote position, store)
    | (.error _, store) => (none, flusher, store)

/-- Flushes some times in a row. -/
def flushTimes [Store σ] (progress : Watermark) : Nat → Flusher → σ → Flusher × σ
  | 0, flusher, store => (flusher, store)
  | count + 1, flusher, store =>
    let (_, flusher, store) := flusher.flush progress store
    flushTimes progress count flusher store

theorem due?_eq_some_iff {progress : Watermark} {flusher : Flusher} {position : Int} :
    flusher.due? progress = some position ↔
      progress.low? = some position ∧ ∀ last, flusher.flushed = some last → last < position := by
  unfold due?
  cases flusher.flushed <;> simp [Option.filter_eq_some_iff]

end Flusher

/-! ## Once per period -/

/-- **Flushing** — workers' positions and a flusher over a store, in time. -/
structure Flushing (σ : Type) where
  now : Nat := 0
  progress : Watermark
  flusher : Flusher
  store : σ
  /-- The time between flushes. -/
  period : Nat := 10000
  /-- The ticker of a flusher that runs. -/
  ticker : Option Ticker := none

namespace Flushing

variable {σ : Type} [Store σ]

/-- A worker has finished the commit of a position. -/
def record (worker : Nat) (position : Int) (s : Flushing σ) : Flushing σ :=
  { s with progress := s.progress.record worker position }

/-- **flush** — flushes once. -/
def flush (s : Flushing σ) : Option Int × Flushing σ :=
  let (written, flusher, store) := s.flusher.flush s.progress s.store
  (written, { s with flusher, store })

/-- **start** — flushes once per period from now on. Without a period a flusher cannot be started. -/
def start (s : Flushing σ) : Flushing σ :=
  { s with ticker := if s.period = 0 then none else some (.start s.now s.period) }

/-- **sleep** — lets time pass. A tick that comes at the very end of that time is left for the next wait. -/
def sleep (duration : Nat) (s : Flushing σ) : Flushing σ :=
  let now := s.now + duration
  match s.ticker with
  | none => { s with now }
  | some ticker =>
    let count := ticker.countUntil (now - 1)
    let (flusher, store) := Flusher.flushTimes s.progress count s.flusher s.store
    { s with now, flusher, store, ticker := some (ticker.skip count) }

/-- **stop** — flushes for the last time, if the flusher runs: the stored position as it knows it. -/
def stop (s : Flushing σ) : Option Int × Flushing σ :=
  match s.ticker with
  | none => (none, s)
  | some _ =>
    let (_, s) := s.flush
    (s.flusher.flushed, { s with ticker := none })

end Flushing

end FeedIndex
