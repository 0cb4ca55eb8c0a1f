/-!
# The low watermark

Workers finish commits out of order. Each keeps the position of the commit it finished last; the least of
these positions is the one from which a later run can go on. A worker that has finished nothing yet does not
count, and neither does one that stands at the position before the start of a stream.
-/

namespace FeedIndex

/-- **Watermark** — the last position of each worker. -/
structure Watermark where
  slots : List (Option Int)
deriving DecidableEq, Repr

namespace Watermark

/-- The position before the start of a stream. -/
def unset : Int := -1

/-- **fresh** — workers that have finished nothing yet. -/
def fresh (workers : Nat) : Watermark := ⟨List.replicate workers none⟩

/-- **record** — a worker has finished the commit of a position. -/
def record (worker : Nat) (position : Int) (progress : Watermark) : Watermark :=
  ⟨progress.slots.set worker (some position)⟩

/-- The last positions of the workers that have one. -/
def positions (progress : Watermark) : List Int := progress.slots.filterMap id

/-- **low?** — the least of the positions that count. -/
def low? (progress : Watermark) : Option Int := (progress.positions.filter (· ≠ unset)).min?

theorem low?_fresh (workers : Nat) : (fresh workers).low? = none := by
  have : (List.replicate workers (none : Option Int)).filterMap id = [] := by
    rw [List.filterMap_eq_nil_iff]
    intro slot h
    exact (List.mem_replicate.mp h).2 ▸ rfl
  simp only [low?, positions, fresh, this, List.filter_nil, List.min?_nil]

/-- A worker out of range is not heard. -/
theorem record_of_length_le {worker : Nat} {progress : Watermark} (position : Int)
    (h : progress.slots.length ≤ worker) : progress.record worker position = progress := by
  simp [record, List.set_eq_of_length_le h]

theorem low?_eq_some_iff {progress : Watermark} {position : Int} :
    progress.low? = some position ↔
      (some position ∈ progress.slots ∧ position ≠ unset) ∧
        ∀ other, some other ∈ progress.slots → other ≠ unset → position ≤ other := by
  simp [low?, positions, List.min?_eq_some_iff]

end Watermark

end FeedIndex
