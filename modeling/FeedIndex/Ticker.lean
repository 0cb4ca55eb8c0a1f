/-!
# Tickers

Time passes in milliseconds from the start of a run, and a ticker ticks once per period. A tick that is
taken late is not made up for: when it comes more than a few milliseconds after it was due, the next one is
due a whole period later.
-/

namespace FeedIndex

/-- **Ticker** — what happens once per period. -/
structure Ticker where
  period : Nat
  /-- The time of the next tick. -/
  due : Nat
deriving DecidableEq, Repr

namespace Ticker

/-- **start** — a ticker whose first tick is a period from now. -/
def start (now period : Nat) : Ticker := ⟨period, now + period⟩

/-- A tick that is this late still counts as taken in time. -/
def tolerance : Nat := 5

/-- **take** — the ticker after a tick that is taken now. -/
def take (now : Nat) (ticker : Ticker) : Ticker :=
  { ticker with
    due := (if ticker.due + tolerance < now then now else ticker.due) + ticker.period }

/-- **countUntil** — the number of ticks up to a time, each taken when it is due. -/
def countUntil (time : Nat) (ticker : Ticker) : Nat :=
  if ticker.period = 0 ∨ time < ticker.due then 0 else (time - ticker.due) / ticker.period + 1

/-- **skip** — the ticker after some ticks that were taken when they were due. -/
def skip (count : Nat) (ticker : Ticker) : Ticker :=
  { ticker with due := ticker.due + count * ticker.period }

theorem take_due (ticker : Ticker) : ticker.take ticker.due = ticker.skip 1 := by
  have : ¬ ticker.due + 5 < ticker.due := by omega
  simp [take, skip, tolerance, this]

theorem skip_add (m n : Nat) (ticker : Ticker) : (ticker.skip m).skip n = ticker.skip (m + n) := by
  simp [skip, Nat.add_mul, Nat.add_assoc]

/-- After the ticks up to a time the next one is due later. -/
theorem due_skip_countUntil (time : Nat) (ticker : Ticker) (h : 0 < ticker.period) :
    time < (ticker.skip (ticker.countUntil time)).due := by
  unfold countUntil skip
  split
  · rename_i h'
    rcases h' with h' | h'
    · omega
    · simpa using h'
  · have hmod := Nat.mod_lt (time - ticker.due) h
    have hdiv := Nat.div_add_mod (time - ticker.due) ticker.period
    simp only [Nat.add_mul, Nat.one_mul]
    rw [Nat.mul_comm] at hdiv
    omega

end Ticker

end FeedIndex
