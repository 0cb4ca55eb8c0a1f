/-!
# Sets of characters given by ranges

A Unicode property is a list of closed ranges of code points, in ascending order. Membership is one
look-up, so that a property is plain data and every statement about it comes down to its ranges.
-/

namespace FeedIndex.Text

/-- Closed ranges of code points. -/
abbrev Ranges := List (Nat × Nat)

/-- **membership** — the code point of `c` lies in one of the ranges. -/
def Ranges.contains (ranges : Ranges) (c : Char) : Bool :=
  ranges.any fun range => range.1 ≤ c.toNat && c.toNat ≤ range.2

theorem Ranges.contains_iff {ranges : Ranges} {c : Char} :
    ranges.contains c = true ↔ ∃ range ∈ ranges, range.1 ≤ c.toNat ∧ c.toNat ≤ range.2 := by
  simp [Ranges.contains]

end FeedIndex.Text
