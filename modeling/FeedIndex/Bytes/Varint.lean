import FeedIndex.Bytes.Basic

/-!
# Variable-length numbers

A number in groups of seven bits, the least significant first; every byte but the last has its high bit
set. Two readers share the groups. An archive's lengths may carry needless groups and lose what does not
fit 64 bits; the numbers inside a content identifier have to be written in the fewest groups.
-/

namespace FeedIndex.Varint

/-- A number has at most this many groups. -/
def maxGroups : Nat := 10

/-- Numbers are taken modulo this. -/
def bound : Nat := Nat.pow 2 64

/-- **Failure** — why no number can be read. -/
inductive Failure
  /-- The bytes end before the last group. -/
  | truncated
  /-- There is no last group among the allowed ones. -/
  | tooLong
deriving DecidableEq, Repr

/-- **groups** — the number of at most the given count of groups, and the rest. -/
def groups : Nat → Bytes → Except Failure (Nat × Bytes)
  | 0, _ => .error .tooLong
  | _ + 1, [] => .error .truncated
  | n + 1, b :: bs =>
    if b < 128 then .ok (b.toNat, bs)
    else (groups n bs).map fun (high, rest) => (b.toNat - 128 + 128 * high, rest)

/-- **read** — a length of an archive, in any number of groups up to the limit. -/
def read (bs : Bytes) : Except Failure (Nat × Bytes) :=
  (groups maxGroups bs).map fun (n, rest) => (n % bound, rest)

/-- Groups of which the last is not needless: only a number of one group may end in zero. -/
def minimalGroups? : Nat → Bytes → Option (Nat × Bytes)
  | 0, _ => none
  | _ + 1, [] => none
  | n + 1, b :: bs =>
    if b < 128 then some (b.toNat, bs)
    else
      match minimalGroups? n bs with
      | none => none
      | some (high, rest) => if high = 0 then none else some (b.toNat - 128 + 128 * high, rest)

/-- **readMinimal?** — a number of a content identifier, written in the fewest groups. -/
def readMinimal? (bs : Bytes) : Option (Nat × Bytes) :=
  (minimalGroups? maxGroups bs).map fun (n, rest) => (n % bound, rest)

/-- **encode** — the number in the fewest groups. -/
def encode (n : Nat) : Bytes :=
  if h : n < 128 then [n.toUInt8] else (n % 128 + 128).toUInt8 :: encode (n / 128)
termination_by n
decreasing_by omega

end FeedIndex.Varint
