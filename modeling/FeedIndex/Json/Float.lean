import FeedIndex.Json.Tree

/-!
# Numbers that are not whole

A number with a fraction or an exponent, or too large for 64 bits, becomes a double. As many of its digits
as fit 64 bits make the significand, and one power of ten scales it; an exponent beyond the table of powers
is taken in steps of the largest power. This is a rule of its own: the result can differ in the last bit
from the double that is nearest to the decimal. Doubles are kept as their bits, so that two values are equal
exactly if they are the same value.
-/

namespace FeedIndex.Json

/-- One more than the largest significand. -/
def significandBound : Nat := Nat.pow 2 64

/-- **absorb** — the digits taken into a significand as long as it stays in its bound: the significand, how
many were taken, and how many were left. -/
def absorb (significand taken : Nat) : List Char → Nat × Nat × Nat
  | [] => (significand, taken, 0)
  | d :: ds =>
    let next := 10 * significand + digitValue d
    if next < significandBound then absorb next (taken + 1) ds
    else (significand, taken, ds.length + 1)

/-- The significand of a number and the power of ten that scales it. -/
def Numeral.parts (n : Numeral) : Nat × Int :=
  let (whole, _, left) := absorb 0 0 n.whole
  let (significand, taken, _) := absorb whole 0 (n.fraction.getD [])
  let exponent : Int :=
    match n.exponent with
    | none => 0
    | some (true, ds) => -(natOfDigits ds : Int)
    | some (false, ds) => natOfDigits ds
  (significand, exponent + left - taken)

/-- The largest power of ten that is a double. -/
def maxPower : Nat := 308

/-- A power of ten as a double. -/
def powerOfTen (n : Nat) : Float := Float.ofScientific 1 false n

/-- A double divided by a power of ten, in steps of the largest power. Three steps bring every significand
to zero. -/
def scaleDown : Nat → Float → Nat → Float
  | 0, f, _ => f
  | steps + 1, f, power =>
    if power ≤ maxPower then f / powerOfTen power
    else if f == 0 then f
    else scaleDown steps (f / powerOfTen maxPower) (power - maxPower)

/-- A double multiplied by a power of ten; nothing if the result is too large for a double. -/
def scaleUp? (f : Float) (power : Nat) : Option Float :=
  if power ≤ maxPower then
    let g := f * powerOfTen power
    if g.isInf then none else some g
  else if f == 0 then some f else none

/-- **double?** — the bits of the double that a number stands for; nothing if it is too large. -/
def Numeral.double? (n : Numeral) : Option UInt64 :=
  let (significand, power) := n.parts
  let f := significand.toUInt64.toFloat
  let scaled := if 0 ≤ power then scaleUp? f power.toNat else some (scaleDown 4 f (-power).toNat)
  scaled.map fun g => (if n.negative then -g else g).toBits

end FeedIndex.Json
