/-!
# The shortest decimal of a double

A double stands for all reals that round to it. Its shortest decimal is a decimal in that interval with the
fewest digits, and of those the nearest. The interval and the decimals are compared exactly, as quotients of
natural numbers. The layout then follows one rule: positional up to sixteen digits before the point and five
places after it, with an exponent beyond.
-/

namespace FeedIndex.Json.Shortest

/-- **Interval** — a positive double and the ends of the reals that round to it, as numerators over one
denominator; `closed` if the ends belong to it. -/
structure Interval where
  low : Nat
  value : Nat
  high : Nat
  denominator : Nat
  closed : Bool

/-- The significand of the bits of a double. -/
def fractionBits (bits : UInt64) : Nat := bits.toNat % Nat.pow 2 52

/-- The exponent field of the bits of a double. -/
def exponentBits (bits : UInt64) : Nat := bits.toNat / Nat.pow 2 52 % Nat.pow 2 11

/-- The sign of the bits of a double. -/
def isNegative (bits : UInt64) : Bool := Nat.pow 2 63 ≤ bits.toNat

/-- **interval** — the interval of a positive finite double. Below a power of two the doubles lie twice as
close, so the lower end is nearer there. -/
def interval (bits : UInt64) : Interval :=
  let fraction := fractionBits bits
  let field := exponentBits bits
  let m := if field = 0 then fraction else fraction + Nat.pow 2 52
  let field := max field 1
  let lowGap := if fraction = 0 ∧ 1 < field then 1 else 2
  -- the value is m * 2 ^ (field - 1075); all numerators carry a factor 4
  let up := Nat.pow 2 (field - 1075)
  let down := Nat.pow 2 (1075 - field)
  ⟨(4 * m - lowGap) * up, 4 * m * up, (4 * m + 2) * up, 4 * down, m % 2 == 0⟩

/-- A decimal `digits * 10 ^ power` lies in the interval. -/
def Interval.contains (i : Interval) (digits : Nat) (power : Int) : Bool :=
  let scaled := digits * Nat.pow 10 power.toNat * i.denominator
  let unit := Nat.pow 10 (-power).toNat
  let low := i.low * unit
  let high := i.high * unit
  if i.closed then low ≤ scaled && scaled ≤ high else low < scaled && scaled < high

/-- Twice the distance of a decimal from the value, for comparing distances at one power. -/
def Interval.distance (i : Interval) (digits : Nat) (power : Int) : Nat :=
  let scaled := digits * Nat.pow 10 power.toNat * i.denominator
  let value := i.value * Nat.pow 10 (-power).toNat
  max scaled value - min scaled value

/-- The power of ten of the value's first digit, counted up from `lowest`. -/
def leadingPower (i : Interval) (lowest : Int) : Nat → Int
  | 0 => lowest
  | n + 1 =>
    let power := lowest + (n + 1)
    if Nat.pow 10 power.toNat * i.denominator ≤ i.value * Nat.pow 10 (-power).toNat then power
    else leadingPower i lowest n

/-- The decimal on the grid of a power that is in the interval and nearest to the value; of two equally
near the one with an even last digit. -/
def onGrid? (i : Interval) (power : Int) : Option Nat :=
  let below := i.value * Nat.pow 10 (-power).toNat / (i.denominator * Nat.pow 10 power.toNat)
  let above := below + 1
  match i.contains below power && below != 0, i.contains above power with
  | true, true =>
    let db := i.distance below power
    let da := i.distance above power
    if db < da ∨ (db = da ∧ below % 2 = 0) then some below else some above
  | true, false => some below
  | false, true => some above
  | false, false => none

/-- The first grid, from coarse to fine, that has a decimal in the interval. -/
def search (i : Interval) (power : Int) : Nat → Nat × Int
  | 0 => ((onGrid? i power).getD 0, power)
  | n + 1 =>
    match onGrid? i power with
    | some digits => (digits, power)
    | none => search i (power - 1) n

/-- Without the zeros at its end, each of which raises the power. -/
def strip : Nat → Nat → Int → Nat × Int
  | 0, digits, power => (digits, power)
  | n + 1, digits, power =>
    if digits % 10 = 0 ∧ digits ≠ 0 then strip n (digits / 10) (power + 1) else (digits, power)

/-- **shortest** — the digits and the power of ten of a positive finite double. -/
def shortest (bits : UInt64) : Nat × Int :=
  let i := interval bits
  let (digits, power) := search i (leadingPower i (-325) 634 + 1) 18
  strip 20 digits power

/-- Digits followed by zeros. -/
def padRight (s : String) (n : Nat) : String := s ++ String.ofList (List.replicate n '0')

/-- The layout of digits at a power of ten. -/
def layout (digits : Nat) (power : Int) : String :=
  let ds := (Nat.toDigits 10 digits)
  let text := String.ofList ds
  let length : Int := ds.length
  let point := length + power
  if 0 ≤ power ∧ point ≤ 16 then padRight text power.toNat ++ ".0"
  else if 0 < point ∧ point ≤ 16 then
    String.ofList (ds.take point.toNat) ++ "." ++ String.ofList (ds.drop point.toNat)
  else if -5 < point ∧ point ≤ 0 then padRight "0." (-point).toNat ++ text
  else
    let mantissa :=
      match ds with
      | [d] => String.ofList [d]
      | d :: rest => String.ofList (d :: '.' :: rest)
      | [] => ""
    mantissa ++ "e" ++ toString (point - 1)

/-- **render** — the text of a finite double. -/
def render (bits : UInt64) : String :=
  let size := bits.toNat % Nat.pow 2 63
  let body := if size = 0 then "0.0" else
    let (digits, power) := shortest size.toUInt64
    layout digits power
  if isNegative bits then "-" ++ body else body

end FeedIndex.Json.Shortest
