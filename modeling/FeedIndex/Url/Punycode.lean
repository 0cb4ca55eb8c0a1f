/-!
# Punycode

A label of a domain name with characters outside ASCII is written in ASCII: its ASCII characters, a hyphen,
and the others as a series of numbers that say which character comes next and where. The numbers are in a
variable base whose thresholds adapt to the numbers before.
-/

namespace FeedIndex.Punycode

/-- The letter of a digit: `a` to `z` for 0 to 25, `0` to `9` for 26 to 35. -/
def digitChar (d : Nat) : Char := Char.ofNat (if d < 26 then 97 + d else 22 + d)

/-- The digit of a letter. -/
def digitValue? (c : Char) : Option Nat :=
  if c.isLower then some (c.toNat - 97)
  else if c.isUpper then some (c.toNat - 65)
  else if c.isDigit then some (c.toNat - 22)
  else none

/-- The threshold of a digit by its place. -/
def threshold (place bias : Nat) : Nat :=
  if place ≤ bias then 1 else if bias + 26 ≤ place then 26 else place - bias

theorem threshold_pos (place bias : Nat) : 1 ≤ threshold place bias := by
  unfold threshold
  split
  · omega
  · split <;> omega

/-- The part of the bias that large numbers give, and what is left of the number. -/
def shrink (delta bias : Nat) : Nat × Nat :=
  if 455 < delta then shrink (delta / 35) (bias + 36) else (delta, bias)
termination_by delta
decreasing_by exact Nat.div_lt_self (by omega) (by omega)

/-- **adapt** — the bias after a number. -/
def adapt (delta count : Nat) (first : Bool) : Nat :=
  let halved := if first then delta / 700 else delta / 2
  let (rest, bias) := shrink (halved + halved / count) 0
  bias + 36 * rest / (rest + 38)

/-! ## Writing -/

/-- A number in its variable base. -/
def number (bias place n : Nat) : List Char :=
  let t := threshold place bias
  if n < t then [digitChar n]
  else digitChar (t + (n - t) % (36 - t)) :: number bias (place + 36) ((n - t) / (36 - t))
termination_by n
decreasing_by
  have := threshold_pos place bias
  calc (n - threshold place bias) / (36 - threshold place bias)
      ≤ n - threshold place bias := Nat.div_le_self _ _
    _ < n := by omega

/-- **Writing** — what is written so far, the number that grows, the bias, and how many characters the
written part stands for. -/
structure Writing where
  out : List Char
  delta : Nat
  bias : Nat
  count : Nat

/-- One character of the label, in the pass for the code point `current`. -/
def Writing.step (basic current : Nat) (w : Writing) (c : Char) : Writing :=
  if c.toNat < current then { w with delta := w.delta + 1 }
  else if c.toNat = current then
    { out := w.out ++ number w.bias 36 w.delta
      delta := 0
      bias := adapt w.delta (w.count + 1) (w.count == basic)
      count := w.count + 1 }
  else w

/-- The passes for ascending code points. -/
def passes (label : List Char) (basic : Nat) : List Nat → Nat → Writing → Writing
  | [], _, w => w
  | current :: later, reached, w =>
    let w := { w with delta := w.delta + (current - reached) * (w.count + 1) }
    let w := label.foldl (Writing.step basic current) w
    passes label basic later (current + 1) { w with delta := w.delta + 1 }

/-- **encode** — the label in ASCII. -/
def encode (label : List Char) : List Char :=
  let basic := label.filter (·.toNat < 128)
  let others := ((label.filter (128 ≤ ·.toNat)).map Char.toNat).mergeSort.eraseDups
  let start := if basic.isEmpty then [] else basic ++ ['-']
  (passes label basic.length others 128 ⟨start, 0, 72, basic.length⟩).out

/-! ## Reading -/

/-- A number at the head, and the rest. -/
def readNumber (bias : Nat) : Nat → Nat → Nat → List Char → Option (Nat × List Char)
  | _, _, _, [] => none
  | place, weight, n, c :: cs =>
    match digitValue? c with
    | none => none
    | some d =>
      let t := threshold place bias
      if d < t then some (n + d * weight, cs)
      else readNumber bias (place + 36) (weight * (36 - t)) (n + d * weight) cs

/-- A character put into a list. -/
def insertAt (c : Char) : Nat → List Char → List Char
  | 0, cs => c :: cs
  | _ + 1, [] => [c]
  | n + 1, d :: ds => d :: insertAt c n ds

/-- The characters that a series of numbers puts into a label. The first number bounds the series. -/
def insertions : Nat → Nat → Nat → Nat → List Char → List Char → Option (List Char)
  | _, _, _, _, label, [] => some label
  | 0, _, _, _, _, _ :: _ => none
  | fuel + 1, code, place, bias, label, cs =>
    match readNumber bias 36 1 place cs with
    | none => none
    | some (n, rest) =>
      let count := label.length + 1
      let code := code + n / count
      if 0x10FFFF < code ∨ (0xD800 ≤ code ∧ code ≤ 0xDFFF) then none
      else
        insertions fuel code (n % count + 1) (adapt (n - place) count (place == 0))
          (insertAt (Char.ofNat code) (n % count) label) rest

/-- The parts before and after the last hyphen. A hyphen with nothing before it is no such mark. -/
def cutLastHyphen (cs : List Char) : List Char × List Char :=
  match cs.reverse.span (· != '-') with
  | (after, _ :: before) => if before.isEmpty then ([], cs) else (before.reverse, after.reverse)
  | (_, []) => ([], cs)

/-- **decode?** — the label that ASCII stands for. -/
def decode? (cs : List Char) : Option (List Char) :=
  let (basic, series) := cutLastHyphen cs
  insertions series.length 128 0 72 basic series

example : encode "bücher".toList = "bcher-kva".toList := by decide +kernel
example : decode? "bcher-kva".toList = some "bücher".toList := by decide +kernel

end FeedIndex.Punycode
