/-!
# JSON as it is written

The tree of a JSON text, before anything is decided about it: members of an object stand in their order
and may repeat, a number is its digits, and a text that holds half of a surrogate pair is kept as what it
is, a text that is no sequence of characters. What may be ignored is only read to this point, so an
ignored member can hold any of these.
-/

namespace FeedIndex.Json

/-- **Numeral** — a number as it is written. -/
structure Numeral where
  negative : Bool
  whole : List Char
  fraction : Option (List Char)
  /-- Whether the exponent has a minus sign, and its digits. -/
  exponent : Option (Bool × List Char)
deriving DecidableEq, Repr

/-- **Tree** — a JSON text without its white space. -/
inductive Tree where
  | null
  | bool (b : Bool)
  | number (n : Numeral)
  /-- A string; nothing if it holds an unpaired surrogate. -/
  | text (s : Option String)
  | array (items : List Tree)
  | object (members : List (Option String × Tree))
deriving Repr

/-- The value of a decimal digit. -/
def digitValue (c : Char) : Nat := c.toNat - 48

/-- **natOfDigits** — the number that decimal digits make. -/
def natOfDigits (digits : List Char) : Nat := digits.foldl (fun n c => 10 * n + digitValue c) 0

/-- **integer?** — the whole number that is written; a number with a fraction or an exponent is none, and
neither is minus zero. -/
def Numeral.integer? (n : Numeral) : Option Int :=
  match n.fraction, n.exponent with
  | none, none =>
    let size := natOfDigits n.whole
    if n.negative then (if size = 0 then none else some (-size)) else some size
  | _, _ => none

end FeedIndex.Json
