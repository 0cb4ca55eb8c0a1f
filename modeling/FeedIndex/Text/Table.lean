import FeedIndex.Text.Cut

/-!
# Properties of characters in tables

A property that has a value for each code point is a table of rows, one for each run of code points that
have a value in common, in ascending order. Most code points have no row. A table is written as text, a
word for each row: the first and the last code point of the run in base sixteen, and the value after a
colon. What a look-up finds covers the code point that was looked up.
-/

namespace FeedIndex.Text

/-- **Row** — the value of a run of code points. -/
structure Row (α : Type) where
  first : Nat
  last : Nat
  value : α
deriving Repr

/-- Rows in ascending order. -/
abbrev Table (α : Type) := Array (Row α)

namespace Table

variable {α : Type}

/-- The row of a code point among those from place `low` up to but not including `high`. -/
def search (table : Table α) (n low high : Nat) : Option (Row α) :=
  if low < high then
    match table[(low + high) / 2]? with
    | none => none
    | some row =>
      if n < row.first then search table n low ((low + high) / 2)
      else if row.last < n then search table n ((low + high) / 2 + 1) high
      else some row
  else none
termination_by high - low

/-- **row?** — the row of a character. -/
def row? (table : Table α) (c : Char) : Option (Row α) := search table c.toNat 0 table.size

/-- **get?** — the value of a character. -/
def get? (table : Table α) (c : Char) : Option α := (table.row? c).map (·.value)

theorem search_covers {table : Table α} {n low high : Nat} {row : Row α}
    (h : search table n low high = some row) : row.first ≤ n ∧ n ≤ row.last := by
  fun_induction search table n low high with
  | case1 => simp at h
  | case2 low high hlt row' _ hfirst ih => exact ih h
  | case3 low high hlt row' _ hfirst hlast ih => exact ih h
  | case4 low high hlt row' _ hfirst hlast =>
    cases h
    omega
  | case5 => simp at h

theorem row?_covers {table : Table α} {c : Char} {row : Row α} (h : table.row? c = some row) :
    row.first ≤ c.toNat ∧ c.toNat ≤ row.last :=
  search_covers h

end Table

/-! ## Tables as text -/

/-- The value of a digit in base sixteen, upper case. -/
def digitOfHex (c : Char) : Nat := if c.isDigit then c.toNat - 48 else c.toNat - 55

/-- The number that digits in base sixteen make. -/
def numberOfHex (cs : List Char) : Nat := cs.foldl (fun n c => 16 * n + digitOfHex c) 0

/-- The character of a code point in base sixteen. -/
def charOfHex (cs : List Char) : Char := Char.ofNat (numberOfHex cs)

/-- **ofWord** — the row that a word is. -/
def Row.ofWord (value : List Char → α) (word : String) : Row α :=
  let (run, content) := (cut ':' word.toList).getD (word.toList, [])
  let (first, last) := (cut '-' run).getD (run, run)
  ⟨numberOfHex first, numberOfHex last, value content⟩

/-- **ofText** — the table that a text is, given what the text of a value means. -/
def Table.ofText (value : List Char → α) (text : String) : Table α :=
  let words := (text.splitOn "\n").flatMap (·.splitOn " ")
  ((words.filter (!·.isEmpty)).map (Row.ofWord value)).toArray

end FeedIndex.Text
