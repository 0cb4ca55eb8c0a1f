import FeedIndex.Json.Tree

/-!
# Reading JSON

The strict grammar of RFC 8259 over characters. A reader takes a value from the head of a text and returns
the rest; the readers of the two containers share one reader of separated sequences. Nesting is bounded by
the length of the text alone, so every text that follows the grammar is read.
-/

namespace FeedIndex.Json

/-- White space of JSON. -/
def isBlank (c : Char) : Bool := c == ' ' || c == '\t' || c == '\n' || c == '\r'

/-- The text from its first character that is not white space. -/
def skipBlank (cs : List Char) : List Char := cs.dropWhile isBlank

/-! ## Strings -/

/-- **Piece** — a piece of a string: a character, or half of a surrogate pair that an escape gives. -/
inductive Piece where
  | char (c : Char)
  | half (n : Nat)
deriving DecidableEq

/-- The value of a hexadecimal digit. -/
def hexValue? (c : Char) : Option Nat :=
  if c.isDigit then some (c.toNat - 48)
  else if 'a' ≤ c ∧ c ≤ 'f' then some (c.toNat - 87)
  else if 'A' ≤ c ∧ c ≤ 'F' then some (c.toNat - 55)
  else none

/-- The code unit of four hexadecimal digits. -/
def codeUnit? (a b c d : Char) : Option Nat := do
  return 4096 * (← hexValue? a) + 256 * (← hexValue? b) + 16 * (← hexValue? c) + (← hexValue? d)

/-- What a code unit stands for. -/
def Piece.ofCode (n : Nat) : Piece :=
  if 0xD800 ≤ n ∧ n ≤ 0xDFFF then .half n else .char (Char.ofNat n)

/-- The character of an escape of one letter. -/
def escaped? (c : Char) : Option Char :=
  match c with
  | '"' => some '"'
  | '\\' => some '\\'
  | '/' => some '/'
  | 'b' => some '\x08'
  | 'f' => some '\x0c'
  | 'n' => some '\n'
  | 'r' => some '\r'
  | 't' => some '\t'
  | _ => none

/-- **units?** — the pieces of a string after its opening quote, and what follows its closing quote. -/
def units? : List Char → Option (List Piece × List Char)
  | '"' :: cs => some ([], cs)
  | '\\' :: 'u' :: a :: b :: c :: d :: cs =>
    match codeUnit? a b c d with
    | none => none
    | some n => (units? cs).map fun (us, rest) => (.ofCode n :: us, rest)
  | '\\' :: e :: cs =>
    match escaped? e with
    | none => none
    | some c => (units? cs).map fun (us, rest) => (.char c :: us, rest)
  | c :: cs =>
    if c.toNat < 0x20 ∨ c = '\\' then none
    else (units? cs).map fun (us, rest) => (.char c :: us, rest)
  | [] => none

/-- The character of a surrogate pair. -/
def pair (high low : Nat) : Char := Char.ofNat (0x10000 + (high - 0xD800) * 0x400 + (low - 0xDC00))

/-- **assemble?** — the characters of a string's pieces, if the halves stand in pairs. -/
def assemble? : List Piece → Option (List Char)
  | [] => some []
  | .char c :: us => (assemble? us).map (c :: ·)
  | .half high :: .half low :: us =>
    if high < 0xDC00 ∧ 0xDC00 ≤ low then (assemble? us).map (pair high low :: ·) else none
  | .half _ :: _ => none

/-- **textBody?** — a string after its opening quote. -/
def textBody? (cs : List Char) : Option (Option String × List Char) :=
  (units? cs).map fun (us, rest) => ((assemble? us).map String.ofList, rest)

/-! ## Numbers -/

/-- Decimal digits at the head, at least one. -/
def digits? (cs : List Char) : Option (List Char × List Char) :=
  match cs.takeWhile Char.isDigit with
  | [] => none
  | ds => some (ds, cs.dropWhile Char.isDigit)

/-- The whole part of a number: a single zero, or digits that begin with another. -/
def whole? (cs : List Char) : Option (List Char × List Char) :=
  match cs with
  | '0' :: rest => some (['0'], rest)
  | _ => digits? cs

/-- The fraction of a number, if a point follows. -/
def fraction? (cs : List Char) : Option (Option (List Char) × List Char) :=
  match cs with
  | '.' :: rest => (digits? rest).map fun (ds, rest) => (some ds, rest)
  | _ => some (none, cs)

/-- The sign of an exponent; true for minus. -/
def exponentSign (cs : List Char) : Bool × List Char :=
  match cs with
  | '+' :: rest => (false, rest)
  | '-' :: rest => (true, rest)
  | _ => (false, cs)

/-- The exponent of a number, if its letter follows. -/
def exponent? (cs : List Char) : Option (Option (Bool × List Char) × List Char) :=
  match cs with
  | c :: rest =>
    if c = 'e' ∨ c = 'E' then
      (digits? (exponentSign rest).2).map fun (ds, rest') => (some ((exponentSign rest).1, ds), rest')
    else some (none, cs)
  | [] => some (none, cs)

/-- A number after its sign. -/
def unsigned? (negative : Bool) (cs : List Char) : Option (Numeral × List Char) := do
  let (whole, cs) ← whole? cs
  let (fraction, cs) ← fraction? cs
  let (exponent, cs) ← exponent? cs
  return (⟨negative, whole, fraction, exponent⟩, cs)

/-- **numeral?** — a number at the head. -/
def numeral? (cs : List Char) : Option (Numeral × List Char) :=
  match cs with
  | '-' :: rest => unsigned? true rest
  | _ => unsigned? false cs

/-! ## Containers and values -/

/-- **Reader** — takes a value from the head of a text and returns the rest. -/
abbrev Reader (α : Type) := List Char → Option (α × List Char)

/-- Items separated by commas, at least one, up to `close`. The number bounds the items; the length of the
text is enough. -/
def separated (item : Reader α) (close : Char) : Nat → Reader (List α)
  | 0, _ => none
  | n + 1, cs =>
    match item cs with
    | none => none
    | some (a, rest) =>
      match skipBlank rest with
      | [] => none
      | c :: rest =>
        if c = close then some ([a], rest)
        else if c = ',' then (separated item close n rest).map fun (as, rest) => (a :: as, rest)
        else none

/-- **container** — the items of a container after its opening bracket. -/
def container (item : Reader α) (close : Char) : Reader (List α) := fun cs =>
  match skipBlank cs with
  | [] => none
  | c :: rest => if c = close then some ([], rest) else separated item close cs.length cs

/-- **member** — a key, a colon and a value. -/
def member (item : Reader α) : Reader (Option String × α) := fun cs =>
  match skipBlank cs with
  | '"' :: cs =>
    match textBody? cs with
    | none => none
    | some (key, rest) =>
      match skipBlank rest with
      | ':' :: rest => (item rest).map fun (a, rest) => ((key, a), rest)
      | _ => none
  | _ => none

/-- **value** — a value at the head, nested no deeper than the number says. -/
def value : Nat → Reader Tree
  | 0, _ => none
  | n + 1, cs =>
    match skipBlank cs with
    | '[' :: rest => (container (value n) ']' rest).map fun (items, rest) => (.array items, rest)
    | '{' :: rest => (container (member (value n)) '}' rest).map fun (ms, rest) => (.object ms, rest)
    | '"' :: rest => (textBody? rest).map fun (s, rest) => (.text s, rest)
    | 'n' :: 'u' :: 'l' :: 'l' :: rest => some (.null, rest)
    | 't' :: 'r' :: 'u' :: 'e' :: rest => some (.bool true, rest)
    | 'f' :: 'a' :: 'l' :: 's' :: 'e' :: rest => some (.bool false, rest)
    | cs => (numeral? cs).map fun (n, rest) => (.number n, rest)

/-- **verbatim** — a reader that also returns the text it read, without the white space around it. -/
def verbatim (item : Reader α) : Reader (List Char × α) := fun cs =>
  (item (skipBlank cs)).map fun (a, rest) =>
    (((skipBlank cs).take ((skipBlank cs).length - rest.length), a), rest)

/-- **whole** — the value of a whole text: nothing but white space follows. -/
def whole (item : Reader α) (cs : List Char) : Option α :=
  match item cs with
  | none => none
  | some (a, rest) => if (skipBlank rest).isEmpty then some a else none

/-- **parse?** — the tree of a JSON text. -/
def parse? (s : String) : Option Tree := whole (value (s.length + 1)) s.toList

end FeedIndex.Json
