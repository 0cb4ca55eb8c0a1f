import FeedIndex.Json.Float
import FeedIndex.Json.Reader
import FeedIndex.Json.Shortest
import FeedIndex.Keyed

/-!
# JSON values

A value is what a text stands for: members have unique keys and stand in the order of their keys, the last
of repeated members counts, and a whole number of 64 bits, signed or not, stays whole. Reading a value is
stricter than reading a tree: texts are characters, numbers are finite, and nesting has a limit. One key is
reserved: an object that begins with it is read as the JSON text it holds.
-/

namespace FeedIndex.Json

/-- **Value** — a JSON value. Doubles are given by their bits. -/
inductive Value where
  | null
  | bool (b : Bool)
  | int (n : Int)
  | double (bits : UInt64)
  | text (s : String)
  | array (items : List Value)
  /-- Members by ascending key, each key once. -/
  | object (members : List (String × Value))
deriving Repr, Inhabited

/-- The whole numbers that stay whole: 64 bits, signed or unsigned. -/
def isWhole (n : Int) : Bool := -(Nat.pow 2 63 : Int) ≤ n && n < Nat.pow 2 64

/-- **value?** — the value of a number: whole if it is written so and fits, a double otherwise. -/
def Numeral.value? (n : Numeral) : Option Value :=
  match n.integer? with
  | some i => if isWhole i then some (.int i) else n.double?.map .double
  | none => n.double?.map .double

/-- Containers may be nested this deep in a value. -/
def maxDepth : Nat := 127

/-- **embeddedKey** — the reserved key, by its code points. An object that begins with it stands for the
value of the JSON text that it holds. -/
def embeddedKey : String :=
  String.ofList ([36, 115, 101, 114, 100, 101, 95, 106, 115, 111, 110, 58, 58, 112, 114, 105, 118, 97, 116, 101,
    58, 58, 82, 97, 119, 86, 97, 108, 117, 101].map Char.ofNat)

/-- **embedded?** — the JSON text that an object stands for, if its first key is the reserved one; no text
if that member holds something else or has others after it. -/
def embedded? : List (Option String × Tree) → Option (Option String)
  | (some key, content) :: others =>
    if key = embeddedKey then
      match content, others with
      | .text s, [] => some s
      | _, _ => some none
    else none
  | _ => none

/-- **toValue?** — the value of a tree with at most the given depth of containers. Texts embedded in it
are read by `inner`. -/
def Tree.toValue? (inner : String → Option Value) : Nat → Tree → Option Value
  | _, .null => some .null
  | _, .bool b => some (.bool b)
  | _, .number n => n.value?
  | _, .text s => s.map .text
  | 0, .array _ => none
  | 0, .object _ => none
  | depth + 1, .array items => (items.mapM (toValue? inner depth)).map .array
  | depth + 1, .object members =>
    match embedded? members with
    | some content => content.bind inner
    | none =>
      let pairs : Option (List (String × Value)) := members.mapM fun (member : Option String × Tree) =>
        member.1.bind fun key => (toValue? inner depth member.2).map fun v => (key, v)
      pairs.map fun pairs => .object (Keyed.sorted pairs)

/-- **ofNested?** — the value of a JSON text with fewer than so many texts embedded one in another. The
depth of containers is counted anew in each. -/
def Value.ofNested? : Nat → String → Option Value
  | 0, _ => none
  | n + 1, s => (parse? s).bind (·.toValue? (ofNested? n) maxDepth)

/-- **ofText?** — the value of a JSON text. An embedded text is shorter than the one that holds it, so their
number is below the length. -/
def Value.ofText? (s : String) : Option Value := ofNested? (s.length + 1) s

/-- **Arrangement** — the order in which the members of a structure stand in its object. -/
abbrev Arrangement := List (String × Value) → List (String × Value)

/-- An object of members in any order. -/
def Value.ofMembers (members : List (String × Value)) : Value := .object (Keyed.sorted members)

/-- A list of texts. -/
def Value.texts (items : List String) : Value := .array (items.map .text)

/-- A text, or null. -/
def Value.optionalText : Option String → Value
  | none => .null
  | some s => .text s

/-! ## Writing -/

/-- A hexadecimal digit, lower case. -/
def hexDigit (n : Nat) : Char := Char.ofNat (if n < 10 then 48 + n else 87 + n)

/-- **escapeChar** — a character inside a string. -/
def escapeChar (c : Char) : List Char :=
  if c = '"' then ['\\', '"']
  else if c = '\\' then ['\\', '\\']
  else if c = '\x08' then ['\\', 'b']
  else if c = '\x0c' then ['\\', 'f']
  else if c = '\n' then ['\\', 'n']
  else if c = '\r' then ['\\', 'r']
  else if c = '\t' then ['\\', 't']
  else if c.toNat < 0x20 then ['\\', 'u', '0', '0', hexDigit (c.toNat / 16), hexDigit (c.toNat % 16)]
  else [c]

/-- A string in its quotes. -/
def renderText (s : String) : List Char := '"' :: s.toList.flatMap escapeChar ++ ['"']

/-- A whole number. -/
def renderInt (n : Int) : List Char :=
  if n < 0 then '-' :: Nat.toDigits 10 n.natAbs else Nat.toDigits 10 n.natAbs

mutual

/-- **renderChars** — the compact text of a value. -/
def Value.renderChars : Value → List Char
  | .null => ['n', 'u', 'l', 'l']
  | .bool true => ['t', 'r', 'u', 'e']
  | .bool false => ['f', 'a', 'l', 's', 'e']
  | .int n => renderInt n
  | .double bits => (Shortest.render bits).toList
  | .text s => renderText s
  | .array [] => ['[', ']']
  | .array (v :: vs) => '[' :: v.renderChars ++ renderItems vs
  | .object [] => ['{', '}']
  | .object ((k, v) :: ms) => '{' :: renderText k ++ ':' :: v.renderChars ++ renderMembers ms

/-- The items of a list after its first, and the closing bracket. -/
def renderItems : List Value → List Char
  | [] => [']']
  | v :: vs => ',' :: v.renderChars ++ renderItems vs

/-- The members of an object after its first, and the closing brace. -/
def renderMembers : List (String × Value) → List Char
  | [] => ['}']
  | (k, v) :: ms => ',' :: renderText k ++ ':' :: v.renderChars ++ renderMembers ms

end

/-- **render** — the compact text of a value. -/
def Value.render (v : Value) : String := String.ofList v.renderChars

end FeedIndex.Json
