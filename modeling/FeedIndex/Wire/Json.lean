import FeedIndex.Json.Reader
import FeedIndex.Wire.Basic

/-!
# Records in JSON

An input is a list of values that are still to be read, the next one first; opening a container puts its
parts in front of the others. A structure is an object, or an array of its fields in their order, of which
the last may be left out. What is ignored is only read for its syntax and may be nested at will. A slice is
a value together with its text, for a message that hands the text of a record on as it stands.
-/

namespace FeedIndex.Json

/-- Containers of a record may be nested this deep. -/
def maxLevels : Nat := 127

/-- **Node** — a value that can be taken apart into values of its own kind. -/
class Node (ν : Type) where
  tree : ν → Tree
  /-- The items, if the value is an array. -/
  items? : ν → Option (List ν)
  /-- The keys and values of the members in turn, if the value is an object. -/
  members? : ν → Option (List ν)

/-- The keys and values of members in turn. -/
def inTurn (ofKey : Option String → ν) (members : List (Option String × ν)) : List ν :=
  members.flatMap fun (key, v) => [ofKey key, v]

instance : Node Tree where
  tree v := v
  items?
    | .array items => some items
    | _ => none
  members?
    | .object members => some (inTurn .text members)
    | _ => none

/-- The first value of an input, if it is what is asked for, and the others. -/
def take? (what? : ν → Option α) : List ν → Option (α × List ν)
  | [] => none
  | v :: rest => (what? v).map fun a => (a, rest)

/-- The text of a string. -/
def Tree.text? : Tree → Option String
  | .text s => s
  | _ => none

/-- The whole number of a number. -/
def Tree.integer? : Tree → Option Int
  | .number n => n.integer?
  | _ => none

/-- Whether a value is null. -/
def Tree.isNull : Tree → Bool
  | .null => true
  | _ => false

/-- The layout of a structure with its parts, given as an object or an array. -/
def layoutOf? [Node ν] (v : ν) : Option (Layout × List ν) :=
  match Node.members? v, Node.items? v with
  | some parts, _ => some (.named (parts.length / 2), parts)
  | none, some items => some (.inOrder items.length, items)
  | none, none => none

instance [Node ν] : Wire (List ν) where
  levels := maxLevels
  optionLevels := 0
  null?
    | v :: rest => if (Node.tree v).isNull then some rest else none
    | [] => none
  skip? _
    | _ :: rest => some rest
    | [] => none
  text? _ := take? fun v => (Node.tree v).text?
  integer? := take? fun v => (Node.tree v).integer?
  list? input := (take? Node.items? input).map fun (items, rest) => (items.length, items ++ rest)
  layout? input := (take? layoutOf? input).map fun ((layout, parts), rest) => (layout, parts ++ rest)

/-- **Slice** — a value and the text it was read from. -/
structure Slice where
  chars : List Char
  tree : Tree

/-- The reader of a value and its text. -/
def slice (levels : Nat) : Reader Slice := fun cs =>
  (verbatim (value levels) cs).map fun ((chars, tree), rest) => (⟨chars, tree⟩, rest)

/-- **ofText?** — a whole JSON text as a slice. -/
def Slice.ofText? (s : String) : Option Slice := whole (slice (s.length + 1)) s.toList

/-- The items of an array as slices. -/
def Slice.items? (v : Slice) : Option (List Slice) :=
  match v.chars with
  | '[' :: rest => (container (slice v.chars.length) ']' rest).map Prod.fst
  | _ => none

/-- The keys and values of an object as slices. -/
def Slice.members? (v : Slice) : Option (List Slice) :=
  match v.chars with
  | '{' :: rest =>
    (container (member (slice v.chars.length)) '}' rest).map fun (members, _) =>
      inTurn (fun key => ⟨[], .text key⟩) members
  | _ => none

instance : Node Slice where
  tree := Slice.tree
  items? := Slice.items?
  members? := Slice.members?

/-- **read?** — the record that a value is. -/
def read? [Node ν] (reading : Wire.Reading (List ν) α) (v : ν) : Option α :=
  (Wire.read reading [v]).map Prod.fst

end FeedIndex.Json
