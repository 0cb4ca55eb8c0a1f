import FeedIndex.Cbor.Item
import FeedIndex.Json.Value

/-!
# The data model of records

A record is data: maps by text keys, lists, texts, bytes, numbers and links to other blocks. Not every item
is data: keys are texts without repeats, the only tag is the one of links, there are no half-width floats,
and lengths are stated. Data becomes a JSON value in the encoding that the network's JSON transport uses, so
that a record is the same value whichever way it came.
-/

namespace FeedIndex.Cbor

open Wire (counted)

/-- **Data** — a value of the data model. Floats are given by their 64 bits. -/
inductive Data where
  | null
  | bool (b : Bool)
  | int (n : Int)
  | float (bits : UInt64)
  | text (s : String)
  | bytes (bs : Bytes)
  | list (items : List Data)
  /-- Members by ascending key, each key once. -/
  | map (members : List (String × Data))
  | link (cid : Cid)
deriving Repr, Inhabited

/-! ## Floats -/

/-- The position of the highest bit that is set, counted from zero; the first number bounds the search. -/
def topBit : Nat → Nat → Nat
  | 0, _ => 0
  | fuel + 1, n => if n < 2 then 0 else 1 + topBit fuel (n / 2)

/-- **widen** — the 64 bits of a float of 32 bits. Every such float is one of the wider ones. -/
def widen (bits : Nat) : Nat :=
  let sign := bits / Nat.pow 2 31 * Nat.pow 2 63
  let exponent := bits / Nat.pow 2 23 % 256
  let mantissa := bits % Nat.pow 2 23
  if exponent = 255 then sign + 2047 * Nat.pow 2 52 + mantissa * Nat.pow 2 29
  else if exponent = 0 then
    if mantissa = 0 then sign
    else
      let top := topBit 23 mantissa
      sign + (top + 874) * Nat.pow 2 52 + (mantissa - Nat.pow 2 top) * Nat.pow 2 (52 - top)
  else sign + (exponent + 896) * Nat.pow 2 52 + mantissa * Nat.pow 2 29

/-- The bits are those of a number, neither of an infinity nor of what is no number. -/
def isFinite (bits : UInt64) : Bool := bits.toNat / Nat.pow 2 52 % 2048 != 2047

example : widen 0x3F800000 = 0x3FF0000000000000 := by decide
example : widen 0x00000001 = 0x36A0000000000000 := by decide
example : widen 0xFF800000 = 0xFFF0000000000000 := by decide

/-! ## Reading -/

/-- Members in the order of their keys; nothing if a key repeats. -/
def distinctMembers? (members : List (String × α)) : Option (List (String × α)) :=
  if (Keyed.sorted members).length = members.length then some (Keyed.sorted members) else none

/-- A number, a truth value or null. -/
def scalar? : Major → Argument → Option Data
  | .unsigned, argument => argument.number?.map fun (n : Nat) => .int n
  | .negative, argument => argument.number?.map fun (n : Nat) => .int (-1 - n)
  | .simple, .short 20 => some (.bool false)
  | .simple, .short 21 => some (.bool true)
  | .simple, .short 22 => some .null
  | .simple, .long 4 n => some (.float (widen n).toUInt64)
  | .simple, .long 8 n => some (.float n.toUInt64)
  | _, _ => none

/-- A container of so many things, given a reader of its content and one of its keys. -/
def contained (inside : Reader Data) (key : Reader String) (major : Major) (n : Nat) : Reader Data :=
  fun bs =>
    match major with
    | .array => (counted inside n bs).map fun (items, rest) => (.list items, rest)
    | .map =>
      (counted (paired key inside) n bs).bind fun (members, rest) =>
        (distinctMembers? members).map fun members => (.map members, rest)
    | _ => none

/-- The value at the head of bytes, given a reader of containers and the levels of a string. -/
def valueOf (container : Major → Nat → Reader Data) (levels : Nat) : Reader Data := fun bs =>
  match head? bs with
  | none => none
  | some (⟨major, argument⟩, rest) =>
    match major, argument.number? with
    | .bytes, some n => (Bytes.takeExact n rest).map fun (content, rest) => (.bytes content, rest)
    | .text, some _ => (text levels bs).map fun (s, rest) => (.text s, rest)
    | .tag, _ => (link levels bs).map fun (cid, rest) => (.link cid, rest)
    | .array, some n => container .array n rest
    | .map, some n => container .map n rest
    | _, _ => (scalar? major argument).map fun d => (d, rest)

/-- **value** — the data at the head of bytes. A value takes a level, and a container one more. -/
def value : Nat → Reader Data
  | 0 => fun _ => none
  | 1 => valueOf (fun _ _ _ => none) 0
  | levels + 2 => valueOf (contained (value levels) (text levels)) (levels + 1)

/-- **ofBytes?** — the data that all of the bytes make. -/
def Data.ofBytes? (bs : Bytes) : Option Data :=
  match value maxLevels bs with
  | some (d, []) => some d
  | _ => none

/-! ## From data to JSON -/

mutual

/-- **toJson** — the JSON value of data. A link and bytes become objects of one member, a whole number that
does not fit 64 bits becomes its digits, and what is no finite number becomes null. -/
def Data.toJson : Data → Json.Value
  | .null => .null
  | .bool b => .bool b
  | .int n => if Json.isWhole n then .int n else .text (toString n)
  | .float bits => if isFinite bits then .double bits else .null
  | .text s => .text s
  | .bytes bs => .object [("$bytes", .text (Radix.base64 bs))]
  | .list items => .array (jsonItems items)
  | .map members => .object (jsonMembers members)
  | .link cid => .object [("$link", .text cid.text)]

/-- The JSON values of a list. -/
def jsonItems : List Data → List Json.Value
  | [] => []
  | d :: ds => d.toJson :: jsonItems ds

/-- The JSON values of members. -/
def jsonMembers : List (String × Data) → List (String × Json.Value)
  | [] => []
  | (key, d) :: ms => (key, d.toJson) :: jsonMembers ms

end

end FeedIndex.Cbor
