import FeedIndex.Bytes.Basic

/-!
# The heads of CBOR items

Every item opens with a byte that holds a major type and five bits of information. The information is the
argument itself, says how many bytes the argument has, or marks an item of open length. A head can be read
for whatever it is, or where a certain type is expected.
-/

namespace FeedIndex.Cbor

/-- **Major** — the eight kinds of items. -/
inductive Major
  | unsigned
  | negative
  | bytes
  | text
  | array
  | map
  | tag
  | simple
deriving DecidableEq, Repr

/-- **Argument** — what follows the major type. -/
inductive Argument
  /-- A number in the byte itself. -/
  | short (n : Nat)
  /-- A number in so many bytes of its own. -/
  | long (count n : Nat)
  /-- No number: the length is open, or an open length ends here. -/
  | none
deriving DecidableEq, Repr

/-- The number of an argument. -/
def Argument.number? : Argument → Option Nat
  | .short n => some n
  | .long _ n => some n
  | .none => Option.none

/-- **Head** — a major type and its argument. -/
structure Head where
  major : Major
  argument : Argument
deriving DecidableEq, Repr

/-- The major type of the first three bits. -/
def Major.ofBits : Nat → Major
  | 0 => .unsigned
  | 1 => .negative
  | 2 => .bytes
  | 3 => .text
  | 4 => .array
  | 5 => .map
  | 6 => .tag
  | _ => .simple

/-- **bits** — the first byte of an item of the type whose information is zero. -/
def Major.bits : Major → UInt8
  | .unsigned => 0x00
  | .negative => 0x20
  | .bytes => 0x40
  | .text => 0x60
  | .array => 0x80
  | .map => 0xA0
  | .tag => 0xC0
  | .simple => 0xE0

/-- The information of an open length. -/
def openLength : UInt8 := 0x1F

/-- The byte that ends an open length. -/
def breakByte : UInt8 := Major.simple.bits ||| openLength

/-- The argument of the last five bits, and the bytes after it. -/
def argument? (info : Nat) (bs : Bytes) : Option (Argument × Bytes) :=
  if info < 24 then some (.short info, bs)
  else if info < 28 then
    let count := Nat.pow 2 (info - 24)
    (Bytes.takeExact count bs).map fun (number, rest) => (.long count (Bytes.bigEndian number), rest)
  else if info = openLength.toNat then some (.none, bs)
  else none

/-- **head?** — the head at the front of bytes, and the bytes after it. -/
def head? : Bytes → Option (Head × Bytes)
  | [] => none
  | b :: bs =>
    (argument? (b.toNat % 32) bs).map fun (argument, rest) =>
      (⟨Major.ofBits (b.toNat / 32), argument⟩, rest)

/-- **expected?** — the number of the head at the front of bytes, where an item of a certain type is
expected. The bits of that type are not looked at, so another type passes if it has none but those; an open
length does not. -/
def expected? (major : Major) : Bytes → Option (Nat × Bytes)
  | [] => none
  | b :: bs =>
    let info := (b &&& ~~~major.bits).toNat
    if info < 32 then
      (argument? info bs).bind fun (argument, rest) => argument.number?.map fun n => (n, rest)
    else none

example : expected? .text [0x21] = some (1, []) ∧ expected? .array [0x21] = none := by decide

end FeedIndex.Cbor
