import FeedIndex.Cbor.Item

/-!
# Records in CBOR

A structure is a map with text keys. An optional value takes a level of its own, and a field that is ignored
has to fit the levels that are left.
-/

namespace FeedIndex.Cbor

/-- The byte of null. -/
def nullByte : UInt8 := 0xF6

instance : Wire Bytes where
  levels := maxLevels
  optionLevels := 1
  null?
    | b :: rest => if b = nullByte then some rest else none
    | [] => none
  skip? levels input := (skip levels input).map Prod.snd
  text? := text
  integer? := integer
  list? := expected? .array
  layout? input := (expected? .map input).map fun (n, rest) => (.named n, rest)

/-- A byte string. -/
def bytes : Wire.Reading Bytes Bytes := string .bytes

/-- A truth value. -/
def bool : Wire.Reading Bytes Bool := fun _ input =>
  match input with
  | 0xF4 :: rest => some (false, rest)
  | 0xF5 :: rest => some (true, rest)
  | _ => none

/-- **read?** — the record that all of the bytes make. -/
def read? (reading : Wire.Reading Bytes α) (bs : Bytes) : Option α :=
  match Wire.read reading bs with
  | some (a, []) => some a
  | _ => none

end FeedIndex.Cbor
