import FeedIndex.Bytes.Basic

/-!
# Percent encoding

Each part of a URL has a set of bytes that may not stand in it as they are; they are written as a percent
sign and two hexadecimal digits. A byte outside ASCII is in every set. Parameters of a query have an
encoding of their own, in which a space is a plus sign.
-/

namespace FeedIndex.Url

/-- **ByteSet** — the bytes to encode. -/
abbrev ByteSet := UInt8 → Bool

/-- Controls and everything outside ASCII. -/
def controlSet : ByteSet := fun b => b < 0x20 || 0x7F ≤ b

/-- The byte is one of the given ASCII characters. -/
def isOneOf (cs : List Char) : ByteSet := fun b => cs.any fun c => c.toNat == b.toNat

/-- The set of fragments. -/
def fragmentSet : ByteSet := fun b => controlSet b || isOneOf [' ', '"', '<', '>', '\x60'] b

/-- The set of paths. -/
def pathSet : ByteSet := fun b => fragmentSet b || isOneOf ['#', '?', '{', '}'] b

/-- The set of user names and passwords. -/
def userSet : ByteSet := fun b =>
  pathSet b || isOneOf ['/', ':', ';', '=', '@', '[', '\\', ']', '^', '|'] b

/-- The set of queries. -/
def querySet : ByteSet := fun b => controlSet b || isOneOf [' ', '"', '#', '<', '>'] b

/-- The set of queries of the special schemes. -/
def specialQuerySet : ByteSet := fun b => querySet b || isOneOf ['\x27'] b

/-- The set of parameters. -/
def formSet : ByteSet := fun b =>
  let c := Char.ofNat b.toNat
  !(b < 0x80 && (c.isAlphanum || c == '*' || c == '-' || c == '.' || c == '_'))

/-- A hexadecimal digit, upper case. -/
def upperHex (n : Nat) : Char := Char.ofNat (if n < 10 then 48 + n else 55 + n)

/-- A byte as a percent sign and two digits. -/
def percentByte (b : UInt8) : List Char := ['%', upperHex (b.toNat / 16), upperHex (b.toNat % 16)]

/-- A byte, encoded if it is in the set. -/
def encodeByte (set : ByteSet) (b : UInt8) : List Char :=
  if set b then percentByte b else [Char.ofNat b.toNat]

/-- The bytes of text. -/
def utf8 (cs : List Char) : Bytes := (String.ofList cs).toUTF8.toList

/-- **encodeWith** — text with the bytes of a set encoded. -/
def encodeWith (set : ByteSet) (cs : List Char) : List Char := (utf8 cs).flatMap (encodeByte set)

/-- **encodeForm** — text as it stands in a parameter. -/
def encodeForm (cs : List Char) : List Char :=
  (utf8 cs).flatMap fun b => if b = 0x20 then ['+'] else encodeByte formSet b

/-- The value of a hexadecimal digit's byte. -/
def hexValue? (b : UInt8) : Option Nat :=
  let n := b.toNat
  if 48 ≤ n ∧ n ≤ 57 then some (n - 48)
  else if 65 ≤ n ∧ n ≤ 70 then some (n - 55)
  else if 97 ≤ n ∧ n ≤ 102 then some (n - 87)
  else none

/-- **percentDecode** — bytes with each percent sign and two digits made a byte again. -/
def percentDecode : Bytes → Bytes
  | [] => []
  | 37 :: a :: b :: rest =>
    match hexValue? a, hexValue? b with
    | some high, some low => (16 * high + low).toUInt8 :: percentDecode rest
    | _, _ => 37 :: percentDecode (a :: b :: rest)
  | b :: rest => b :: percentDecode rest

end FeedIndex.Url
