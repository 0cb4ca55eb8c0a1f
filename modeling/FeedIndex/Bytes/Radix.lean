import FeedIndex.Bytes.Basic

/-!
# Bytes as text

Base 32 and base 64 regroup the bits of the bytes and write each group as a letter; the last group is
filled up with zeros and nothing is appended. Base 58 writes the bytes as one number; zero bytes at the
front, which the number does not show, are written as its first digit.
-/

namespace FeedIndex.Radix

/-- The bits of a byte, the most significant first. -/
def bitsOfByte (b : UInt8) : List Bool :=
  [7, 6, 5, 4, 3, 2, 1, 0].map fun i => b.toNat / Nat.pow 2 i % 2 == 1

/-- The bits of bytes in order. -/
def bits (bs : Bytes) : List Bool := bs.flatMap bitsOfByte

/-- The number of a group of bits that is filled up to `width` with zeros. -/
def groupValue (width : Nat) (group : List Bool) : Nat :=
  group.foldl (fun n b => 2 * n + b.toNat) 0 * Nat.pow 2 (width - group.length)

/-- **regroup** — the numbers of the groups of `width` bits; the count bounds the groups. -/
def regroup (width : Nat) : Nat → List Bool → List Nat
  | 0, _ => []
  | _ + 1, [] => []
  | n + 1, bs => groupValue width (bs.take width) :: regroup width n (bs.drop width)

/-- Bytes written with an alphabet of `2 ^ width` letters. -/
def encode (width : Nat) (alphabet : String) (bs : Bytes) : String :=
  let letters := alphabet.toList
  String.ofList ((regroup width (8 * bs.length) (bits bs)).map fun i => letters.getD i '?')

/-- **base32** — lower case, not padded. -/
def base32 (bs : Bytes) : String := encode 5 "abcdefghijklmnopqrstuvwxyz234567" bs

/-- **base64** — the standard alphabet, not padded. -/
def base64 (bs : Bytes) : String :=
  encode 6 "ABCDEFGHIJKLMNOPQRSTUVWXYZabcdefghijklmnopqrstuvwxyz0123456789+/" bs

/-- The digits of a number, least significant first; none for zero. -/
def digits58 (n : Nat) : List Nat :=
  if h : n = 0 then [] else n % 58 :: digits58 (n / 58)
termination_by n
decreasing_by omega

/-- **base58** — the alphabet without letters that look alike. -/
def base58 (bs : Bytes) : String :=
  let letters := "123456789ABCDEFGHJKLMNPQRSTUVWXYZabcdefghijkmnopqrstuvwxyz".toList
  let zeros := (bs.takeWhile (· == 0)).map fun _ => '1'
  String.ofList (zeros ++ (digits58 (Bytes.bigEndian bs)).reverse.map fun i => letters.getD i '?')

end FeedIndex.Radix
