import FeedIndex.Bytes.Radix
import FeedIndex.Bytes.Varint

/-!
# Content identifiers

A CID names a block by a hash of its content. The first version is a bare SHA-256 hash and has a text of
its own; the second says which hash it is and how the block is encoded. Two bytes tell the versions apart.
-/

namespace FeedIndex

/-- **Cid** — a content identifier. -/
inductive Cid where
  /-- Version 0: a SHA-256 hash of 32 bytes. -/
  | v0 (digest : Bytes)
  /-- Version 1: the codec of the block, the code of the hash, and the digest. -/
  | v1 (codec hashCode : Nat) (digest : Bytes)
deriving DecidableEq, Repr

namespace Cid

/-- The code of SHA-256. -/
def sha256Code : Nat := 0x12

/-- The codec that a version 0 identifier implies. -/
def impliedCodec : Nat := 0x70

/-- The longest digest of a version 1 identifier. -/
def maxDigest : Nat := 64

/-- The codec of the block. -/
def codec : Cid → Nat
  | .v0 _ => impliedCodec
  | .v1 codec _ _ => codec

/-- The code of the hash. -/
def hashCode : Cid → Nat
  | .v0 _ => sha256Code
  | .v1 _ code _ => code

/-- The digest. -/
def digest : Cid → Bytes
  | .v0 digest => digest
  | .v1 _ _ digest => digest

/-- **read?** — an identifier at the head of bytes, and the rest. -/
def read? (bs : Bytes) : Option (Cid × Bytes) := do
  let (version, bs) ← Varint.readMinimal? bs
  let (codec, bs) ← Varint.readMinimal? bs
  if version = 0x12 ∧ codec = 0x20 then
    let (digest, bs) ← Bytes.takeExact 32 bs
    return (.v0 digest, bs)
  else if version = 1 then
    let (code, bs) ← Varint.readMinimal? bs
    let (size, bs) ← Varint.readMinimal? bs
    if maxDigest < size then none
    else
      let (digest, bs) ← Bytes.takeExact size bs
      return (.v1 codec code digest, bs)
  else none

/-- **ofBytes?** — the identifier that all of the bytes make. -/
def ofBytes? (bs : Bytes) : Option Cid :=
  match read? bs with
  | some (cid, []) => some cid
  | _ => none

/-- **toBytes** — the binary form. -/
def toBytes : Cid → Bytes
  | .v0 digest => 0x12 :: 0x20 :: digest
  | .v1 codec code digest =>
    Varint.encode 1 ++ Varint.encode codec ++ Varint.encode code ++ Varint.encode digest.length ++ digest

/-- **text** — the text form: base 58 for version 0, base 32 with its letter in front for version 1. -/
def text (cid : Cid) : String :=
  match cid with
  | .v0 _ => Radix.base58 cid.toBytes
  | .v1 .. => "b" ++ Radix.base32 cid.toBytes

end Cid

end FeedIndex
