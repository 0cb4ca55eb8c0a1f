import FeedIndex.Bytes.Sha256
import FeedIndex.Cbor.Data
import FeedIndex.Commit
import FeedIndex.Record.Post
import FeedIndex.Text.Quoted
import FeedIndex.Wire.Cbor
import FeedIndex.Wire.Json

/-!
# Opening payloads

A payload becomes a record by decoding it; a block is first checked against the identifier claimed for it.
An opener that verifies accepts a block only if its SHA-256 hash is the claimed one. An opener that trusts
its relay accepts every block. A record can be opened together with the whole of it as a JSON value, in
which the fields that the record type leaves out are kept.
-/

namespace FeedIndex

/-- **Record** — a type that is read alike from every transport. -/
class Record (α : Type) where
  reading : {ω : Type} → [Wire ω] → Wire.Reading ω α

instance : Record Post := ⟨Post.reading⟩
instance : Record Like := ⟨Like.reading⟩
instance : Record Follow := ⟨Follow.reading⟩
instance : Record Profile := ⟨Profile.reading⟩

/-- **ofJson?** — the record of a JSON text. -/
def Record.ofJson? [Record α] (text : String) : Option α :=
  (Json.parse? text).bind (Json.read? Record.reading)

/-- **ofBlock?** — the record of a block. -/
def Record.ofBlock? [Record α] (bs : Bytes) : Option α :=
  Cbor.read? Record.reading bs

/-- **OpenFailure** — why a payload cannot be opened. -/
inductive OpenFailure
  /-- The identifier names another hash than SHA-256, by its code. -/
  | unsupportedHash (code : Nat)
  /-- The block is another one than the identifier says. -/
  | mismatch (claimed computed : String)
  /-- The JSON text is not such a record. -/
  | json
  /-- The block is not such a record. -/
  | cbor
deriving DecidableEq, Repr

/-- **message?** — the wording of the cause, where it has one. -/
def OpenFailure.message? : OpenFailure → Option String
  | .unsupportedHash code => some ("unsupported multihash code 0x" ++ Text.hexDigits code)
  | .mismatch claimed computed =>
    some ("block content does not hash to claimed cid " ++ claimed ++ " (got " ++ computed ++ ")")
  | .json => none
  | .cbor => none

/-- The block itself is to blame, and not what it says. -/
def OpenFailure.isIntegrity : OpenFailure → Bool
  | .unsupportedHash _ => true
  | .mismatch .. => true
  | .json => false
  | .cbor => false

/-- **Opener** — whether blocks are verified. -/
inductive Opener
  | verifying
  | trusting
deriving DecidableEq, Repr, Inhabited

namespace Opener

/-- The block's hash is the one that the identifier claims. -/
def checkHash (cid : Cid) (block : Bytes) : Except OpenFailure Unit :=
  if cid.hashCode ≠ Cid.sha256Code then .error (.unsupportedHash cid.hashCode)
  else if Sha256.digest block ≠ cid.digest then
    .error (.mismatch cid.text (Cid.v1 cid.codec Cid.sha256Code (Sha256.digest block)).text)
  else .ok ()

/-- **verify** — accepts or refuses a block. -/
def verify (opener : Opener) (cid : Cid) (block : Bytes) : Except OpenFailure Unit :=
  match opener with
  | .verifying => checkHash cid block
  | .trusting => .ok ()

/-- **openRecord** — the record of a payload. -/
def openRecord [Record α] (opener : Opener) : Payload → Except OpenFailure α
  | .json text =>
    match Record.ofJson? text with
    | some record => .ok record
    | none => .error .json
  | .block cid bs =>
    match opener.verify cid bs with
    | .error failure => .error failure
    | .ok () =>
      match Record.ofBlock? bs with
      | some record => .ok record
      | none => .error .cbor

/-- **rawValue?** — the whole of a payload as a JSON value. -/
def rawValue? : Payload → Option Json.Value
  | .json text => Json.Value.ofText? text
  | .block _ bs => (Cbor.Data.ofBytes? bs).map Cbor.Data.toJson

/-- The failure of a payload that cannot be decoded. -/
def undecoded : Payload → OpenFailure
  | .json _ => .json
  | .block .. => .cbor

/-- **openWithRaw** — the record of a payload together with the whole of it. -/
def openWithRaw [Record α] (opener : Opener) (payload : Payload) :
    Except OpenFailure (α × Json.Value) :=
  match opener.openRecord payload with
  | .error failure => .error failure
  | .ok record =>
    match rawValue? payload with
    | some raw => .ok (record, raw)
    | none => .error (undecoded payload)

end Opener

end FeedIndex
