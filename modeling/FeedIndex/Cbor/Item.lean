import FeedIndex.Cbor.Head
import FeedIndex.Cid
import FeedIndex.Wire.Basic

/-!
# CBOR items

The items that blocks and frame bodies are made of. A record is read by what its fields have to be: a string
may be of open length and then consists of pieces up to a break, a list or a map states its length. What is
not looked at is read to find its end, and may be anything that is well formed. Items nest only so deep; a
scalar that is skipped counts as a level of its own.
-/

namespace FeedIndex.Cbor

open Wire (counted)

/-- Items may be nested this deep, scalars counted. -/
def maxLevels : Nat := 256

/-- **Reader** — takes something from the head of bytes and returns the rest. -/
abbrev Reader (α : Type) := Bytes → Option (α × Bytes)

/-- Two things, one after the other. -/
def paired (first : Reader α) (second : Reader β) : Reader (α × β) := fun bs =>
  match first bs with
  | none => none
  | some (a, rest) => (second rest).map fun (b, rest) => ((a, b), rest)

/-- Things up to a break. The number bounds them; the length of the bytes is enough. -/
def untilBreak (read : Reader α) : Nat → Reader (List α)
  | 0, _ => none
  | n + 1, bs =>
    match bs with
    | [] => none
    | b :: rest =>
      if b = breakByte then some ([], rest)
      else
        match read bs with
        | none => none
        | some (a, rest) => (untilBreak read n rest).map fun (as, rest) => (a :: as, rest)

/-- **counting** — things of a stated number, or up to a break if none is stated. -/
def counting (read : Reader α) (count : Option Nat) : Reader (List α) := fun bs =>
  match count with
  | some n => counted read n bs
  | none => untilBreak read bs.length bs

/-! ## Where a type is expected -/

/-- A string of the given type, given a reader of the pieces that it may have. -/
def stringOf (major : Major) (piece : Reader Bytes) : Reader Bytes
  | [] => none
  | b :: rest =>
    if b = major.bits ||| openLength then
      (untilBreak piece rest.length rest).map fun (pieces, rest) => (pieces.flatten, rest)
    else
      match expected? major (b :: rest) with
      | none => none
      | some (n, rest) => Bytes.takeExact n rest

/-- **string** — the bytes of a string whose pieces are nested no deeper than the number says. -/
def string (major : Major) : Nat → Reader Bytes
  | 0 => stringOf major fun _ => none
  | levels + 1 => stringOf major (string major levels)

/-- **text** — a string that is UTF-8 as a whole. -/
def text (levels : Nat) : Reader String := fun bs =>
  (string .text levels bs).bind fun (content, rest) => (Bytes.utf8? content).map fun s => (s, rest)

/-- **integer** — a whole number of either sign. -/
def integer : Reader Int := fun bs =>
  match head? bs with
  | some (⟨.unsigned, argument⟩, rest) => argument.number?.map fun (n : Nat) => ((n : Int), rest)
  | some (⟨.negative, argument⟩, rest) => argument.number?.map fun (n : Nat) => (-1 - (n : Int), rest)
  | _ => none

/-- The tag of a link. -/
def linkTag : Nat := 42

/-- **link** — a link to a block: a tag over bytes, which are a zero byte and an identifier. What follows the
identifier in the bytes is not looked at. -/
def link (levels : Nat) : Reader Cid := fun bs =>
  match expected? .tag bs with
  | none => none
  | some (tag, rest) =>
    if tag = linkTag then
      match string .bytes levels rest with
      | some (0 :: content, rest) => (Cid.read? content).map fun (cid, _) => (cid, rest)
      | _ => none
    else none

/-! ## What is not looked at -/

/-- A simple value or a float that may be skipped. -/
def skipsSimple : Argument → Bool
  | .short n => n = 20 ∨ n = 21 ∨ n = 22 ∨ n = 23
  | .long count _ => count = 2 ∨ count = 4 ∨ count = 8
  | .none => false

/-- The content of an item after its head, given a reader that skips the items one level below. -/
def skipContent (below : Reader Unit) (major : Major) (argument : Argument) (bs : Bytes) : Option Bytes :=
  match major, argument.number? with
  | .unsigned, some _ => some bs
  | .negative, some _ => some bs
  | .bytes, some n => (Bytes.takeExact n bs).map Prod.snd
  | .text, some n => (Bytes.takeExact n bs).map Prod.snd
  | .bytes, none => (counting below none bs).map Prod.snd
  | .text, none => (counting below none bs).map Prod.snd
  | .array, count => (counting below count bs).map Prod.snd
  | .map, count => (counting (paired below below) count bs).map Prod.snd
  | .tag, some _ => (below bs).map Prod.snd
  | .simple, _ => if skipsSimple argument then some bs else none
  | _, none => none

/-- **skip** — an item that is nested no deeper than the number says, read to its end. -/
def skip : Nat → Reader Unit
  | 0, _ => none
  | levels + 1, bs =>
    match head? bs with
    | none => none
    | some (⟨major, argument⟩, rest) =>
      (skipContent (skip levels) major argument rest).map fun rest => ((), rest)

end FeedIndex.Cbor
