import FeedIndex.Text.Cut
import FeedIndex.Url.Name

/-!
# Hosts

The host of a URL is a domain name, an address of version 4 in any of its old spellings, or an address of
version 6 in brackets. A host of a scheme that is not special is not looked into; it is kept as it stands,
percent encoded.
-/

namespace FeedIndex.Url

/-- **Failure** — why a text is no URL. -/
inductive Failure
  | relative
  | emptyHost
  | badPortNumber
  | badDomainName
  | badHostCharacter
  | badAddress4
  | badAddress6
deriving DecidableEq, Repr

/-- **message** — the wording of the cause. -/
def Failure.message : Failure → String
  | .relative => "relative URL without a base"
  | .emptyHost => "empty host"
  | .badPortNumber => "invalid port number"
  | .badDomainName => "invalid international domain name"
  | .badHostCharacter => "invalid domain character"
  | .badAddress4 => "invalid IPv4 address"
  | .badAddress6 => "invalid IPv6 address"

/-- **Host** — the host of a URL. -/
inductive Host
  | domain (name : List Char)
  | address4 (n : Nat)
  | address6 (pieces : List Nat)
deriving DecidableEq, Repr

/-! ## Addresses of version 4 -/

/-- The value of a hexadecimal digit. -/
def digitOf? (base : Nat) (c : Char) : Option Nat :=
  if c.toNat < 128 then (hexValue? c.toNat.toUInt8).bind fun d => if d < base then some d else none
  else none

/-- The number that digits of a base make. -/
def numberOf? (base : Nat) (cs : List Char) : Option Nat :=
  cs.foldlM (fun n c => (digitOf? base c).map fun d => base * n + d) 0

/-- **part4?** — a part of an address: decimal, octal after a zero, or hexadecimal after `0x`. -/
def part4? (cs : List Char) : Option Nat :=
  match cs with
  | [] => none
  | '0' :: 'x' :: rest => numberOf? 16 rest
  | '0' :: 'X' :: rest => numberOf? 16 rest
  | '0' :: d :: rest => numberOf? 8 (d :: rest)
  | cs => numberOf? 10 cs

/-- The parts of a name between its dots, without an empty last one. -/
def parts4 (name : List Char) : List (List Char) :=
  match (Text.split '.' name).reverse with
  | [] :: part :: parts => (part :: parts).reverse
  | parts => parts.reverse

/-- **endsInNumber** — the name has to be an address: its last part is a number. -/
def endsInNumber (name : List Char) : Bool :=
  match (parts4 name).getLast? with
  | none => false
  | some part => (!part.isEmpty && part.all Char.isDigit) || (part4? part).isSome

/-- The address whose parts are the given numbers. The last one fills all the bytes that are left. -/
def address4Of? : Nat → List Nat → Option Nat
  | _, [] => none
  | place, [n] => if n < Nat.pow 256 (place + 1) then some n else none
  | 0, _ => none
  | place + 1, n :: ns =>
    if n < 256 then (address4Of? place ns).map fun rest => n * Nat.pow 256 (place + 1) + rest else none

/-- **address4?** — the address that a name is. -/
def address4? (name : List Char) : Option Nat := ((parts4 name).mapM part4?).bind (address4Of? 3)

/-! ## Addresses of version 6 -/

/-- A piece of up to four hexadecimal digits. -/
def piece6? (cs : List Char) : Option Nat :=
  if cs.isEmpty ∨ 4 < cs.length then none else numberOf? 16 cs

/-- A decimal byte without leading zeros. -/
def byte4? (cs : List Char) : Option Nat :=
  match cs with
  | [] => none
  | '0' :: _ :: _ => none
  | cs => (numberOf? 10 cs).bind fun n => if n < 256 then some n else none

/-- The last piece or pieces: an address of version 4 gives two. -/
def lastPieces? (cs : List Char) : Option (List Nat) :=
  if cs.contains '.' then
    match (Text.split '.' cs).mapM byte4? with
    | some [a, b, c, d] => some [256 * a + b, 256 * c + d]
    | _ => none
  else (piece6? cs).map fun n => [n]

/-- Pieces between colons. -/
def pieces6? : List (List Char) → Option (List Nat)
  | [] => some []
  | [last] => lastPieces? last
  | piece :: pieces => do return (← piece6? piece) :: (← pieces6? pieces)

/-- The text before and after the first two colons in a row. -/
def cutDouble : List Char → Option (List Char × List Char)
  | [] => none
  | c :: cs =>
    match cs with
    | [] => none
    | d :: ds =>
      if c = ':' ∧ d = ':' then some ([], ds)
      else (cutDouble (d :: ds)).map fun (before, after) => (c :: before, after)

/-- The pieces of a part of an address, which may be empty. -/
def side6? (cs : List Char) : Option (List Nat) :=
  if cs.isEmpty then some [] else pieces6? (Text.split ':' cs)

/-- **address6?** — the eight pieces of an address. Two colons in a row stand for at least one zero. -/
def address6? (cs : List Char) : Option (List Nat) :=
  match cutDouble cs with
  | none => (pieces6? (Text.split ':' cs)).bind fun pieces => if pieces.length = 8 then some pieces else none
  | some (before, after) => do
    if before.contains '.' then none
    let left ← side6? before
    let right ← side6? after
    if 8 ≤ left.length + right.length then none
    else return left ++ List.replicate (8 - left.length - right.length) 0 ++ right

/-- The lengths of the runs of zeros that begin at each piece. -/
def zeroRuns : List Nat → List Nat
  | [] => []
  | n :: ns =>
    let runs := zeroRuns ns
    (if n = 0 then runs.headD 0 + 1 else 0) :: runs

/-- A piece in hexadecimal. -/
def render6Piece (n : Nat) : List Char := Nat.toDigits 16 n

/-- An address: its first longest run of zeros, if it has two or more, is left out. -/
def render6 (pieces : List Nat) : List Char :=
  let runs := zeroRuns pieces
  let longest := runs.foldl max 0
  if longest < 2 then joinWith ':' (pieces.map render6Piece)
  else
    let start := runs.findIdx (· == longest)
    joinWith ':' ((pieces.take start).map render6Piece) ++ [':', ':'] ++
      joinWith ':' ((pieces.drop (start + longest)).map render6Piece)

/-! ## Hosts -/

/-- An address in brackets. -/
def bracketed? (cs : List Char) : Except Failure Host :=
  if cs.getLast? = some ']' then
    match address6? (cs.drop 1).dropLast with
    | some pieces => .ok (.address6 pieces)
    | none => .error .badAddress6
  else .error .badAddress6

/-- **Host.parse** — the host of a special scheme. -/
def Host.parse (cs : List Char) : Except Failure Host :=
  if cs.head? = some '[' then bracketed? cs
  else
    match domainName? cs with
    | none => .error .badDomainName
    | some [] => .error .emptyHost
    | some name =>
      if endsInNumber name then
        match address4? name with
        | some n => .ok (.address4 n)
        | none => .error .badAddress4
      else .ok (.domain name)

/-- A character that no host may have. -/
def isForbiddenInHost (c : Char) : Bool :=
  ['\x00', '\t', '\n', '\r', ' ', '#', '/', ':', '<', '>', '?', '@', '[', '\\', ']', '^', '|'].contains c

/-- **parsePlain** — the host of another scheme. -/
def Host.parsePlain (cs : List Char) : Except Failure Host :=
  if cs.head? = some '[' then bracketed? cs
  else if cs.any isForbiddenInHost then .error .badHostCharacter
  else .ok (.domain (encodeWith controlSet cs))

/-- **render** — the host as text. -/
def Host.render : Host → List Char
  | .domain name => name
  | .address4 n =>
    joinWith '.' ([3, 2, 1, 0].map fun i => Nat.toDigits 10 (n / Nat.pow 256 i % 256))
  | .address6 pieces => '[' :: render6 pieces ++ [']']

example : (address4? "127.1".toList).map (Host.render <| .address4 ·) = some "127.0.0.1".toList := by
  decide +kernel
example : (address6? "1:0:0:2::".toList).map render6 = some "1:0:0:2::".toList := by decide +kernel

end FeedIndex.Url
