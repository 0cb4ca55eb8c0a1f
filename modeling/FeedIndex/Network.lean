import FeedIndex.Url.Host

/-!
# Addresses without links

A machine whose links are all down reaches no address and can still listen at some. What it says depends on
the kind of the address. An address of version 4 has no way out, and may be listened at. An address of
version 6 stands for one of version 4, or has no address here to be used from; one that names a link needs to
know which. No address of a machine's name is known but its own.
-/

namespace FeedIndex

open Url (Host)

/-- **NetworkFailure** — why an address cannot be used. -/
inductive NetworkFailure
  /-- There is no way to the address. -/
  | unreachable
  /-- The address, or one to use it from, is not of this machine. -/
  | unassigned
  /-- The address is of a link, and of which is not said. -/
  | unlinked
  /-- Nobody can say what the address of the name is. -/
  | unresolved
deriving DecidableEq, Repr

/-- **message** — the wording of the cause. -/
def NetworkFailure.message : NetworkFailure → String
  | .unreachable => "Network is unreachable (os error 101)"
  | .unassigned => "Cannot assign requested address (os error 99)"
  | .unlinked => "Invalid argument (os error 22)"
  | .unresolved => "failed to lookup address information: Temporary failure in name resolution"

namespace Offline

/-- The pieces are those of an address of version 4. -/
def isMapped (pieces : List Nat) : Bool := pieces.take 6 == [0, 0, 0, 0, 0, 0xFFFF]

/-- The address stands for many machines. -/
def isGroup (pieces : List Nat) : Bool := pieces.head?.any (0xFF00 ≤ ·)

/-- The address is of a link. -/
def isLocal (pieces : List Nat) : Bool := pieces.head?.any fun piece => 0xFE80 ≤ piece && piece < 0xFEC0

/-- **reach** — why a host cannot be reached. -/
def reach : Host → NetworkFailure
  | .domain _ => .unresolved
  | .address4 _ => .unreachable
  | .address6 pieces =>
    if isMapped pieces || isGroup pieces then .unreachable
    else if isLocal pieces then .unlinked
    else .unassigned

/-- **listen** — whether connections to a host can be waited for. -/
def listen : Host → Except NetworkFailure Unit
  | .domain _ => .error .unresolved
  | .address4 _ => .ok ()
  | .address6 pieces =>
    if isMapped pieces || pieces.all (· == 0) then .ok ()
    else if isGroup pieces || isLocal pieces then .error .unlinked
    else .error .unassigned

end Offline

end FeedIndex
