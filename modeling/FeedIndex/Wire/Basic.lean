/-!
# Fields of records on the wire

Records arrive as JSON or as CBOR and are read by the same rules: which fields a structure has, which may be
missing or null, and how deep its parts may be nested. `Wire` is what those rules need of a transport: small
readers that take one thing from the head of an input and return the input after it. A reading is given the
levels of nesting that are still allowed; each container takes one, and where the transport says so an
optional value takes one as well. Where a value ends can depend on what is expected there, so a value is
read while its extent is found.
-/

namespace FeedIndex

/-- **Layout** — how the fields of a structure stand. -/
inductive Layout
  /-- So many members, each with its key in front. -/
  | named (count : Nat)
  /-- The first so many fields, in the order that the structure gives them. -/
  | inOrder (count : Nat)
deriving DecidableEq, Repr

/-- **Wire** — the inputs of a transport. -/
class Wire (ω : Type) where
  /-- The levels of nesting that a whole value may have. -/
  levels : Nat
  /-- The levels that an optional value takes besides its own. -/
  optionLevels : Nat
  /-- Takes a null, if one is next. -/
  null? : ω → Option ω
  /-- Takes a value of any kind, which fits the given levels. -/
  skip? : Nat → ω → Option ω
  /-- Takes a text of at most the given levels. -/
  text? : Nat → ω → Option (String × ω)
  /-- Takes a whole number, written as one. -/
  integer? : ω → Option (Int × ω)
  /-- Opens a list of so many items. -/
  list? : ω → Option (Nat × ω)
  /-- Opens a structure. -/
  layout? : ω → Option (Layout × ω)

namespace Wire

/-- **counted** — so many things, one after the other. -/
def counted (take? : ω → Option (α × ω)) : Nat → ω → Option (List α × ω)
  | 0, input => some ([], input)
  | n + 1, input =>
    match take? input with
    | none => none
    | some (a, rest) => (counted take? n rest).map fun (as, rest) => (a :: as, rest)

variable {ω α β : Type} [Wire ω]

/-- **Reading** — takes a value from the head of an input, with some levels of nesting left. -/
abbrev Reading (ω α : Type) := Nat → ω → Option (α × ω)

/-- A reading of another value that is made of the one read. -/
def mapped (f : α → β) (read : Reading ω α) : Reading ω β := fun levels input =>
  (read levels input).map fun (a, rest) => (f a, rest)

/-- A reading that refuses some of the values. -/
def filtered (f : α → Option β) (read : Reading ω α) : Reading ω β := fun levels input =>
  (read levels input).bind fun (a, rest) => (f a).map fun b => (b, rest)

/-- A text. -/
def text : Reading ω String := text?

/-- A whole number from `low` up to but not including `high`. -/
def integer (low high : Int) : Reading ω Int :=
  filtered (fun n => if low ≤ n ∧ n < high then some n else none) fun _ => integer?

/-- A whole number of 64 bits. -/
def signed : Reading ω Int := integer (-(Nat.pow 2 63)) (Nat.pow 2 63)

/-- A whole number of 64 bits that is not negative. -/
def unsigned : Reading ω Nat := mapped Int.toNat (integer 0 (Nat.pow 2 64))

/-- A list. -/
def listOf (read : Reading ω α) : Reading ω (List α)
  | 0, _ => none
  | levels + 1, input => (list? input).bind fun (n, rest) => counted (read levels) n rest

/-- A value or null. -/
def optional (read : Reading ω α) : Reading ω (Option α) := fun levels input =>
  match null? input with
  | some rest => some (none, rest)
  | none =>
    if levels < optionLevels ω then none
    else mapped some read (levels - optionLevels ω) input

/-! ## Structures -/

/-- **Field** — a field of a structure: its name, whether it has to be there, and how its value is read into
the structure as it has been read so far. -/
structure Field (ω β : Type) where
  name : String
  isRequired : Bool
  readInto : β → Reading ω β

/-- A field that may be missing; the structure then keeps what it has. -/
def defaulted (name : String) (read : Reading ω α) (put : α → β → β) : Field ω β :=
  ⟨name, false, fun b => mapped (put · b) read⟩

/-- A field that has to be there. -/
def required (name : String) (read : Reading ω α) (put : α → β → β) : Field ω β :=
  ⟨name, true, fun b => mapped (put · b) read⟩

/-- A field that may be missing or null. -/
def optionalField (name : String) (read : Reading ω α) (put : Option α → β → β) : Field ω β :=
  defaulted name (optional read) put

/-- None of the required fields is missing among the names. -/
def complete (fs : List (Field ω β)) (seen : List String) : Bool :=
  fs.all fun f => !f.isRequired || seen.contains f.name

/-- So many members with their keys in front, given the names of the fields that have been read: no field
occurs twice, and what is no field is skipped. -/
def members (fs : List (Field ω β)) (levels : Nat) : Nat → List String → β → ω → Option (β × ω)
  | 0, seen, b, input => if complete fs seen then some (b, input) else none
  | n + 1, seen, b, input =>
    match text? levels input with
    | none => none
    | some (key, rest) =>
      match fs.find? (·.name == key) with
      | none => (skip? levels rest).bind (members fs levels n seen b)
      | some f =>
        if seen.contains key then none
        else
          match f.readInto b levels rest with
          | none => none
          | some (b, rest) => members fs levels n (key :: seen) b rest

/-- The first so many of the fields, in their order; the others may be missing. -/
def inOrder (levels : Nat) : List (Field ω β) → Nat → β → ω → Option (β × ω)
  | fs, 0, b, input => if complete fs [] then some (b, input) else none
  | [], _ + 1, _, _ => none
  | f :: fs, n + 1, b, input =>
    match f.readInto b levels input with
    | none => none
    | some (b, rest) => inOrder levels fs n b rest

/-- **fields** — a structure, from a blank one that its fields are read into. -/
def fields (blank : β) (fs : List (Field ω β)) : Reading ω β
  | 0, _ => none
  | levels + 1, input =>
    match layout? input with
    | none => none
    | some (.named n, rest) => members fs levels n [] blank rest
    | some (.inOrder n, rest) => inOrder levels fs n blank rest

/-- **read** — the value at the head of an input, and the input after it. -/
def read (reading : Reading ω α) (input : ω) : Option (α × ω) := reading (levels ω) input

end Wire

end FeedIndex
