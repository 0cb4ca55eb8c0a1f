import FeedIndex.Transport.Session
import FeedIndex.Url.Host

/-!
# Options

The options of the command line. An option has a long name, some have a short one, and all but one take a
value, which follows as the next argument or behind an equals sign; behind a short name the equals sign may
be left out. Each option may be given once. Whatever goes wrong first decides, and a request for help or for
the version ends the reading where it stands.
-/

namespace FeedIndex

/-- **Backend** — where the index is kept. -/
inductive Backend
  | memory
  | sqlite
deriving DecidableEq, Repr, Inhabited

/-- **Options** — what the program is asked to do. Times are in seconds. -/
structure Options where
  transport : Transport := .jetstream
  endpoint : Option String := none
  backend : Backend := .sqlite
  /-- The file of the database. -/
  data : String := "ingester.sqlite"
  workers : Nat := 8
  /-- The time after which a commit is given up. -/
  patience : Nat := 30
  /-- The time between flushes. -/
  flushPeriod : Nat := 10
  /-- The time between refreshes of the roster. -/
  refreshPeriod : Nat := 60
  /-- The time after which a refresh is given up. -/
  refreshPatience : Nat := 10
  /-- The account whose followers are followed. -/
  subject : String := "did:plc:jdkvwye2lf4mingzk7qdebzc"
  /-- Blocks of a relay are not verified. -/
  trustsRelay : Bool := false
  userAgent : Option String := none
  /-- The host at which the metrics are served. -/
  metricsHost : Option Url.Host := none
deriving DecidableEq, Repr

/-- **Switch** — the name of an option. -/
inductive Switch
  | transport
  | endpoint
  | backend
  | data
  | workers
  | patience
  | flushPeriod
  | refreshPeriod
  | refreshPatience
  | subject
  | trustsRelay
  | userAgent
  | metricsAddress
  | help
  | version
deriving DecidableEq, Repr

/-- **Usage** — why the program does not begin. -/
inductive Usage
  | help
  | version
  /-- The arguments are not understood. -/
  | misuse
deriving DecidableEq, Repr

namespace Switch

/-- All names. -/
def all : List Switch :=
  [.transport, .endpoint, .backend, .data, .workers, .patience, .flushPeriod, .refreshPeriod,
    .refreshPatience, .subject, .trustsRelay, .userAgent, .metricsAddress, .help, .version]

/-- The long name, without the dashes. -/
def long : Switch → String
  | .transport => "transport"
  | .endpoint => "endpoint"
  | .backend => "backend"
  | .data => "data"
  | .workers => "workers"
  | .patience => "work-item-timeout"
  | .flushPeriod => "cursor-flush-interval"
  | .refreshPeriod => "actor-sync-interval"
  | .refreshPatience => "actor-refresh-timeout"
  | .subject => "subject-did"
  | .trustsRelay => "trust-relay"
  | .userAgent => "user-agent"
  | .metricsAddress => "metrics-addr"
  | .help => "help"
  | .version => "version"

/-- The short name, if there is one. -/
def short? : Switch → Option Char
  | .endpoint => some 'e'
  | .backend => some 'b'
  | .data => some 'd'
  | .help => some 'h'
  | .version => some 'V'
  | _ => none

/-- The switch takes a value. -/
def takesValue : Switch → Bool
  | .trustsRelay => false
  | .help => false
  | .version => false
  | _ => true

/-- The switch of a long name. -/
def ofLong? (name : List Char) : Option Switch := all.find? fun switch => switch.long.toList == name

/-- The switch of a short name. -/
def ofShort? (name : Char) : Option Switch := all.find? fun switch => switch.short? == some name

theorem ofLong?_long (switch : Switch) : ofLong? switch.long.toList = some switch := by
  cases switch <;> decide +kernel

end Switch

namespace Options

/-! ## Values -/

/-- The digits after a plus sign that may be there. -/
def unsignedDigits (value : List Char) : List Char :=
  match value with
  | '+' :: digits => digits
  | digits => digits

/-- A number of a list of digits that is not empty. -/
def decimal? (digits : List Char) : Option Nat :=
  if !digits.isEmpty && digits.all Char.isDigit then
    some (digits.foldl (fun n c => 10 * n + (c.toNat - '0'.toNat)) 0)
  else none

/-- **number?** — a number of 64 bits. -/
def number? (value : List Char) : Option Nat :=
  (decimal? (unsignedDigits value)).filter (· < Nat.pow 2 64)

/-- The number after a host's colon: 16 bits. -/
def isPortNumber (digits : List Char) : Bool := (decimal? digits).any (· < Nat.pow 2 16)

/-- The address of version 6 before the number of its link, if that is there: 32 bits. -/
def linkedAddress? (cs : List Char) : Option (List Nat) :=
  match Text.cut '%' cs with
  | none => Url.address6? cs
  | some (address, link) =>
    if (decimal? link).any (· < Nat.pow 2 32) then Url.address6? address else none

/-- **socketHost?** — the host of a socket: four numbers, or the other form in brackets, before a colon and a
number. -/
def socketHost? (value : List Char) : Option Url.Host :=
  match value with
  | '[' :: rest =>
    let (host, after) := rest.span (· != ']')
    match after with
    | ']' :: ':' :: number =>
      if isPortNumber number then (linkedAddress? host).map .address6 else none
    | _ => none
  | _ =>
    let (host, after) := value.span (· != ':')
    match after, (Text.split '.' host).mapM Url.byte4? with
    | ':' :: number, some [a, b, c, d] =>
      if isPortNumber number then some (.address4 (((a * 256 + b) * 256 + c) * 256 + d)) else none
    | _, _ => none

/-- **set** — the options with a value for a switch, unless the value is of the wrong kind. -/
def set (switch : Switch) (value : List Char) (options : Options) : Option Options :=
  let text := String.ofList value
  match switch with
  | .transport =>
    if text = "jetstream" then some { options with transport := .jetstream }
    else if text = "firehose" then some { options with transport := .relay }
    else none
  | .endpoint => some { options with endpoint := some text }
  | .backend =>
    if text = "memory" then some { options with backend := .memory }
    else if text = "sqlite" then some { options with backend := .sqlite }
    else none
  | .data => if value.isEmpty then none else some { options with data := text }
  | .workers => (number? value).map fun n => { options with workers := n }
  | .patience => (number? value).map fun n => { options with patience := n }
  | .flushPeriod => (number? value).map fun n => { options with flushPeriod := n }
  | .refreshPeriod => (number? value).map fun n => { options with refreshPeriod := n }
  | .refreshPatience => (number? value).map fun n => { options with refreshPatience := n }
  | .subject => some { options with subject := text }
  | .userAgent => some { options with userAgent := some text }
  | .metricsAddress =>
    (socketHost? value).map fun host => { options with metricsHost := some host }
  | .trustsRelay => none
  | .help => none
  | .version => none

/-! ## Reading the arguments -/

/-- **Reading** — the options so far, and the switches that were given. -/
structure Reading where
  options : Options := {}
  given : List Switch := []

namespace Reading

/-- A switch is given; once only. -/
def give (switch : Switch) (reading : Reading) : Except Usage Reading :=
  if switch ∈ reading.given then .error .misuse
  else .ok { reading with given := switch :: reading.given }

/-- A switch is given with a value. -/
def giveValue (switch : Switch) (value : List Char) (reading : Reading) : Except Usage Reading :=
  match reading.options.set switch value with
  | none => .error .misuse
  | some options => give switch { reading with options }

/-- A switch without a value is given. -/
def giveFlag (switch : Switch) (reading : Reading) : Except Usage Reading :=
  match switch with
  | .help => .error .help
  | .version => .error .version
  | .trustsRelay => give switch { reading with options := { reading.options with trustsRelay := true } }
  | _ => .error .misuse

/-- **short** — reads the short names in an argument; the last one may want a value. -/
def short : List Char → Reading → Except Usage (Reading × Option Switch)
  | [], reading => .ok (reading, none)
  | c :: rest, reading =>
    match Switch.ofShort? c with
    | none => .error .misuse
    | some switch =>
      if switch.takesValue then
        match rest with
        | [] => .ok (reading, some switch)
        | '=' :: value => (reading.giveValue switch value).map fun reading => (reading, none)
        | value => (reading.giveValue switch value).map fun reading => (reading, none)
      else
        match reading.giveFlag switch with
        | .error usage => .error usage
        | .ok reading => short rest reading

/-- **long** — reads a long name, which may want a value. -/
def long (argument : List Char) (reading : Reading) : Except Usage (Reading × Option Switch) :=
  let (name, after) := argument.span (· != '=')
  match Switch.ofLong? name, after with
  | none, _ => .error .misuse
  | some switch, '=' :: value =>
    if switch.takesValue then (reading.giveValue switch value).map fun reading => (reading, none)
    else .error .misuse
  | some switch, _ =>
    if switch.takesValue then .ok (reading, some switch)
    else (reading.giveFlag switch).map fun reading => (reading, none)

/-- An argument that can be the value of the switch before it. -/
def isValue (argument : List Char) : Bool :=
  match argument with
  | ['-'] => true
  | '-' :: _ => false
  | _ => true

/-- **arguments** — reads arguments; the switch before them may want a value. -/
def arguments : Option Switch → List (List Char) → Reading → Except Usage Reading
  | none, [], reading => .ok reading
  | some _, [], _ => .error .misuse
  | some switch, argument :: rest, reading =>
    if isValue argument then
      match reading.giveValue switch argument with
      | .error usage => .error usage
      | .ok reading => arguments none rest reading
    else .error .misuse
  | none, argument :: rest, reading =>
    match argument with
    | ['-', '-'] => if rest.isEmpty then .ok reading else .error .misuse
    | '-' :: '-' :: name =>
      match reading.long name with
      | .error usage => .error usage
      | .ok (reading, pending) => arguments pending rest reading
    | '-' :: c :: names =>
      match reading.short (c :: names) with
      | .error usage => .error usage
      | .ok (reading, pending) => arguments pending rest reading
    | _ => .error .misuse

end Reading

/-- **ofArguments** — the options that arguments ask for. -/
def ofArguments (arguments : List String) : Except Usage Options :=
  (Reading.arguments none (arguments.map String.toList) {}).map (·.options)

end Options

end FeedIndex
