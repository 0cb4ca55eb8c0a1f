import FeedIndex.Text.Cut
import FeedIndex.Text.Lossy
import FeedIndex.Url.Percent

/-!
# Where a database is

A database is named by its file, or by a URL of the scheme of files with options: how it may be used, and
which system keeps it. Of the options only some are known and the others are passed over; the last one of a
name decides, and none may ask for more than the one before it left. A database without a name, or with the
name of memory, is on no disk.
-/

namespace FeedIndex

/-- **DatabaseFailure** — why a database cannot be opened. -/
inductive DatabaseFailure where
  | badAuthority (authority : String)
  | unknownAccess (access : String)
  | refusedAccess (access : String)
  | unknownCache (cache : String)
  | unknownSystem (system : String)
  /-- There is no such file and none can be made. -/
  | noFile
  /-- The journal that the database needs cannot be there. -/
  | noJournal
  /-- A new database cannot be set up for reading only. -/
  | readOnly
  /-- What is there cannot be read, or there is no file to take the permissions from. -/
  | unreadable
  /-- What is there is a file of another kind. -/
  | otherFile
  /-- What is written does not last. -/
  | unflushed
deriving DecidableEq, Repr

namespace DatabaseFailure

/-- **message** — the wording of a failure to open what was named. -/
def message (name : String) : DatabaseFailure → String
  | .badAuthority authority => "invalid uri authority: " ++ authority
  | .unknownAccess access => "no such access mode: " ++ access
  | .refusedAccess access => "access mode not allowed: " ++ access
  | .unknownCache cache => "no such cache mode: " ++ cache
  | .unknownSystem system => "no such vfs: " ++ system
  | .noFile => "unable to open database file: " ++ name
  | .noJournal => "unable to open database file"
  | .readOnly => "attempt to write a readonly database"
  | .unreadable => "disk I/O error"
  | .otherFile => "file is not a database"
  | .unflushed => "disk I/O error"

/-- The number of the failure's kind, and the wording of the kind. -/
def kind : DatabaseFailure → Nat × String
  | .badAuthority _ => (1, "SQL error or missing database")
  | .unknownAccess _ => (1, "SQL error or missing database")
  | .unknownCache _ => (1, "SQL error or missing database")
  | .unknownSystem _ => (1, "SQL error or missing database")
  | .refusedAccess _ => (3, "Access permission denied")
  | .readOnly => (8, "Attempt to write a readonly database")
  | .noFile => (14, "Unable to open the database file")
  | .noJournal => (14, "Unable to open the database file")
  | .unreadable => (10, "Some kind of disk I/O error occurred")
  | .otherFile => (26, "File opened that is not a database file")
  | .unflushed => (1034, "Error flushing data to persistent storage (fsync)")

/-- **causes** — the causes of a failure, the last one the innermost. -/
def causes (name : String) (failure : DatabaseFailure) : List String :=
  let (number, wording) := failure.kind
  let detail := failure.message name
  ["sqlite error: " ++ detail, detail, "Error code " ++ toString number ++ ": " ++ wording]

end DatabaseFailure

/-- **Access** — how a database may be used. -/
inductive Access where
  | readOnly
  | existing
  /-- A database that does not exist is made. -/
  | create
  /-- It is kept in memory. -/
  | memory
deriving DecidableEq, Repr

namespace Access

/-- The access of a name. -/
def ofName? (name : Bytes) : Option Access :=
  if name = "ro".toUTF8.toList then some .readOnly
  else if name = "rw".toUTF8.toList then some .existing
  else if name = "rwc".toUTF8.toList then some .create
  else if name = "memory".toUTF8.toList then some .memory
  else none

/-- How much an access to a file allows. -/
def rank : Access → Nat
  | .readOnly => 1
  | .existing => 2
  | .create => 6
  | .memory => 128

/-- An access may be asked for after another one. -/
def mayFollow (current access : Access) : Bool := access = .memory || access.rank ≤ current.rank

end Access

/-- **Location** — where a database is. -/
structure Location where
  /-- The file as it is written. -/
  file : Bytes
  access : Access := .create
  /-- Another system than the disk keeps it. -/
  isElsewhere : Bool := false
  /-- Nobody changes it. -/
  isFixed : Bool := false
  /-- It is not locked, so it cannot be shared. -/
  isUnlocked : Bool := false
  /-- The file whose permissions a new one gets. -/
  modelFile : Option Bytes := none
deriving DecidableEq, Repr

namespace Location

/-- The name of memory. -/
def memoryName : Bytes := ":memory:".toUTF8.toList

/-- The database is kept in memory for this use alone. -/
def isTransient (location : Location) : Bool :=
  location.file.isEmpty || location.file = memoryName || location.access = .memory

/-- Nothing can be written. -/
def isReadOnly (location : Location) : Bool :=
  location.access = .readOnly || (location.isFixed && !location.isTransient)

/-! ## Options -/

/-- **Setting** — an option with its value. -/
abbrev Setting := Bytes × Bytes

/-- The bytes of a part of a URL. What follows a zero byte does not count. -/
def decoded (part : List Char) : Bytes := (Url.percentDecode (Url.utf8 part)).takeWhile (· != 0)

/-- The setting that is written in a part; nothing if it has no name. -/
def setting? (part : List Char) : Option Setting :=
  let (name, value) := (Text.cut '=' part).getD (part, [])
  if (decoded name).isEmpty then none else some (decoded name, decoded value)

/-- Bytes as they are shown. -/
def shown (bs : Bytes) : String := String.ofList (Text.ofBytes bs)

/-- The settings for the cache that are known. -/
def cacheNames : List Bytes := ["shared".toUTF8.toList, "private".toUTF8.toList]

/-- The access after a setting. -/
def accessAfter (access : Access) (setting : Setting) : Except DatabaseFailure Access :=
  if setting.1 = "mode".toUTF8.toList then
    match Access.ofName? setting.2 with
    | none => .error (.unknownAccess (shown setting.2))
    | some asked => if access.mayFollow asked then .ok asked else .error (.refusedAccess (shown setting.2))
  else if setting.1 = "cache".toUTF8.toList ∧ setting.2 ∉ cacheNames then
    .error (.unknownCache (shown setting.2))
  else .ok access

/-- The systems that keep databases on the disk and share them. -/
def sharingSystems : List Bytes := ["unix".toUTF8.toList, "unix-excl".toUTF8.toList]

/-- The systems that keep databases on the disk and cannot share them. -/
def unsharingSystems : List Bytes := ["unix-none".toUTF8.toList, "unix-dotfile".toUTF8.toList]

/-- The system that keeps databases in memory. -/
def memorySystem : Bytes := "memdb".toUTF8.toList

/-- The number at the head of bytes: zero if it has more than 31 bits. -/
def numberAtHead (bs : Bytes) : Nat :=
  let n := (bs.takeWhile fun b => 48 ≤ b && b ≤ 57).foldl (fun n b => 10 * n + (b.toNat - 48)) 0
  if n < Nat.pow 2 31 then n else 0

/-- **isYes** — the value says yes: a word for it, or a number that does not end in a byte of zeros. -/
def isYes (value : Bytes) : Bool :=
  let word := (shown value).map Char.toLower
  word = "on" || word = "yes" || word = "true" || numberAtHead value % 256 != 0

/-- The value of the last setting of a name. -/
def last? (name : String) (settings : List Setting) : Option Bytes :=
  (settings.reverse.find? fun setting => setting.1 = name.toUTF8.toList).map (·.2)

/-- The value of the first setting of a name. -/
def first? (name : String) (settings : List Setting) : Option Bytes :=
  (settings.find? fun setting => setting.1 = name.toUTF8.toList).map (·.2)

/-- The location of a file with settings. -/
def ofSettings (file : Bytes) (settings : List Setting) : Except DatabaseFailure Location := do
  let access ← settings.foldlM accessAfter Access.create
  let system := (last? "vfs" settings).getD "unix".toUTF8.toList
  if system ∉ sharingSystems ∧ system ∉ unsharingSystems ∧ system ≠ memorySystem then
    throw (.unknownSystem (shown system))
  return {
    file, access
    isElsewhere := system = memorySystem
    isFixed := (first? "immutable" settings).any isYes
    isUnlocked := system ∈ unsharingSystems || (first? "nolock" settings).any isYes
    modelFile := first? "modeof" settings }

/-! ## Names -/

/-- A URL after its authority. -/
def ofPath (cs : List Char) : Except DatabaseFailure Location :=
  let cs := cs.takeWhile (· != '#')
  match Text.cut '?' cs with
  | none => ofSettings (decoded cs) []
  | some (file, query) => ofSettings (decoded file) ((Text.split '&' query).filterMap setting?)

/-- **ofUrl** — a URL after its scheme. Its authority can only be this machine. -/
def ofUrl (cs : List Char) : Except DatabaseFailure Location :=
  match cs with
  | '/' :: '/' :: rest =>
    let authority := String.ofList (rest.takeWhile (· != '/'))
    if authority = "" ∨ authority = "localhost" then ofPath (rest.dropWhile (· != '/'))
    else .error (.badAuthority authority)
  | _ => ofPath cs

/-- **parse** — the location that a name says. -/
def parse (name : String) : Except DatabaseFailure Location :=
  match Text.dropHead "file:".toList name.toList with
  | some rest => ofUrl rest
  | none => .ok { file := name.toUTF8.toList }

end Location

end FeedIndex
