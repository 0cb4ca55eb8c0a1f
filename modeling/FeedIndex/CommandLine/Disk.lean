import FeedIndex.CommandLine.Location
import FeedIndex.Store.Relational

/-!
# The disk

What the program finds where it runs: directories, and databases and other files in them. A path is the names
on the way from the root, and a file is named from the directory that the program runs in unless its name
begins with a slash. A database that is not there is made, if its location says so and its directory exists;
it is there from that moment, even if it can then not be set up. Databases are kept in a way that needs
them to be shared, so one that is there cannot be used where it may not be.
-/

namespace FeedIndex

/-- **Path** — the names on the way from the root. -/
abbrev Path := List Bytes

/-- **OtherFile** — a file that is no database. -/
inductive OtherFile
  | text
  /-- It takes what is written and does not keep it. -/
  | sink
deriving DecidableEq, Repr

/-- **Disk** — the directories and files there are. -/
structure Disk where
  /-- The directory that the program runs in. -/
  here : Path := []
  /-- The directories besides the root. -/
  directories : List Path := []
  databases : List (Path × Relational) := []
  others : List (Path × OtherFile) := []

/-- **Opened** — a database that is in use. -/
structure Opened where
  /-- Where it is; nothing for a database that is in memory. -/
  path : Option Path
  database : Relational

namespace Disk

/-- **get?** — the database at a path. -/
def get? (path : Path) (disk : Disk) : Option Relational :=
  (disk.databases.find? fun entry => entry.1 = path).map (·.2)

/-- **put** — sets the database at a path. -/
def put (path : Path) (database : Relational) (disk : Disk) : Disk :=
  { disk with
    databases := (path, database) :: disk.databases.filter fun entry => entry.1 ≠ path }

theorem get?_put (path other : Path) (database : Relational) (disk : Disk) :
    (disk.put path database).get? other = if other = path then some database else disk.get? other := by
  by_cases h : other = path
  · simp [put, get?, h]
  · have hne : path ≠ other := Ne.symm h
    simp only [put, get?, if_neg h, List.find?_cons, hne, decide_false, List.find?_filter]
    congr 2
    funext entry
    by_cases he : entry.1 = other
    · simp [he, h]
    · simp [he]

/-- The other file at a path. -/
def other? (path : Path) (disk : Disk) : Option OtherFile :=
  (disk.others.find? fun entry => entry.1 = path).map (·.2)

/-- There is a directory at a path. -/
def isDirectory (path : Path) (disk : Disk) : Bool := path.isEmpty || disk.directories.contains path

/-- There is a file at a path. -/
def isFile (path : Path) (disk : Disk) : Bool := (disk.get? path).isSome || (disk.other? path).isSome

/-! ## Paths -/

/-- A name has at most this many bytes. -/
def maxNameLength : Nat := 255

/-- The path with one name more. A dot stays where it is, two dots go back, and nothing can be in a
file. -/
def step (disk : Disk) (path : Path) (name : Bytes) : Option Path :=
  if name.isEmpty || name = [46] then some path
  else if name = [46, 46] then some path.dropLast
  else if maxNameLength < name.length || disk.isFile path then none
  else some (path ++ [name])

/-- The path at which a file that is named so begins. -/
def startOf (file : Bytes) (disk : Disk) : Path := if file.head? = some 47 then [] else disk.here

/-- **resolve?** — the path of a file as it is written. The root is no file. -/
def resolve? (file : Bytes) (disk : Disk) : Option Path :=
  ((Text.split 47 file).foldlM disk.step (disk.startOf file)).filter (!·.isEmpty)

/-- The path with one name more, from a directory that is there. -/
def walk (disk : Disk) (path : Path) (name : Bytes) : Option Path :=
  if !disk.isDirectory path then none
  else if name.isEmpty || name = [46] then some path
  else if name = [46, 46] then some path.dropLast
  else some (path ++ [name])

/-- **finds** — there is a file of that name. Every directory on the way has to be there too. -/
def finds (file : Bytes) (disk : Disk) : Bool :=
  !file.isEmpty && ((Text.split 47 file).foldlM disk.walk (disk.startOf file)).any fun path =>
    disk.isDirectory path || disk.isFile path

/-! ## Opening -/

/-- A journal has the name of its database and this many bytes more. -/
def journalSuffixLength : Nat := 8

/-- There is room for the journal of a new database. -/
def hasJournalRoom (path : Path) : Bool :=
  (path.getLast?.map List.length).getD 0 + journalSuffixLength ≤ maxNameLength

/-- Makes a new database. -/
def create (path : Path) (location : Location) (disk : Disk) : Except DatabaseFailure Opened × Disk :=
  let made := disk.put path {}
  if location.isFixed then (.error .readOnly, made)
  else if !hasJournalRoom path then (.error .noJournal, made)
  else (.ok ⟨some path, {}⟩, made)

/-- What comes of opening a file that is no database. -/
def openOther (location : Location) : OtherFile → DatabaseFailure
  | .text => .otherFile
  | .sink => if location.isReadOnly then .readOnly else .unflushed

/-- Opens the database at a path, or makes one. -/
def openAt (path : Path) (location : Location) (disk : Disk) : Except DatabaseFailure Opened × Disk :=
  match disk.get? path, disk.other? path with
  | some database, _ =>
    (if location.isUnlocked && !location.isFixed then .error .noJournal else .ok ⟨some path, database⟩, disk)
  | none, some other => (.error (openOther location other), disk)
  | none, none =>
    if disk.isDirectory path then
      (.error (if location.access = .readOnly then .unreadable else .noFile), disk)
    else if location.access = .create ∧ disk.isDirectory path.dropLast then disk.create path location
    else (.error .noFile, disk)

/-- **openDatabase** — opens the database of a location. -/
def openDatabase (location : Location) (disk : Disk) : Except DatabaseFailure Opened × Disk :=
  if location.isTransient || location.isElsewhere then
    (if location.isReadOnly then .error .readOnly else .ok ⟨none, {}⟩, disk)
  else
    match disk.resolve? location.file with
    | none => (.error .noFile, disk)
    | some path =>
      if location.modelFile.all fun file => disk.finds file then disk.openAt path location
      else (.error .unreadable, disk)

/-- **keep** — the disk with a database as it is after its use. -/
def keep (opened : Opened) (database : Relational) (disk : Disk) : Disk :=
  match opened.path with
  | none => disk
  | some path => disk.put path database

end Disk

end FeedIndex
