import PortRelease.Disk.Path
import PortRelease.Errno.Basic
import PortRelease.Text.Utf8
/-!
# Disks

A disk says for each place what is there: a directory, a file with its content, or nothing. A place is the list
of the names that lead to it, the innermost first, so the root is the empty list. The root is always a
directory.

A file that was opened for writing stays open, and the disk keeps where each open file is now: a file that is
renamed stays open under its new name, and one whose place is taken by another file is nowhere any more.

A path is followed from the root or from the current directory, one name after another; `Disk.locate` is the
one place where paths become places.

What is at a place decides which calls can be made there, but not whether there is room for what is written. That
is up to the medium the disk lies on (`Medium`), and stays as it is whatever is done to the disk.
-/

namespace PortRelease

/-- The names that lead to an entry, the innermost first. -/
abbrev Place := List Text

/-- What can be at a place. -/
inductive Entry where
  | directory
  | file (content : List UInt8)
  deriving DecidableEq

/-- The number of an open file, in the order of opening. -/
abbrev Handle := Nat

/-- How a medium takes what is written: it may be full, or broken. -/
structure Medium where
  /-- After how many octets a write stops, and with which error, if it does. -/
  writeFault : Option (Nat × Errno)
  /-- The error with which the medium cannot keep what was written, if it cannot. -/
  syncFault : Option Errno
  deriving DecidableEq

/-- A medium that takes everything. -/
def Medium.sound : Medium := ⟨none, none⟩

theorem Medium.eq_sound {medium : Medium} (writes : medium.writeFault = none) (keeps : medium.syncFault = none) :
    medium = .sound := by
  obtain ⟨writeFault, syncFault⟩ := medium
  cases writes
  cases keeps
  rfl

/-- A disk. -/
structure Disk where
  entries : List (Place × Entry)
  /-- For each open file where it is now, if it is anywhere. -/
  opened : List (Option Place)
  /-- The current directory. -/
  here : Place
  /-- What the disk lies on. -/
  medium : Medium

/-- Where a path leads. -/
inductive Target where
  /-- To a directory that the path does not name: it ends in dots, or at the root. -/
  | directory (place : Place)
  /-- To a name in a directory; `slash` if the path goes on with a slash. -/
  | name (directory : Place) (name : Text) (slash : Bool)
  deriving DecidableEq

/-- What an operation on a disk gives. -/
abbrev DiskResult (α : Type) := Except IoFault α × Disk

namespace Disk

/-! ## Entries -/

/-- What is at a place. -/
def entryAt? (disk : Disk) (place : Place) : Option Entry :=
  if place = [] then some .directory else disk.entries.lookup place

/-- The disk with an entry at a place, instead of what was there. -/
def put (place : Place) (entry : Entry) (disk : Disk) : Disk :=
  { disk with entries := (place, entry) :: disk.entries.filter fun other => other.1 != place }

/-- The disk with nothing at a place. -/
def clear (place : Place) (disk : Disk) : Disk :=
  { disk with entries := disk.entries.filter fun other => other.1 != place }

/-- What is below a directory: for each entry its path from there, and the content if it is a file. -/
def below (directory : Place) (disk : Disk) : List (Path × Option (List UInt8)) :=
  disk.entries.filterMap fun (place, entry) =>
    if directory.isSuffixOf place && directory.length < place.length then
      let path := Text.join ['/'] (place.take (place.length - directory.length)).reverse
      match entry with
      | .directory => some (path ++ ['/'], none)
      | .file content => some (path, some content)
    else none

/-- A place and those above it, without the root. -/
def upward : Place → List Place
  | [] => []
  | name :: above => (name :: above) :: upward above

/-- A disk with nothing but the current directory on it, on a sound medium. -/
def empty (here : Place) : Disk := ⟨(upward here).map (·, .directory), [], here, .sound⟩

/-! ## Following paths -/

/-- The greatest number of octets in a name. -/
def nameLimit : Nat := 255

/-- The number of octets that a path must stay below. -/
def pathLimit : Nat := 4096

/-- Whether a name can be looked up. -/
def fits (name : Text) : Bool := (Utf8.encode name).length ≤ nameLimit

/-- Goes from a directory on to one that it has. -/
def enter (disk : Disk) (place : Place) (name : Text) : Except Errno Place :=
  if name = Path.above then .ok place.tail
  else if !fits name then .error .nameTooLong
  else
    match disk.entryAt? (name :: place) with
    | some .directory => .ok (name :: place)
    | some (.file _) => .error .notDirectory
    | none => .error .noEntry

/-- Goes on through several directories. -/
def walk (disk : Disk) : Place → List Text → Except Errno Place
  | place, [] => .ok place
  | place, name :: rest =>
    match disk.enter place name with
    | .ok place => disk.walk place rest
    | .error e => .error e

/-- Whether the last thing in a path is a single dot. -/
def endsInDot (path : Path) : Bool := (Text.pieces (· = '/') path).getLast? = some ['.']

/-- Whether a path ends in a slash. -/
def endsInSlash (path : Path) : Bool := path.getLast? = some '/'

/-- Where a path begins. -/
def start (disk : Disk) (path : Path) : Place := if path.isAbsolute then [] else disk.here

/-- Follows a path that the system accepts. -/
def follow (disk : Disk) (path : Path) : Except Errno Target :=
  let names := path.names
  match names.getLast? with
  | none => .ok (.directory (disk.start path))
  | some last =>
    if endsInDot path || last = Path.above then
      (disk.walk (disk.start path) names).map .directory
    else
      (disk.walk (disk.start path) names.dropLast).map fun place => .name place last (endsInSlash path)

/-- **Follows a path.** All its names but the last must be directories; whether anything has the last name is
left open. -/
def locate (disk : Disk) (path : Path) : Except IoFault Target :=
  if '\x00' ∈ path then .error .nulInPath
  else if path.isEmpty then .error (.system .noEntry)
  else if pathLimit ≤ (Utf8.encode path).length then .error (.system .nameTooLong)
  else
    match disk.follow path with
    | .ok target => .ok target
    | .error e => .error (.system e)

/-- **Finds what a path leads to.** -/
def find (disk : Disk) (path : Path) : Except IoFault (Place × Entry) :=
  match disk.locate path with
  | .error fault => .error fault
  | .ok (.directory place) => .ok (place, .directory)
  | .ok (.name directory name slash) =>
    if !fits name then .error (.system .nameTooLong)
    else
      match disk.entryAt? (name :: directory) with
      | none => .error (.system .noEntry)
      | some .directory => .ok (name :: directory, .directory)
      | some (.file content) =>
        if slash then .error (.system .notDirectory) else .ok (name :: directory, .file content)

/-! ## What was put is there -/

theorem lookup_filter_ne {place other : Place} (h : other ≠ place) (entries : List (Place × Entry)) :
    (entries.filter fun entry => entry.1 != place).lookup other = entries.lookup other := by
  induction entries with
  | nil => rfl
  | cons entry rest ih =>
    obtain ⟨at_, what⟩ := entry
    by_cases same : at_ = place
    · subst same
      have : (other == at_) = false := by simpa using h
      simp [List.lookup_cons, this, ih]
    · by_cases here : other = at_
      · subst here
        simp [same]
      · have : (other == at_) = false := by simpa using here
        simp [same, List.lookup_cons, this, ih]

theorem entryAt?_put_self {place : Place} (h : place ≠ []) (entry : Entry) (disk : Disk) :
    (disk.put place entry).entryAt? place = some entry := by
  simp [entryAt?, put, h]

theorem entryAt?_put_ne {place other : Place} (h : other ≠ place) (entry : Entry) (disk : Disk) :
    (disk.put place entry).entryAt? other = disk.entryAt? other := by
  have : (other == place) = false := by simpa using h
  simp [entryAt?, put, List.lookup_cons, this, lookup_filter_ne h]

theorem entryAt?_clear_ne {place other : Place} (h : other ≠ place) (disk : Disk) :
    (disk.clear place).entryAt? other = disk.entryAt? other := by
  simp [entryAt?, clear, lookup_filter_ne h]

end Disk

end PortRelease
