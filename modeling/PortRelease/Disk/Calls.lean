import PortRelease.Disk.Basic
/-!
# What can be done with a disk

Reading a file, making a directory with or without those above it, opening a file for writing, writing, making sure
of what was written, and renaming. Each is one indivisible step and leaves the disk as it was when it fails, but for
two: making a directory with those above it is made of several steps, and keeps what it has made; and a write that
stops keeps what it has written.

A file that is opened for writing is empty from then on. What is written goes to its beginning, and what the
file had further on stays: two who have the same file open write over each other.
-/

namespace PortRelease.Disk

/-- Whether a path leads to anything. -/
def present (disk : Disk) (path : Path) : Bool :=
  match disk.find path with
  | .ok _ => true
  | .error _ => false

/-- Whether a path leads to a directory. -/
def hasDirectory (disk : Disk) (path : Path) : Bool :=
  match disk.find path with
  | .ok (_, .directory) => true
  | _ => false

/-- **Reads a file**, which must be a text. -/
def read (disk : Disk) (path : Path) : Except IoFault Text :=
  match disk.find path with
  | .error fault => .error fault
  | .ok (_, .directory) => .error (.system .isDirectory)
  | .ok (_, .file content) =>
    match Utf8.decode content with
    | .ok text => .ok text
    | .error _ => .error .notText

/-! ## Directories -/

/-- Makes a directory. -/
def makeDirectory (path : Path) (disk : Disk) : DiskResult Unit :=
  match disk.locate path with
  | .error fault => (.error fault, disk)
  | .ok (.directory _) => (.error (.system .alreadyExists), disk)
  | .ok (.name directory name _) =>
    if !fits name then (.error (.system .nameTooLong), disk)
    else if (disk.entryAt? (name :: directory)).isSome then (.error (.system .alreadyExists), disk)
    else (.ok (), disk.put (name :: directory) .directory)

/-- Makes a directory unless it is there. -/
def ensureDirectory (path : Path) (disk : Disk) : DiskResult Unit :=
  match makeDirectory path disk with
  | (.ok (), disk) => (.ok (), disk)
  | (.error fault, disk) => if disk.hasDirectory path then (.ok (), disk) else (.error fault, disk)

/-- **Makes a directory and those above it**, as far as they are not there. -/
def makeDirectories (path : Path) (disk : Disk) : DiskResult Unit :=
  if path.isEmpty then (.ok (), disk)
  else
    match ensureDirectory path disk with
    | (.ok (), disk) => (.ok (), disk)
    | (.error fault, disk) =>
      match _h : path.parent? with
      | none => (.error fault, disk)
      | some parent =>
        if fault = .system .noEntry then
          match makeDirectories parent disk with
          | (.ok (), disk) => ensureDirectory path disk
          | (.error fault, disk) => (.error fault, disk)
        else (.error fault, disk)
termination_by path.length
decreasing_by exact Path.length_parent?_lt _h

/-! ## Files -/

/-- **Opens a file for writing.** It is made if it is not there, and emptied if it is. -/
def openEmpty (path : Path) (disk : Disk) : DiskResult Handle :=
  match disk.locate path with
  | .error fault => (.error fault, disk)
  | .ok (.directory _) => (.error (.system .isDirectory), disk)
  | .ok (.name directory name slash) =>
    let place := name :: directory
    if slash then (.error (.system .isDirectory), disk)
    else if !fits name then (.error (.system .nameTooLong), disk)
    else if disk.entryAt? place = some .directory then (.error (.system .isDirectory), disk)
    else (.ok disk.opened.length, { disk.put place (.file []) with opened := disk.opened ++ [some place] })

/-- Where an open file is now. -/
def placeOf? (disk : Disk) (handle : Handle) : Option Place := (disk.opened[handle]?).join

/-- The disk after octets have taken the beginning of an open file. A file that is nowhere any more can be written to
as well, and nobody can tell. -/
def overwrite (handle : Handle) (octets : List UInt8) (disk : Disk) : Disk :=
  match disk.placeOf? handle with
  | none => disk
  | some place =>
    match disk.entryAt? place with
    | some (.file old) => disk.put place (.file (octets ++ old.drop octets.length))
    | _ => disk

/-- **Writes to the beginning of an open file**, until all is written or the medium stops taking it. -/
def write (handle : Handle) (octets : List UInt8) (disk : Disk) : DiskResult Unit :=
  match disk.medium.writeFault with
  | none => (.ok (), disk.overwrite handle octets)
  | some (taken, e) => (.error (.system e), disk.overwrite handle (octets.take taken))

/-- **Makes sure of what was written**: once this has succeeded the medium keeps it. -/
def sync (disk : Disk) : DiskResult Unit :=
  match disk.medium.syncFault with
  | none => (.ok (), disk)
  | some e => (.error (.system e), disk)

/-- The disk after the file at `source` has taken the place `target`. -/
def moveFile (source target : Place) (content : List UInt8) (disk : Disk) : Disk :=
  let moved := (disk.clear source).put target (.file content)
  { moved with opened := disk.opened.map fun place =>
      if place = some source then some target else if place = some target then none else place }

/-- **Renames a file**, to a name that may be another file's, which is then gone. -/
def rename (source target : Path) (disk : Disk) : DiskResult Unit :=
  match disk.locate source, disk.locate target with
  | .error fault, _ => (.error fault, disk)
  | _, .error fault => (.error fault, disk)
  | .ok (.directory _), _ => (.error (.system .busy), disk)
  | _, .ok (.directory _) => (.error (.system .busy), disk)
  | .ok (.name oldDirectory oldName oldSlash), .ok (.name newDirectory newName newSlash) =>
    if !fits oldName then (.error (.system .nameTooLong), disk)
    else
      match disk.entryAt? (oldName :: oldDirectory) with
      | none => (.error (.system .noEntry), disk)
      | some .directory => (.error (.system .isDirectory), disk)
      | some (.file content) =>
        if !fits newName then (.error (.system .nameTooLong), disk)
        else if oldSlash || newSlash then (.error (.system .notDirectory), disk)
        else if disk.entryAt? (newName :: newDirectory) = some .directory then
          (.error (.system .isDirectory), disk)
        else (.ok (), disk.moveFile (oldName :: oldDirectory) (newName :: newDirectory) content)

/-- **Puts a file at a path**, with the directories above it. -/
def install (path : Path) (content : List UInt8) (disk : Disk) : DiskResult Unit :=
  match makeDirectories ((Path.parent? path).getD []) disk with
  | (.error fault, disk) => (.error fault, disk)
  | (.ok (), disk) =>
    match openEmpty path disk with
    | (.error fault, disk) => (.error fault, disk)
    | (.ok handle, disk) => disk.write handle content

end PortRelease.Disk
