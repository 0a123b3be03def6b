import PortRelease.Command.Run
/-!
# The program

Reads the command line, the environment and the settings file, runs the command, and prints what it prints. The
settings file is the only part of the real disk that is looked at or changed. Processes are neither started nor
signalled from here and no connection is made: the machine that the command runs on has none.

Of the home directory only the variable is asked for. Without it the account's entry is not looked up, and there are
no settings to be found.
-/

open PortRelease

/-- A machine without tools, processes and a network. -/
def bareWorld : World :=
  { tools := [], processes := [], network := [], hosts := [], self := 0, arrivals := [], log := [] }

/-- A disk that has at a path what the real one has there. What cannot be reached is not there. -/
def diskWith (path : String) : IO Disk := do
  let disk := Disk.empty []
  try
    let place ← IO.FS.realPath path
    if ← place.isDir then return (disk.makeDirectories path.toList).2
    let content ← IO.FS.readBinFile path
    return (disk.install path.toList content.toList).2
  catch _ => return disk

/-- Makes the real file at a path what it is on a disk, in one step. -/
def keep (path : String) (before after : Disk) : IO Unit := do
  match before.find path.toList, after.find path.toList with
  | .ok (_, .file old), .ok (_, .file new) => unless old = new do replace new
  | _, .ok (_, .file new) => replace new
  | _, _ => return
where
  /-- Writes a second file, which then takes the name of the first. -/
  replace (content : List UInt8) : IO Unit := do
    let draft := String.ofList (Path.withExtension "json.tmp".toList path.toList)
    if let some parent := Path.parent? path.toList then
      IO.FS.createDirAll (String.ofList parent)
    IO.FS.writeBinFile draft ⟨content.toArray⟩
    IO.FS.rename draft path

/-- The program. -/
def main (arguments : List String) : IO UInt32 := do
  let environment : Environment :=
    ⟨(← IO.getEnv "TEARDOWN_CONFIG").map String.toList, (← IO.getEnv "HOME").map String.toList⟩
  let path := (environment.settingsPath.toOption.map String.ofList).getD ""
  let disk ← diskWith path
  let (printed, machine) := runLine (arguments.map String.toList) environment 0 ⟨bareWorld, disk⟩
  keep path disk machine.disk
  (← IO.getStderr).putStr printed.stderr
  (← IO.getStdout).putStr printed.stdout
  return UInt32.ofNat printed.exit
