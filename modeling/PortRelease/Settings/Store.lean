import PortRelease.Disk.Calls
import PortRelease.Json.Printer
import PortRelease.Json.Reader
import PortRelease.Settings.Json
/-!
# Where settings are kept

Settings are kept in a JSON file. A file that is not there means the defaults; one that is there must hold valid
settings.

**Saving replaces the file in one step.** The text is written to a second file beside it, which then takes its
name, so whoever reads meanwhile finds the old file or the new one. The second file always has the same name.
A save is a sequence of five calls, and `Saving.step` makes the next one; what another save does between two
calls is thereby part of what can be said here. Each of the calls can fail, and the first that does ends the save.
-/

namespace PortRelease

/-- What the system says about where the settings are. -/
structure Environment where
  /-- The file, if a variable of the environment names it outright. -/
  settingsFile : Option Path
  /-- The home directory, however the system tells it: by a variable of the environment, or where that is missing or
  empty by the entry of the account. -/
  home : Option Path
  deriving DecidableEq

namespace Environment

/-- The file below the home directory. -/
def homeFile : Path := ".teardown/config.json".toList

/-- **The path of the settings file.** An empty home directory is none. -/
def settingsPath (environment : Environment) : Except Failure Path :=
  match environment.settingsFile, environment.home with
  | some path, _ => .ok path
  | none, some (c :: rest) => .ok (Path.under (c :: rest) homeFile)
  | none, _ => .error (.settings "Could not determine home directory")

end Environment

namespace Settings

/-! ## Loading -/

/-- Reads settings from a text. Why a text gives none is left out of the failure: an ellipsis stands for what the
reader of JSON would say. -/
def parse (text : Text) : Except Failure Settings :=
  match (Json.read? text).bind ofJson? with
  | some settings => .ok settings
  | none => .error (.settings "Failed to parse config: ...")

/-- Reads settings from a text, which must be valid. -/
def parseValid (text : Text) : Except Failure Settings := do
  let settings ← parse text
  settings.validate
  return settings

/-- **Loads the settings.** -/
def load (path : Path) (disk : Disk) : Except Failure Settings :=
  if disk.present path then
    match disk.read path with
    | .ok text => parseValid text
    | .error fault => .error (.settings s!"Failed to read config: {fault.message}")
  else .ok default

/-! ## Saving -/

/-- The text of a settings file. -/
def fileText (s : Settings) : Text := s.toJson.indented

/-- The octets of a settings file. -/
def fileContent (s : Settings) : List UInt8 := Utf8.encode s.fileText

end Settings

/-- The call that a save makes next. -/
inductive SaveStage where
  | prepare
  | create
  | fill (handle : Handle)
  | flush
  | replace
  /-- None: the save has ended. -/
  | finished (result : Except Failure Unit)

/-- What is saved, and where. -/
structure Saving where
  path : Path
  content : List UInt8
  deriving DecidableEq

namespace Saving

/-- The file that is written first. -/
def draft (saving : Saving) : Path := Path.withExtension "json.tmp".toList saving.path

/-- The failure of a save that one of its calls has ended. -/
def callFailure (call : String) (fault : IoFault) : Failure := .settings s!"Failed to {call}: {fault.message}"

/-- Goes on after a call, or ends because it failed. -/
def proceed {α : Type} (call : String) (onward : α → SaveStage) : DiskResult α → SaveStage × Disk
  | (.ok a, disk) => (onward a, disk)
  | (.error fault, disk) => (.finished (.error (callFailure call fault)), disk)

/-- Makes the directories above the file. -/
def makeDirectories (saving : Saving) (disk : Disk) : DiskResult Unit :=
  match saving.path.parent? with
  | some parent => disk.makeDirectories parent
  | none => (.ok (), disk)

/-- **Makes the next call.** -/
def step (saving : Saving) : SaveStage → Disk → SaveStage × Disk
  | .prepare, disk => proceed "create config directory" (fun _ => .create) (saving.makeDirectories disk)
  | .create, disk => proceed "create temp config file" .fill (disk.openEmpty saving.draft)
  | .fill handle, disk => proceed "write config" (fun _ => .flush) (disk.write handle saving.content)
  | .flush, disk => proceed "sync config" (fun _ => .replace) disk.sync
  | .replace, disk =>
    proceed "rename config file" (fun _ => .finished (.ok ())) (disk.rename saving.draft saving.path)
  | .finished result, disk => (.finished result, disk)

/-- How many calls a save makes at most from here on. -/
def remaining : SaveStage → Nat
  | .prepare => 5
  | .create => 4
  | .fill _ => 3
  | .flush => 2
  | .replace => 1
  | .finished _ => 0

theorem remaining_proceed_le {α : Type} {onward : α → SaveStage} {k : Nat}
    (h : ∀ a, remaining (onward a) ≤ k) (call : String) (result : DiskResult α) :
    remaining (proceed call onward result).1 ≤ k := by
  obtain ⟨result, disk⟩ := result
  cases result with
  | ok a => exact h a
  | error fault => exact Nat.zero_le k

theorem remaining_step (saving : Saving) (stage : SaveStage) (disk : Disk) :
    remaining (saving.step stage disk).1 ≤ remaining stage - 1 := by
  cases stage with
  | prepare =>
    rw [step]
    exact remaining_proceed_le (fun _ => Nat.le_refl 4) ..
  | create =>
    rw [step]
    exact remaining_proceed_le (fun _ => Nat.le_refl 3) ..
  | fill handle =>
    rw [step]
    exact remaining_proceed_le (fun _ => Nat.le_refl 2) ..
  | flush =>
    rw [step]
    exact remaining_proceed_le (fun _ => Nat.le_refl 1) ..
  | replace =>
    rw [step]
    exact remaining_proceed_le (fun _ => Nat.le_refl 0) ..
  | finished result => exact Nat.le_refl 0

/-- The save after its first `n` calls. -/
def after (saving : Saving) (disk : Disk) : Nat → SaveStage × Disk
  | 0 => (.prepare, disk)
  | n + 1 =>
    let (stage, disk) := saving.after disk n
    saving.step stage disk

theorem remaining_after (saving : Saving) (disk : Disk) (n : Nat) :
    remaining (saving.after disk n).1 ≤ 5 - n := by
  induction n with
  | zero => exact Nat.le_refl 5
  | succ n ih =>
    have := remaining_step saving (saving.after disk n).1 (saving.after disk n).2
    simp only [after]
    omega

/-- Five calls are all there can be. -/
theorem finished_after_five (saving : Saving) (disk : Disk) :
    ∃ result, (saving.after disk 5).1 = .finished result := by
  have none_left := remaining_after saving disk 5
  cases h : (saving.after disk 5).1 with
  | finished result => exact ⟨result, rfl⟩
  | _ => simp [h, remaining] at none_left

/-- What a stage says about the result; `none` while calls are to come. -/
def result? : SaveStage → Option (Except Failure Unit)
  | .finished result => some result
  | _ => none

theorem isSome_result?_after_five (saving : Saving) (disk : Disk) :
    (result? (saving.after disk 5).1).isSome := by
  obtain ⟨result, h⟩ := finished_after_five saving disk
  simp [h, result?]

/-- **Makes all calls.** -/
def run (saving : Saving) (disk : Disk) : Except Failure Unit × Disk :=
  ((result? (saving.after disk 5).1).get (isSome_result?_after_five saving disk), (saving.after disk 5).2)

end Saving

/-- **Saves valid settings.** -/
def Settings.save (settings : Settings) (path : Path) (disk : Disk) : Except Failure Unit × Disk :=
  match settings.validate with
  | .ok () => Saving.run ⟨path, settings.fileContent⟩ disk
  | .error failure => (.error failure, disk)

end PortRelease
