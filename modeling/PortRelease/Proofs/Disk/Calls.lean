import PortRelease.Disk.Calls
import PortRelease.Proofs.Disk.Growth
/-!
# What calls leave of a disk

A call that fails leaves the disk as it was, unless it is a write that stops halfway. One that succeeds changes one
place, or two if a file moves from one to the other. None takes a directory away, so the disk has grown. What each call
can do is said once (`openEmpty_cases`, `write_cases`, `sync_cases`, `rename_cases`).

Making a directory with those above it adds directories and nothing else (`Extended`), each where the path or one above
it leads.
-/

namespace PortRelease.Disk

variable {a b c disk : Disk} {place other : Place} {path : Path}

/-! ## Making directories -/

/-- Directories, and nothing else, have been added to a disk, each where a path of some kind leads. -/
structure Extended (kind : Path → Prop) (before after : Disk) : Prop where
  grown : Grown before after
  opened_eq : after.opened = before.opened
  only_directories : ∀ place, after.entryAt? place = before.entryAt? place ∨
    before.entryAt? place = none ∧ after.entryAt? place = some .directory ∧
      ∃ path directory name slash, kind path ∧ after.locate path = .ok (.name directory name slash) ∧
        place = name :: directory

namespace Extended

variable {kind wider : Path → Prop}

theorem refl (kind : Path → Prop) (disk : Disk) : Extended kind disk disk :=
  ⟨.refl disk, rfl, fun _ => .inl rfl⟩

theorem mono (included : ∀ path, kind path → wider path) (extended : Extended kind a b) : Extended wider a b where
  grown := extended.grown
  opened_eq := extended.opened_eq
  only_directories place := by
    obtain same | ⟨vacant, directory, path, above, name, slash, mem, led, rfl⟩ := extended.only_directories place
    · exact .inl same
    · exact .inr ⟨vacant, directory, path, above, name, slash, included path mem, led, rfl⟩

theorem trans (first : Extended kind a b) (second : Extended kind b c) : Extended kind a c where
  grown := first.grown.trans second.grown
  opened_eq := second.opened_eq.trans first.opened_eq
  only_directories place := by
    obtain same | ⟨vacant, directory, rest⟩ := second.only_directories place
    · obtain same' | ⟨vacant, directory, path, above, name, slash, mem, led, rfl⟩ := first.only_directories place
      · exact .inl (same.trans same')
      · exact .inr ⟨vacant, same.trans directory, path, above, name, slash, mem,
          locate_of_grown second.grown led, rfl⟩
    · obtain same' | ⟨-, made, -⟩ := first.only_directories place
      · exact .inr ⟨same'.symm.trans vacant, directory, rest⟩
      · rw [made] at vacant
        cases vacant

end Extended

/-- Two disks have the same files, with the same content. -/
def SameFiles (before after : Disk) : Prop :=
  ∀ place content, after.entryAt? place = some (.file content) ↔ before.entryAt? place = some (.file content)

/-- A directory is no file. -/
theorem Extended.sameFiles {kind : Path → Prop} (extended : Extended kind a b) : SameFiles a b := by
  intro place content
  obtain same | ⟨vacant, directory, -⟩ := extended.only_directories place
  · rw [same]
  · simp [vacant, directory]

theorem extended_makeDirectory (path : Path) (disk : Disk) :
    Extended (· = path) disk (disk.makeDirectory path).2 := by
  unfold makeDirectory
  split
  next => exact .refl _ disk
  next => exact .refl _ disk
  next directory name slash led =>
    split
    next => exact .refl _ disk
    next =>
      split
      next => exact .refl _ disk
      next taken =>
        have vacant : disk.entryAt? (name :: directory) = none := by simpa using taken
        have grown : Grown disk (disk.put (name :: directory) .directory) := by
          refine .of_ne rfl rfl ?_ fun _ elsewhere => entryAt?_put_ne elsewhere ..
          rw [vacant]
          exact nofun
        refine ⟨grown, rfl, fun place => ?_⟩
        by_cases here : place = name :: directory
        · subst here
          exact .inr ⟨vacant, entryAt?_put_self (List.cons_ne_nil _ _) _ _, path, directory, name, slash, rfl,
            locate_of_grown grown led, rfl⟩
        · exact .inl (entryAt?_put_ne here ..)

theorem extended_ensureDirectory (path : Path) (disk : Disk) :
    Extended (· = path) disk (disk.ensureDirectory path).2 := by
  have made := extended_makeDirectory path disk
  unfold ensureDirectory
  split
  next after call =>
    rw [call] at made
    exact made
  next fault after call =>
    rw [call] at made
    split
    next => exact made
    next => exact made

/-- **What is made with a directory is nothing but that directory and some above it.** -/
theorem extended_makeDirectories (path : Path) (disk : Disk) :
    Extended (fun other => other = path ∨ Path.Above other path) disk (disk.makeDirectories path).2 := by
  have alone (path : Path) (disk : Disk) :
      Extended (fun other => other = path ∨ Path.Above other path) disk (disk.ensureDirectory path).2 :=
    (extended_ensureDirectory path disk).mono fun _ => .inl
  have upward {path parent : Path} (above : path.parent? = some parent) (other : Path)
      (mem : other = parent ∨ Path.Above other parent) : other = path ∨ Path.Above other path := by
    obtain rfl | further := mem
    · exact .inr (.parent above)
    · exact .inr (.further above further)
  fun_induction makeDirectories path disk with
  | case1 path disk => exact .refl _ disk
  | case2 path disk some_char between call =>
    have first := alone path disk
    rw [call] at first
    exact first
  | case3 path disk some_char fault between call =>
    have first := alone path disk
    rw [call] at first
    exact first
  | case4 path disk some_char between parent above made parents call ih =>
    have first := alone path disk
    rw [call] at first
    rw [parents] at ih
    exact (first.trans (ih.mono (upward above))).trans (alone path made)
  | case5 path disk some_char between parent above fault made parents call ih =>
    have first := alone path disk
    rw [call] at first
    rw [parents] at ih
    exact first.trans (ih.mono (upward above))
  | case6 path disk some_char fault between call =>
    have first := alone path disk
    rw [call] at first
    exact first

/-! ## Writing a file -/

/-- **A path leads to a place for a file**: its last thing is a name that can be looked up, and there is no directory of
that name. -/
def Accepts (disk : Disk) (path : Path) (place : Place) : Prop :=
  ∃ directory name, disk.locate path = .ok (.name directory name false) ∧ fits name = true ∧
    place = name :: directory ∧ disk.entryAt? place ≠ some .directory

namespace Accepts

theorem ne_nil (accepts : Accepts disk path place) : place ≠ [] := by
  obtain ⟨directory, name, -, -, rfl, -⟩ := accepts
  exact List.cons_ne_nil name directory

theorem no_directory (accepts : Accepts disk path place) : disk.entryAt? place ≠ some .directory := by
  obtain ⟨directory, name, -, -, -, free⟩ := accepts
  exact free

/-- A path leads to one place at most, also on a disk that has grown. -/
theorem unique (grown : Grown a b) (first : Accepts a path place) (second : Accepts b path other) : other = place := by
  obtain ⟨directory, name, led, -, rfl, -⟩ := first
  obtain ⟨directory', name', led', -, rfl, -⟩ := second
  rw [locate_of_grown grown led] at led'
  cases led'
  rfl

/-- What was put where a path leads is found there. -/
theorem find_of_grown (grown : Grown a b) (accepts : Accepts a path place) {content : List UInt8}
    (there : b.entryAt? place = some (.file content)) : b.find path = .ok (place, .file content) := by
  obtain ⟨directory, name, led, fitting, rfl, -⟩ := accepts
  simp [find, locate_of_grown grown led, fitting, there]

end Accepts

/-- The disk after a file was opened for writing and `content` written to it. -/
def drafted (place : Place) (content : List UInt8) (disk : Disk) : Disk :=
  { disk.put place (.file content) with opened := disk.opened ++ [some place] }

theorem entryAt?_drafted_self (some_name : place ≠ []) (content : List UInt8) (disk : Disk) :
    (disk.drafted place content).entryAt? place = some (.file content) := by
  rw [← entryAt?_put_self some_name (.file content) disk]
  rfl

theorem entryAt?_drafted_ne (elsewhere : other ≠ place) (content : List UInt8) (disk : Disk) :
    (disk.drafted place content).entryAt? other = disk.entryAt? other := by
  rw [← entryAt?_put_ne elsewhere (.file content) disk]
  rfl

theorem grown_drafted (no_directory : disk.entryAt? place ≠ some .directory) (content : List UInt8) :
    Grown disk (disk.drafted place content) :=
  .of_ne rfl rfl no_directory fun _ elsewhere => entryAt?_drafted_ne elsewhere content disk

theorem placeOf?_drafted (place : Place) (content : List UInt8) (disk : Disk) :
    (disk.drafted place content).placeOf? disk.opened.length = some place := by
  simp [drafted, placeOf?]

@[simp] theorem medium_drafted (place : Place) (content : List UInt8) (disk : Disk) :
    (disk.drafted place content).medium = disk.medium := rfl

theorem overwrite_drafted (some_name : place ≠ []) (content : List UInt8) (disk : Disk) :
    (disk.drafted place []).overwrite disk.opened.length content = disk.drafted place content := by
  rw [overwrite, placeOf?_drafted]
  dsimp only
  rw [entryAt?_drafted_self some_name]
  simp [drafted, put]

/-- **What opening a file for writing can do**: nothing, or an empty file where the path leads. -/
theorem openEmpty_cases (path : Path) (disk : Disk) :
    (∃ fault, disk.openEmpty path = (.error fault, disk)) ∨
      ∃ place, Accepts disk path place ∧ disk.openEmpty path = (.ok disk.opened.length, disk.drafted place []) := by
  fun_cases openEmpty path disk with
  | case6 directory name slash led place no_slash fitting free =>
    obtain rfl : slash = false := by simpa using no_slash
    exact .inr ⟨place, ⟨directory, name, led, by simpa using fitting, rfl, free⟩, rfl⟩
  | _ => exact .inl ⟨_, rfl⟩

/-- **What writing to an open file can do**: as much is written as the medium takes, or all. -/
theorem write_cases (handle : Handle) (octets : List UInt8) (disk : Disk) :
    (∃ taken e, disk.medium.writeFault = some (taken, e) ∧
        disk.write handle octets = (.error (.system e), disk.overwrite handle (octets.take taken))) ∨
      disk.medium.writeFault = none ∧ disk.write handle octets = (.ok (), disk.overwrite handle octets) := by
  unfold write
  cases fault : disk.medium.writeFault with
  | none => exact .inr ⟨rfl, rfl⟩
  | some stop => exact .inl ⟨stop.1, stop.2, rfl, rfl⟩

/-- **What making sure of what was written can do**: nothing, either way. -/
theorem sync_cases (disk : Disk) :
    (∃ e, disk.medium.syncFault = some e ∧ disk.sync = (.error (.system e), disk)) ∨
      disk.medium.syncFault = none ∧ disk.sync = (.ok (), disk) := by
  unfold sync
  cases fault : disk.medium.syncFault with
  | none => exact .inr ⟨rfl, rfl⟩
  | some e => exact .inl ⟨e, rfl, rfl⟩

/-! ## Renaming -/

theorem entryAt?_moveFile_self {source : Place} (some_name : place ≠ []) (content : List UInt8) (disk : Disk) :
    (disk.moveFile source place content).entryAt? place = some (.file content) := by
  rw [← entryAt?_put_self some_name (.file content) (disk.clear source)]
  rfl

theorem entryAt?_moveFile_source {source : Place} (some_name : source ≠ []) (elsewhere : source ≠ place)
    (content : List UInt8) (disk : Disk) : (disk.moveFile source place content).entryAt? source = none := by
  rw [← entryAt?_clear_self some_name disk, ← entryAt?_put_ne elsewhere (.file content) (disk.clear source)]
  rfl

theorem entryAt?_moveFile_ne {source : Place} (elsewhere : other ≠ source) (elsewhere' : other ≠ place)
    (content : List UInt8) (disk : Disk) :
    (disk.moveFile source place content).entryAt? other = disk.entryAt? other := by
  rw [← entryAt?_clear_ne elsewhere disk, ← entryAt?_put_ne elsewhere' (.file content) (disk.clear source)]
  rfl

theorem grown_moveFile {source : Place} (no_directory : disk.entryAt? source ≠ some .directory)
    (no_directory' : disk.entryAt? place ≠ some .directory) (content : List UInt8) :
    Grown disk (disk.moveFile source place content) where
  here_eq := rfl
  medium_eq := rfl
  kept other directory := by
    rw [entryAt?_moveFile_ne]
    · exact directory
    · rintro rfl
      exact no_directory directory
    · rintro rfl
      exact no_directory' directory

/-- **What renaming can do**: nothing, or the file where one path leads takes the place where the other leads. -/
theorem rename_cases (source path : Path) (disk : Disk) :
    (∃ fault, disk.rename source path = (.error fault, disk)) ∨
      ∃ place target content, Accepts disk source place ∧ disk.entryAt? place = some (.file content) ∧
        Accepts disk path target ∧ disk.rename source path = (.ok (), disk.moveFile place target content) := by
  fun_cases rename source path disk with
  | case11 directory name slash directory' name' slash' led' led fitting content there fitting' no_slash free =>
    obtain ⟨rfl, rfl⟩ : slash = false ∧ slash' = false := by simpa using no_slash
    have no_directory : disk.entryAt? (name :: directory) ≠ some .directory := by
      rw [there]
      exact nofun
    exact .inr ⟨name :: directory, name' :: directory', content,
      ⟨directory, name, led, by simpa using fitting, rfl, no_directory⟩, there,
      ⟨directory', name', led', by simpa using fitting', rfl, free⟩, rfl⟩
  | _ => exact .inl ⟨_, rfl⟩

end PortRelease.Disk
