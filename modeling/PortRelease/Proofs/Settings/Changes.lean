import PortRelease.Proofs.Settings.Saving
/-!
# What a save may change

However far a save comes, the only places that are not as they were are those to which the path or its draft leads, and
those where a directory above the path was missing (`changes_of_progress`).
-/

namespace PortRelease

/-- A path leads to a place. -/
def Disk.LeadsTo (disk : Disk) (path : Path) (place : Place) : Prop :=
  ∃ directory name slash, disk.locate path = .ok (.name directory name slash) ∧ place = name :: directory

variable {a b initial made disk after : Disk} {path : Path} {place other : Place} {saving : Saving} {stage : SaveStage}
  {settings : Settings}

theorem Disk.LeadsTo.of_grown (grown : Grown a b) (led : a.LeadsTo path place) : b.LeadsTo path place := by
  obtain ⟨directory, name, slash, located, here⟩ := led
  exact ⟨directory, name, slash, locate_of_grown grown located, here⟩

theorem Disk.Accepts.leadsTo (accepts : Accepts disk path place) : disk.LeadsTo path place := by
  obtain ⟨directory, name, led, -, here, -⟩ := accepts
  exact ⟨directory, name, false, led, here⟩

namespace Saving

/-- **What saving to a path may change at a place**: the file, its draft, and a directory above them that was missing. -/
inductive MayChange (path : Path) (before after : Disk) (place : Place) : Prop
  | file (led : after.LeadsTo path place)
  | draft (led : after.LeadsTo (Path.withExtension "json.tmp".toList path) place)
  | directory {above : Path} (upward : Path.Above above path) (led : after.LeadsTo above place)
    (missing : before.entryAt? place = none) (made : after.entryAt? place = some .directory)

/-- The entries of a disk after which some directories may have been made, where nothing else has changed since. -/
theorem changes_of_extended (extended : Disk.Extended (Path.Above · path) initial made) (grown : Disk.Grown made after)
    (same : after.entryAt? place = made.entryAt? place) :
    after.entryAt? place = initial.entryAt? place ∨ MayChange path initial after place := by
  obtain unchanged | ⟨missing, directory, above, upward, name, slash, is_above, led, here⟩ :=
    extended.only_directories place
  · exact .inl (same.trans unchanged)
  · have leads : made.LeadsTo above place := ⟨upward, name, slash, led, here⟩
    exact .inr (.directory is_above (leads.of_grown grown) missing (same.trans directory))

/-- With a draft, whatever it holds. -/
theorem changes_of_drafted (ready : Ready saving initial made place) (content : List UInt8) (other : Place) :
    (made.drafted place content).entryAt? other = initial.entryAt? other ∨
      MayChange saving.path initial (made.drafted place content) other := by
  by_cases at_draft : other = place
  · rw [at_draft]
    exact .inr (.draft (ready.accepts_drafted content).leadsTo)
  · exact changes_of_extended ready.extended (ready.grown content) (Disk.entryAt?_drafted_ne at_draft ..)

/-- **However far a save has come**, this is all that it has changed. -/
theorem changes_of_progress (progress : Progress saving initial stage disk) (other : Place) :
    disk.entryAt? other = initial.entryAt? other ∨ MayChange saving.path initial disk other := by
  cases progress with
  | begun => exact .inl rfl
  | prepared call | unprepared call | uncreated call => exact changes_of_extended (extended_of_call call) (.refl disk) rfl
  | created ready | unfilled ready | filled ready | unflushed ready | flushed ready | refused ready =>
    exact changes_of_drafted ready _ other
  | @replaced made place target ready sound accepts =>
    have draft := ready.accepts_drafted saving.content
    have moved := Disk.grown_moveFile draft.no_directory accepts.no_directory saving.content
    by_cases at_file : other = target
    · rw [at_file]
      exact .inr (.file (accepts.leadsTo.of_grown moved))
    · by_cases at_draft : other = place
      · rw [at_draft]
        exact .inr (.draft (draft.leadsTo.of_grown moved))
      · refine changes_of_extended ready.extended ((ready.grown saving.content).trans moved) ?_
        rw [Disk.entryAt?_moveFile_ne at_draft at_file, Disk.entryAt?_drafted_ne at_draft]

end Saving

/-- **This is all that saving settings changes**, whether it succeeds or not. -/
theorem Settings.changes_of_save (settings : Settings) (path : Path) (disk : Disk) (place : Place) :
    (settings.save path disk).2.entryAt? place = disk.entryAt? place ∨
      Saving.MayChange path disk (settings.save path disk).2 place := by
  by_cases valid : settings.Valid
  · rw [save_of_valid valid]
    exact Saving.changes_of_progress (Saving.progress_of_run (Prod.ext rfl rfl)) place
  · obtain ⟨failure, refused⟩ := save_of_invalid valid path disk
    rw [refused]
    exact .inl rfl

end PortRelease
