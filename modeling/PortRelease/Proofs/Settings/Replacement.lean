import PortRelease.Proofs.Settings.Saving
/-!
# Saving replaces a file at once

For a path without two dots the place of the file is spelled by the path, so it can be watched from the first call to the
last. What is added on the way is above it (`suffix_of_above`), and the draft is another file of the same directory
(`Ready.beside`). So what is at the place stays as it was until the draft takes it, and is the whole new file from then on
(`whole_of_progress`); and in the end nothing else has changed but for directories above the file (`Replaced`).
-/

namespace PortRelease

namespace Saving

variable {saving : Saving} {initial made disk after : Disk} {stage : SaveStage} {place : Place}

/-! ## Places on the way -/

/-- A directory above a path is above the place that the path spells. -/
theorem suffix_of_above {path other : Path} (no_ascent : Path.above ∉ path.names) (upward : Path.Above other path)
    {directory : Place} {name : Text} {slash : Bool} (led : disk.locate other = .ok (.name directory name slash)) :
    name :: directory <:+ (disk.spelledPlace path).tail := by
  obtain ⟨front, absolute⟩ := Path.names_above upward
  have no_ascent' : Path.above ∉ other.names :=
    fun mem => no_ascent (List.dropLast_subset _ (front.subset mem))
  rw [Disk.place_of_locate no_ascent' led]
  have some_name : path.names ≠ [] := by
    intro none
    have last := (Disk.walk_of_locate led).1
    rw [none] at front
    rw [List.prefix_nil.mp front] at last
    cases last
  have same_start : disk.start other = disk.start path := by rw [Disk.start, Disk.start, absolute]
  have tail : (disk.spelledPlace path).tail = path.names.dropLast.reverse ++ disk.start path := by
    rw [Disk.spelledPlace, List.tail_append_of_ne_nil (by simpa using some_name), List.tail_reverse]
  obtain ⟨rest, split⟩ := front
  refine ⟨rest.reverse, ?_⟩
  rw [tail, ← split, Disk.spelledPlace, same_start]
  simp

theorem entryAt?_of_extended (no_ascent : Path.above ∉ saving.path.names)
    (extended : Disk.Extended (Path.Above · saving.path) initial made) (other : Place) :
    made.entryAt? other = initial.entryAt? other ∨
      initial.entryAt? other = none ∧ made.entryAt? other = some .directory ∧
        other <:+ (initial.spelledPlace saving.path).tail := by
  obtain same | ⟨vacant, directory, path, above, name, slash, upward, led, rfl⟩ := extended.only_directories other
  · exact .inl same
  · have suffix := suffix_of_above no_ascent upward led
    rw [Disk.spelledPlace_of_grown extended.grown] at suffix
    exact .inr ⟨vacant, directory, suffix⟩

/-- Directories above the file do not change what is at its place. -/
theorem entryAt?_spelledPlace (no_ascent : Path.above ∉ saving.path.names)
    (extended : Disk.Extended (Path.Above · saving.path) initial made) :
    made.entryAt? (initial.spelledPlace saving.path) = initial.entryAt? (initial.spelledPlace saving.path) := by
  obtain same | ⟨vacant, -, suffix⟩ := entryAt?_of_extended no_ascent extended (initial.spelledPlace saving.path)
  · exact same
  · -- Nothing but the root is above itself, and the root is not vacant.
    have none : initial.spelledPlace saving.path = [] := by
      have shorter := suffix.length_le
      rw [List.length_tail] at shorter
      exact List.length_eq_zero_iff.mp (by omega)
    rw [none] at vacant
    cases vacant

/-- **A draft that could be made is not the file**: it is in the same directory under another name. -/
theorem Ready.beside (ready : Ready saving initial made place) (no_ascent : Path.above ∉ saving.path.names) :
    place = initial.spelledPlace saving.draft ∧ place ≠ initial.spelledPlace saving.path := by
  obtain ⟨directory, name, led, -, rfl, -⟩ := ready.accepts
  obtain ⟨ends, some_name, -⟩ := Disk.walk_of_locate led
  have beside := Path.names_withExtension (by decide : '.' ∈ "json.tmp".toList) (by decide) saving.path
  obtain ⟨front, last, other, names, names', differs, ascent, -⟩ | none | ascent := beside
  · change saving.draft.names = front ++ [other] at names'
    have no_ascent' : Path.above ∉ saving.draft.names := by
      rw [names, List.mem_append, not_or] at no_ascent
      rw [names', List.mem_append, not_or, List.mem_singleton]
      exact ⟨no_ascent.1, ascent.symm⟩
    have here := Disk.place_of_locate no_ascent' led
    rw [Disk.spelledPlace_of_grown ready.extended.grown] at here
    refine ⟨here, ?_⟩
    rw [here, Disk.spelledPlace, Disk.spelledPlace, names, names', List.reverse_concat, List.reverse_concat]
    exact fun same => differs (List.cons.inj same).1
  · have none' := ends.symm.trans none
    cases none'
  · exact absurd (Option.some.inj (ends.symm.trans ascent)) some_name

/-! ## The whole save -/

/-- **What is at the place of the file while it is saved**: what was there before until the draft takes the place, and
from then on the whole new file. A draft that was made is somewhere else. -/
structure Whole (saving : Saving) (initial : Disk) (stage : SaveStage) (disk : Disk) : Prop where
  before : stage ≠ .finished (.ok ()) →
    disk.entryAt? (initial.spelledPlace saving.path) = initial.entryAt? (initial.spelledPlace saving.path)
  afterwards : stage = .finished (.ok ()) →
    disk.entryAt? (initial.spelledPlace saving.path) = some (.file saving.content)
  beside : ∀ handle, stage = .fill handle →
    ∃ draft, disk.placeOf? handle = some draft ∧ draft ≠ initial.spelledPlace saving.path

/-- **What a save that succeeds leaves**: the file where its path leads, no draft, and otherwise what was there before,
with directories above the file where there was nothing. -/
structure Replaced (saving : Saving) (initial after : Disk) : Prop where
  found : after.find saving.path = .ok (initial.spelledPlace saving.path, .file saving.content)
  no_draft : after.entryAt? (initial.spelledPlace saving.draft) = none
  others : ∀ other, other ≠ initial.spelledPlace saving.path → other ≠ initial.spelledPlace saving.draft →
    after.entryAt? other = initial.entryAt? other ∨
      initial.entryAt? other = none ∧ after.entryAt? other = some .directory ∧
        other <:+ (initial.spelledPlace saving.path).tail

/-- The draft takes the place that the path spells. -/
theorem target_eq {target : Place} (no_ascent : Path.above ∉ saving.path.names)
    (ready : Ready saving initial made place) (accepts : (made.drafted place saving.content).Accepts saving.path target) :
    target = initial.spelledPlace saving.path := by
  obtain ⟨directory, name, led, -, rfl, -⟩ := accepts
  rw [Disk.place_of_locate no_ascent led, Disk.spelledPlace_of_grown (ready.grown saving.content),
    Disk.spelledPlace_of_grown ready.extended.grown]

/-- Writing a draft does not change what is at the place of the file. -/
theorem Ready.entryAt?_drafted (ready : Ready saving initial made place) (no_ascent : Path.above ∉ saving.path.names)
    (content : List UInt8) : (made.drafted place content).entryAt? (initial.spelledPlace saving.path) =
      initial.entryAt? (initial.spelledPlace saving.path) := by
  rw [Disk.entryAt?_drafted_ne (ready.beside no_ascent).2.symm, entryAt?_spelledPlace no_ascent ready.extended]

/-- **At every stage what is at the place is the old entry or the whole new file.** -/
theorem whole_of_progress (no_ascent : Path.above ∉ saving.path.names) (progress : Progress saving initial stage disk) :
    Whole saving initial stage disk := by
  cases progress with
  | begun => exact ⟨fun _ => rfl, nofun, nofun⟩
  | prepared call | unprepared call | uncreated call =>
    exact ⟨fun _ => entryAt?_spelledPlace no_ascent (extended_of_call call), nofun, nofun⟩
  | created ready =>
    refine ⟨fun _ => ready.entryAt?_drafted no_ascent [], nofun, ?_⟩
    rintro handle ⟨⟩
    exact ⟨_, Disk.placeOf?_drafted .., (ready.beside no_ascent).2⟩
  | unfilled ready | filled ready | unflushed ready | flushed ready | refused ready =>
    exact ⟨fun _ => ready.entryAt?_drafted no_ascent _, nofun, nofun⟩
  | replaced ready sound accepts =>
    refine ⟨fun unfinished => absurd rfl unfinished, fun _ => ?_, nofun⟩
    rw [← target_eq no_ascent ready accepts]
    exact Disk.entryAt?_moveFile_self accepts.ne_nil ..

/-- **A save that succeeds changes nothing but the file**, what was at the place of the draft, and directories above. -/
theorem replaced_of_progress (no_ascent : Path.above ∉ saving.path.names)
    (progress : Progress saving initial (.finished (.ok ())) after) : Replaced saving initial after := by
  cases progress with
  | @replaced made place target ready sound accepts =>
    obtain ⟨draft, differs⟩ := ready.beside no_ascent
    have here := target_eq no_ascent ready accepts
    refine ⟨?_, ?_, fun other not_file not_draft => ?_⟩
    · have grown := Disk.grown_moveFile (ready.accepts_drafted saving.content).no_directory accepts.no_directory
      rw [← here]
      exact accepts.find_of_grown (grown saving.content) (Disk.entryAt?_moveFile_self accepts.ne_nil ..)
    · rw [← draft]
      exact Disk.entryAt?_moveFile_source ready.accepts.ne_nil (here ▸ differs) ..
    · rw [← draft] at not_draft
      rw [Disk.entryAt?_moveFile_ne not_draft (here ▸ not_file), Disk.entryAt?_drafted_ne not_draft]
      exact entryAt?_of_extended no_ascent ready.extended other

end Saving

/-- **Saving replaces a file at once.** Settings that are not valid leave the disk as it is. Valid ones are saved call
by call: between any two calls, whichever of them fails, the path holds what it held, or the whole new file once the draft
has taken its place. So a save that fails leaves there what was there; and one that succeeds changes nothing else, but for
directories that were made above the file. -/
theorem Settings.save_replaces_at_once {path : Path} (no_ascent : Path.above ∉ path.names) (settings : Settings)
    (disk : Disk) :
    (¬settings.Valid → ∃ failure, settings.save path disk = (.error failure, disk)) ∧
    (settings.Valid → settings.save path disk = Saving.run ⟨path, settings.fileContent⟩ disk ∧
      (∀ n, Saving.Whole ⟨path, settings.fileContent⟩ disk (Saving.after ⟨path, settings.fileContent⟩ disk n).1
        (Saving.after ⟨path, settings.fileContent⟩ disk n).2) ∧
      (∀ failure, (settings.save path disk).1 = .error failure →
        (settings.save path disk).2.entryAt? (disk.spelledPlace path) = disk.entryAt? (disk.spelledPlace path)) ∧
      ((settings.save path disk).1 = .ok () →
        Saving.Replaced ⟨path, settings.fileContent⟩ disk (settings.save path disk).2)) := by
  refine ⟨fun invalid => save_of_invalid invalid path disk, fun valid => ⟨save_of_valid valid path disk, ?_, ?_, ?_⟩⟩
  · intro n
    exact Saving.whole_of_progress no_ascent (Saving.progress_after _ disk n)
  · intro failure failed
    rw [save_of_valid valid] at failed ⊢
    have whole := Saving.whole_of_progress no_ascent (Saving.progress_of_run (Prod.ext failed rfl))
    exact whole.before nofun
  · intro saved
    rw [save_of_valid valid] at saved ⊢
    exact Saving.replaced_of_progress no_ascent (Saving.progress_of_run (Prod.ext saved rfl))

/-- An old file in a directory is replaced. On a medium that is full after five octets it stays, beside a draft of five. -/
theorem Settings.old_file_replaced :
    let path : Path := "d/c.json".toList
    let place : Place := ["c.json".toList, "d".toList]
    let disk (medium : Medium) : Disk := ⟨[(place, .file [123]), (["d".toList], .directory)], [], [], medium⟩
    let full : Medium := ⟨some (5, ⟨28⟩), none⟩
    Path.above ∉ path.names ∧
    ((default.save path (disk .sound)).1 = .ok () ∧
      Saving.Replaced ⟨path, default.fileContent⟩ (disk .sound) (default.save path (disk .sound)).2) ∧
    (default.save path (disk full)).1 =
        .error (.settings "Failed to write config: No space left on device (os error 28)") ∧
      (default.save path (disk full)).2.entryAt? place = some (.file [123]) ∧
      (default.save path (disk full)).2.entryAt? ["c.json.tmp".toList, "d".toList] =
        some (.file (default.fileContent.take 5)) := by
  intro path place disk full
  have no_ascent : Path.above ∉ path.names := by decide
  have saved : (default.save path (disk .sound)).1 = .ok () := by decide +kernel
  have stopped : (default.save path (disk full)).1 =
      .error (.settings "Failed to write config: No space left on device (os error 28)") := by
    decide +kernel
  obtain ⟨-, -, -, replaced⟩ := (save_replaces_at_once no_ascent default (disk .sound)).2 (by decide)
  obtain ⟨-, -, kept, -⟩ := (save_replaces_at_once no_ascent default (disk full)).2 (by decide)
  exact ⟨no_ascent, ⟨saved, replaced saved⟩, stopped, (kept _ stopped).trans (by decide), by decide +kernel⟩

end PortRelease
