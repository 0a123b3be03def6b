import PortRelease.Proofs.Settings.Saving
/-!
# What a failed save leaves

A save that cannot make the directories or the draft leaves the files as they are (`Undrafted`). One that has made its
draft and then fails ends there, and the draft stays, in the place of whatever file had that place (`DraftLeft`): the whole
of it if it could not be kept or renamed, and its beginning if it could not be written (`Stranded`). The files are as
before only if that file happened to hold the same.
-/

namespace PortRelease

namespace Saving

variable {saving : Saving} {initial made after : Disk} {place : Place} {failure : Failure} {octets : List UInt8}

/-- **A save has failed before it had a draft**, for one of two reasons. -/
inductive Undrafted (saving : Saving) (initial made : Disk) : Failure → Prop
  | unprepared {fault : IoFault} (call : saving.makeDirectories initial = (.error fault, made)) :
    Undrafted saving initial made (callFailure "create config directory" fault)
  | uncreated {fault : IoFault} (prepared : saving.makeDirectories initial = (.ok (), made))
    (call : made.openEmpty saving.draft = (.error fault, made)) :
    Undrafted saving initial made (callFailure "create temp config file" fault)

/-- **A save has failed with a draft**, for one of three reasons, and this is what the draft holds. -/
inductive Stranded (saving : Saving) (after : Disk) : Failure → List UInt8 → Prop
  | unfilled {taken : Nat} {e : Errno} (stops : after.medium.writeFault = some (taken, e)) :
    Stranded saving after (callFailure "write config" (.system e)) (saving.content.take taken)
  | unflushed {e : Errno} (writes : after.medium.writeFault = none) (loses : after.medium.syncFault = some e) :
    Stranded saving after (callFailure "sync config" (.system e)) saving.content
  | refused {fault : IoFault} (sound : after.medium = .sound)
    (call : after.rename saving.draft saving.path = (.error fault, after)) :
    Stranded saving after (callFailure "rename config file" fault) saving.content

/-- **A draft is left behind**: it was made where its path leads, and stays; what was there before is lost. -/
structure DraftLeft (saving : Saving) (made after : Disk) (place : Place) (failure : Failure) (octets : List UInt8) :
    Prop where
  accepts : made.Accepts saving.draft place
  stranded : Stranded saving after failure octets
  left : after.entryAt? place = some (.file octets)
  others : ∀ other, other ≠ place → after.entryAt? other = made.entryAt? other

/-- The files are the same with a draft left behind only if there was such a file before. -/
theorem DraftLeft.sameFiles_iff (draft : DraftLeft saving made after place failure octets)
    (same : Disk.SameFiles initial made) :
    Disk.SameFiles initial after ↔ initial.entryAt? place = some (.file octets) := by
  constructor
  · intro unchanged
    exact (unchanged place octets).mp draft.left
  · intro was other content
    by_cases here : other = place
    · subst here
      rw [draft.left, was]
    · rw [draft.others other here]
      exact same other content

/-- A file that is new is the draft. -/
theorem DraftLeft.eq_of_new (draft : DraftLeft saving made after place failure octets)
    (same : Disk.SameFiles initial made) {other : Place} {content : List UInt8}
    (there : after.entryAt? other = some (.file content)) (new : initial.entryAt? other ≠ some (.file content)) :
    place = other ∧ octets = content := by
  by_cases here : other = place
  · subst here
    cases draft.left.symm.trans there
    exact ⟨rfl, rfl⟩
  · rw [draft.others other here] at there
    exact absurd ((same other content).mp there) new

/-- A draft that was made and never renamed is left behind. -/
theorem Ready.draftLeft (ready : Ready saving initial made place)
    (stranded : Stranded saving (made.drafted place octets) failure octets) :
    DraftLeft saving made (made.drafted place octets) place failure octets where
  accepts := ready.accepts
  stranded := stranded
  left := Disk.entryAt?_drafted_self ready.accepts.ne_nil ..
  others _ elsewhere := Disk.entryAt?_drafted_ne elsewhere ..

/-- **A failed save leaves directories at most, or its draft.** -/
theorem left_of_run (run : saving.run initial = (.error failure, after)) :
    ∃ made, Disk.Extended (Path.Above · saving.path) initial made ∧
      (after = made ∧ Undrafted saving initial made failure ∨
        ∃ place octets, DraftLeft saving made after place failure octets) := by
  cases progress_of_run run with
  | unprepared call => exact ⟨after, extended_of_call call, .inl ⟨rfl, .unprepared call⟩⟩
  | uncreated prepared call => exact ⟨after, extended_of_call prepared, .inl ⟨rfl, .uncreated prepared call⟩⟩
  | @unfilled made place taken e ready stops =>
    exact ⟨made, ready.extended, .inr ⟨place, _, ready.draftLeft (.unfilled stops)⟩⟩
  | @unflushed made place e ready writes loses =>
    exact ⟨made, ready.extended, .inr ⟨place, _, ready.draftLeft (.unflushed writes loses)⟩⟩
  | @refused made place fault ready sound call =>
    exact ⟨made, ready.extended, .inr ⟨place, _, ready.draftLeft (.refused sound call)⟩⟩

end Saving

/-- **What a failed save leaves.** At most directories above the path are added. If the settings are not valid, or if the
directories or the draft cannot be made, that is all. Else the draft is left behind: its beginning if the medium stops
taking it, and all of it if the medium cannot keep it or if it cannot be renamed. Then the files are as before just if its
place held a file with the same in it. -/
theorem Settings.left_by_failed_save {settings : Settings} {path : Path} {disk : Disk} {failure : Failure}
    (failed : (settings.save path disk).1 = .error failure) :
    let saving : Saving := ⟨path, settings.fileContent⟩
    let after := (settings.save path disk).2
    ∃ made, Disk.Extended (Path.Above · path) disk made ∧ Disk.SameFiles disk made ∧
      (after = made ∧ (¬settings.Valid ∧ made = disk ∨ saving.Undrafted disk made failure) ∨
        ∃ place octets, saving.DraftLeft made after place failure octets ∧
          (Disk.SameFiles disk after ↔ disk.entryAt? place = some (.file octets))) := by
  intro saving after
  by_cases valid : settings.Valid
  · have run : saving.run disk = (.error failure, after) := by
      rw [← save_of_valid valid]
      exact Prod.ext failed rfl
    obtain ⟨made, extended, ⟨unchanged, cause⟩ | ⟨place, octets, draft⟩⟩ := Saving.left_of_run run
    · exact ⟨made, extended, extended.sameFiles, .inl ⟨unchanged, .inr cause⟩⟩
    · exact ⟨made, extended, extended.sameFiles, .inr ⟨place, octets, draft, draft.sameFiles_iff extended.sameFiles⟩⟩
  · obtain ⟨failure, rejected⟩ := save_of_invalid valid path disk
    have same : Disk.Extended (Path.Above · path) disk disk := .refl _ disk
    have unchanged : after = disk := congrArg Prod.snd rejected
    exact ⟨disk, same, same.sameFiles, .inl ⟨unchanged, .inl ⟨valid, rfl⟩⟩⟩

/-- A draft that is left behind takes the place of a file that was there: all of it where the path ends in a slash, so that
it names no file, and five octets on a medium that is full after five. -/
theorem Settings.old_draft_lost :
    let place : Place := ["c.json.tmp".toList]
    let disk (medium : Medium) : Disk := ⟨[(place, .file [123])], [], [], medium⟩
    let full : Medium := ⟨some (5, ⟨28⟩), none⟩
    let refused : Failure := .settings "Failed to rename config file: Not a directory (os error 20)"
    let stopped : Failure := .settings "Failed to write config: No space left on device (os error 28)"
    (default.save "c.json/".toList (disk .sound)).1 = .error refused ∧
      (default.save "c.json".toList (disk full)).1 = .error stopped ∧
      (∃ made, Saving.DraftLeft ⟨"c.json/".toList, default.fileContent⟩ made
        (default.save "c.json/".toList (disk .sound)).2 place refused default.fileContent) ∧
      ∃ made, Saving.DraftLeft ⟨"c.json".toList, default.fileContent⟩ made
        (default.save "c.json".toList (disk full)).2 place stopped (default.fileContent.take 5) := by
  intro place disk full refused stopped
  have first : (default.save "c.json/".toList (disk .sound)).1 = .error refused := by decide +kernel
  have second : (default.save "c.json".toList (disk full)).1 = .error stopped := by decide +kernel
  have overwritten : (default.save "c.json/".toList (disk .sound)).2.entryAt? place =
      some (.file default.fileContent) := by
    decide +kernel
  have begun : (default.save "c.json".toList (disk full)).2.entryAt? place =
      some (.file (default.fileContent.take 5)) := by
    decide +kernel
  have was (medium : Medium) : (disk medium).entryAt? place = some (.file [123]) := rfl
  have new : some (Entry.file [123]) ≠ some (.file default.fileContent) := by decide +kernel
  have new' : some (Entry.file [123]) ≠ some (.file (default.fileContent.take 5)) := by decide +kernel
  refine ⟨first, second, ?_, ?_⟩
  · obtain ⟨made, -, same, ⟨unchanged, -⟩ | ⟨other, octets, draft, -⟩⟩ := left_by_failed_save first
    · rw [unchanged] at overwritten
      exact absurd ((was .sound).symm.trans ((same _ _).mp overwritten)) new
    · obtain ⟨rfl, rfl⟩ := draft.eq_of_new same overwritten ((was .sound) ▸ new)
      exact ⟨made, draft⟩
  · obtain ⟨made, -, same, ⟨unchanged, -⟩ | ⟨other, octets, draft, -⟩⟩ := left_by_failed_save second
    · rw [unchanged] at begun
      exact absurd ((was full).symm.trans ((same _ _).mp begun)) new'
    · obtain ⟨rfl, rfl⟩ := draft.eq_of_new same begun ((was full) ▸ new')
      exact ⟨made, draft⟩

/-- **A failed save can leave a file that was not there.** -/
theorem Settings.draft_left_behind :
    let path : Path := "c.json/".toList
    (default.save path (.empty [])).1 =
        .error (.settings "Failed to rename config file: Not a directory (os error 20)") ∧
      ¬Disk.SameFiles (.empty []) (default.save path (.empty [])).2 := by
  intro path
  have failed : (default.save path (.empty [])).1 =
      .error (.settings "Failed to rename config file: Not a directory (os error 20)") := by
    decide +kernel
  have remains : (default.save path (.empty [])).2.entryAt? ["c.json.tmp".toList] = some (.file default.fileContent) := by
    decide +kernel
  refine ⟨failed, fun same => ?_⟩
  have was := (same _ _).mp remains
  cases was

end PortRelease
