import PortRelease.Proofs.Disk.Calls
import PortRelease.Settings.Store
/-!
# How far a save has come

`Saving.Progress` says for each stage of a save what the disk is by then, and for each call that can fail, what it leaves
if it does. It holds at the beginning, each call keeps it (`progress_step`), and so it holds after any number of calls
(`progress_after`) and at the end (`progress_of_run`). What is said of saves is read off its cases.
-/

namespace PortRelease

namespace Saving

variable {saving : Saving} {initial made disk after : Disk} {stage : SaveStage} {place target : Place}

/-! ## The directories -/

theorem extended_makeDirectories (saving : Saving) (disk : Disk) :
    Disk.Extended (Path.Above · saving.path) disk (saving.makeDirectories disk).2 := by
  unfold makeDirectories
  split
  next parent above =>
    refine (Disk.extended_makeDirectories parent disk).mono ?_
    rintro other (rfl | further)
    · exact .parent above
    · exact .further above further
  next => exact .refl _ disk

/-- Whether or not all directories could be made, at most directories above the path have been added. -/
theorem extended_of_call {result : Except IoFault Unit} (call : saving.makeDirectories initial = (result, made)) :
    Disk.Extended (Path.Above · saving.path) initial made := by
  have extended := extended_makeDirectories saving initial
  rwa [call] at extended

/-! ## Stages -/

/-- A save can make its draft: the directories above the path have been made, and the path of the draft leads to a place
for a file. -/
structure Ready (saving : Saving) (initial made : Disk) (place : Place) : Prop where
  prepared : saving.makeDirectories initial = (.ok (), made)
  accepts : made.Accepts saving.draft place

/-- **How far a save has come, and what the disk is then.** -/
inductive Progress (saving : Saving) (initial : Disk) : SaveStage → Disk → Prop
  | begun : Progress saving initial .prepare initial
  | prepared {made : Disk} (call : saving.makeDirectories initial = (.ok (), made)) :
    Progress saving initial .create made
  | created {made : Disk} {place : Place} (ready : Ready saving initial made place) :
    Progress saving initial (.fill made.opened.length) (made.drafted place [])
  | filled {made : Disk} {place : Place} (ready : Ready saving initial made place)
    (writes : made.medium.writeFault = none) : Progress saving initial .flush (made.drafted place saving.content)
  | flushed {made : Disk} {place : Place} (ready : Ready saving initial made place)
    (sound : made.medium = .sound) : Progress saving initial .replace (made.drafted place saving.content)
  /-- The directories could not be made. -/
  | unprepared {made : Disk} {fault : IoFault} (call : saving.makeDirectories initial = (.error fault, made)) :
    Progress saving initial (.finished (.error (callFailure "create config directory" fault))) made
  /-- The draft could not be made. -/
  | uncreated {made : Disk} {fault : IoFault} (prepared : saving.makeDirectories initial = (.ok (), made))
    (call : made.openEmpty saving.draft = (.error fault, made)) :
    Progress saving initial (.finished (.error (callFailure "create temp config file" fault))) made
  /-- The medium took the beginning of the draft and no more. -/
  | unfilled {made : Disk} {place : Place} {taken : Nat} {e : Errno} (ready : Ready saving initial made place)
    (stops : made.medium.writeFault = some (taken, e)) :
    Progress saving initial (.finished (.error (callFailure "write config" (.system e))))
      (made.drafted place (saving.content.take taken))
  /-- The medium could not keep the draft. -/
  | unflushed {made : Disk} {place : Place} {e : Errno} (ready : Ready saving initial made place)
    (writes : made.medium.writeFault = none) (loses : made.medium.syncFault = some e) :
    Progress saving initial (.finished (.error (callFailure "sync config" (.system e))))
      (made.drafted place saving.content)
  /-- The draft could not take the name of the file. -/
  | refused {made : Disk} {place : Place} {fault : IoFault} (ready : Ready saving initial made place)
    (sound : made.medium = .sound)
    (call : (made.drafted place saving.content).rename saving.draft saving.path =
      (.error fault, made.drafted place saving.content)) :
    Progress saving initial (.finished (.error (callFailure "rename config file" fault)))
      (made.drafted place saving.content)
  | replaced {made : Disk} {place target : Place} (ready : Ready saving initial made place)
    (sound : made.medium = .sound)
    (accepts : (made.drafted place saving.content).Accepts saving.path target) :
    Progress saving initial (.finished (.ok ()))
      ((made.drafted place saving.content).moveFile place target saving.content)

namespace Ready

theorem extended (ready : Ready saving initial made place) : Disk.Extended (Path.Above · saving.path) initial made :=
  extended_of_call ready.prepared

theorem grown (ready : Ready saving initial made place) (content : List UInt8) :
    Disk.Grown made (made.drafted place content) :=
  Disk.grown_drafted ready.accepts.no_directory content

/-- The draft is a file like any other. -/
theorem accepts_drafted (ready : Ready saving initial made place) (content : List UInt8) :
    (made.drafted place content).Accepts saving.draft place := by
  obtain ⟨directory, name, led, fitting, here, free⟩ := ready.accepts
  refine ⟨directory, name, Disk.locate_of_grown (ready.grown content) led, fitting, here, ?_⟩
  rw [Disk.entryAt?_drafted_self ready.accepts.ne_nil]
  exact nofun

end Ready

/-- **Each call keeps it.** -/
theorem progress_step (progress : Progress saving initial stage disk) :
    Progress saving initial (saving.step stage disk).1 (saving.step stage disk).2 := by
  cases progress with
  | begun =>
    rw [step]
    rcases call : saving.makeDirectories initial with ⟨_ | _, made⟩
    · exact .unprepared call
    · exact .prepared call
  | prepared prepared =>
    rw [step]
    obtain ⟨fault, call⟩ | ⟨place, accepts, call⟩ := Disk.openEmpty_cases saving.draft disk
    · rw [call]
      exact .uncreated prepared call
    · rw [call]
      exact .created ⟨prepared, accepts⟩
  | @created made place ready =>
    rw [step]
    obtain ⟨taken, e, stops, call⟩ | ⟨writes, call⟩ :=
      Disk.write_cases made.opened.length saving.content (made.drafted place [])
    · rw [call, Disk.overwrite_drafted ready.accepts.ne_nil]
      exact .unfilled ready stops
    · rw [call, Disk.overwrite_drafted ready.accepts.ne_nil]
      exact .filled ready writes
  | @filled made place ready writes =>
    rw [step]
    obtain ⟨e, loses, call⟩ | ⟨keeps, call⟩ := Disk.sync_cases (made.drafted place saving.content)
    · rw [call]
      exact .unflushed ready writes loses
    · rw [call]
      exact .flushed ready (Medium.eq_sound writes keeps)
  | @flushed made place ready sound =>
    rw [step]
    obtain ⟨fault, call⟩ | ⟨source, target, content, located, there, accepts, call⟩ :=
      Disk.rename_cases saving.draft saving.path (made.drafted place saving.content)
    · rw [call]
      exact .refused ready sound call
    · -- What is renamed is the draft that was just written.
      obtain rfl := (ready.accepts_drafted saving.content).unique (.refl _) located
      rw [Disk.entryAt?_drafted_self ready.accepts.ne_nil] at there
      cases there
      rw [call]
      exact .replaced ready sound accepts
  | unprepared call => exact .unprepared call
  | uncreated prepared call => exact .uncreated prepared call
  | unfilled ready stops => exact .unfilled ready stops
  | unflushed ready writes loses => exact .unflushed ready writes loses
  | refused ready sound call => exact .refused ready sound call
  | replaced ready sound accepts => exact .replaced ready sound accepts

/-- **And so do any number of them.** -/
theorem progress_after (saving : Saving) (initial : Disk) (n : Nat) :
    Progress saving initial (saving.after initial n).1 (saving.after initial n).2 := by
  induction n with
  | zero => exact .begun
  | succ n ih => exact progress_step ih

theorem progress_of_run {result : Except Failure Unit} (run : saving.run initial = (result, after)) :
    Progress saving initial (.finished result) after := by
  have progress := progress_after saving initial 5
  obtain ⟨ended, last⟩ := finished_after_five saving initial
  have same : saving.run initial = (ended, (saving.after initial 5).2) := by
    simp [Saving.run, last, result?]
  rw [last] at progress
  rw [same] at run
  cases run
  exact progress

end Saving

namespace Settings

variable {settings : Settings}

theorem save_of_valid (valid : settings.Valid) (path : Path) (disk : Disk) :
    settings.save path disk = Saving.run ⟨path, settings.fileContent⟩ disk := by
  unfold Valid at valid
  rw [save, validate, valid]

theorem save_of_invalid (invalid : ¬settings.Valid) (path : Path) (disk : Disk) :
    ∃ failure, settings.save path disk = (.error failure, disk) := by
  obtain ⟨rule, broken⟩ := Option.ne_none_iff_exists'.mp invalid
  refine ⟨.settings rule.message, ?_⟩
  rw [save, validate, broken]

end Settings

end PortRelease
