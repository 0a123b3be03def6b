import PortRelease.Proofs.Disk.Directories
import PortRelease.Proofs.Settings.Saving
/-!
# When a save succeeds

A save is possible if its directories can be made, its draft and its file then have places, and the medium is sound. It
succeeds just then (`succeeds_iff`), whatever is to be written, and leaves the file and no draft (`run_of_possible`). What
was possible on a disk stays so on every disk with the same directories (`Possible.of_same`), so a save that succeeded
succeeds again, and changes nothing (`run_again`).
-/

namespace PortRelease.Saving

variable {saving : Saving} {disk made other after : Disk} {place target : Place}

/-! ## The draft and the file -/

/-- **A draft is beside its file**: the two paths never lead to one place, not even with two dots in them. -/
theorem draft_ne (saving : Saving) {directory directory' : Place} {name name' : Text} {slash slash' : Bool}
    (led : disk.locate saving.draft = .ok (.name directory name slash))
    (led' : disk.locate saving.path = .ok (.name directory' name' slash')) : name :: directory ≠ name' :: directory' := by
  obtain ⟨ends, some_name, -⟩ := Disk.walk_of_locate led
  obtain ⟨ends', -, -⟩ := Disk.walk_of_locate led'
  have beside := Path.names_withExtension (by decide : '.' ∈ "json.tmp".toList) (by decide) saving.path
  obtain ⟨front, last, mine, names, names', differs, -, -⟩ | none | ascent := beside
  · change saving.draft.names = front ++ [mine] at names'
    rw [names, List.getLast?_concat] at ends'
    rw [names', List.getLast?_concat] at ends
    cases ends
    cases ends'
    exact fun same => differs (List.cons.inj same).1
  · cases ends.symm.trans none
  · exact absurd (Option.some.inj (ends.symm.trans ascent)) some_name

theorem place_ne (saving : Saving) (accepts : disk.Accepts saving.draft place)
    (accepts' : disk.Accepts saving.path target) : place ≠ target := by
  obtain ⟨directory, name, led, -, rfl, -⟩ := accepts
  obtain ⟨directory', name', led', -, rfl, -⟩ := accepts'
  exact saving.draft_ne led led'

/-! ## Directories above -/

/-- The directories above the file are there. -/
def Prepared (saving : Saving) (disk : Disk) : Prop := saving.makeDirectories disk = (.ok (), disk)

theorem prepared_of_grown (call : saving.makeDirectories disk = (.ok (), made)) (grown : Disk.Grown made after) :
    saving.Prepared after := by
  unfold Prepared makeDirectories at *
  cases above : saving.path.parent? with
  | none => rfl
  | some parent =>
    rw [above] at call
    exact Disk.makeDirectories_again call grown

/-! ## Possible saves -/

/-- **A save is possible**: the medium takes everything, the directories can be made, and then the draft and the file have
places. -/
def Possible (saving : Saving) (disk : Disk) : Prop :=
  disk.medium = .sound ∧ ∃ made place target, saving.makeDirectories disk = (.ok (), made) ∧
    made.Accepts saving.draft place ∧ made.Accepts saving.path target

theorem Prepared.possible_iff (prepared : saving.Prepared disk) : saving.Possible disk ↔
    disk.medium = .sound ∧ ∃ place target, disk.Accepts saving.draft place ∧ disk.Accepts saving.path target := by
  refine and_congr_right fun _ => ⟨?_, ?_⟩
  · rintro ⟨made, place, target, call, accepts, accepts'⟩
    obtain rfl : disk = made := (Prod.mk.inj (prepared.symm.trans call)).2
    exact ⟨place, target, accepts, accepts'⟩
  · rintro ⟨place, target, accepts, accepts'⟩
    exact ⟨disk, place, target, prepared, accepts, accepts'⟩

/-- Once the directories are there, only directories matter. -/
theorem Possible.of_same (prepared : saving.Prepared disk) (same : Disk.SameDirectories disk other)
    (possible : saving.Possible disk) : saving.Possible other := by
  obtain ⟨sound, place, target, accepts, accepts'⟩ := prepared.possible_iff.mp possible
  exact ⟨same.forth.medium_eq.trans sound, other, place, target, prepared_of_grown prepared same.forth,
    accepts.of_same same, accepts'.of_same same⟩

/-! ## Runs -/

/-- **What a possible save does.** -/
theorem run_of_possible (sound : disk.medium = .sound) (call : saving.makeDirectories disk = (.ok (), made))
    (accepts : made.Accepts saving.draft place) (accepts' : made.Accepts saving.path target) :
    saving.run disk = (.ok (), (made.drafted place saving.content).moveFile place target saving.content) := by
  have made_eq {other : Disk} (call' : saving.makeDirectories disk = (.ok (), other)) : other = made :=
    (Prod.mk.inj (call'.symm.trans call)).2
  have place_eq {other : Place} (accepted : made.Accepts saving.draft other) : other = place :=
    accepts.unique (.refl made) accepted
  have writes : made.medium = .sound := (extended_of_call call).grown.medium_eq.trans sound
  have same := Disk.SameDirectories.drafted accepts.no_directory accepts.ne_nil saving.content
  rcases run : saving.run disk with ⟨result, after⟩
  -- Each way in which a save can fail is closed by one of the hypotheses.
  cases progress_of_run run with
  | unprepared call' => cases call.symm.trans call'
  | uncreated prepared opened =>
    obtain rfl := made_eq prepared
    cases opened.symm.trans (Disk.openEmpty_of_accepts accepts)
  | unfilled ready stops =>
    obtain rfl := made_eq ready.prepared
    rw [writes] at stops
    cases stops
  | unflushed ready _ loses =>
    obtain rfl := made_eq ready.prepared
    rw [writes] at loses
    cases loses
  | refused ready _ refused =>
    obtain rfl := made_eq ready.prepared
    obtain rfl := place_eq ready.accepts
    have renamed := Disk.rename_of_accepts (accepts.of_same same) (Disk.entryAt?_drafted_self accepts.ne_nil ..)
      (accepts'.of_same same)
    cases refused.symm.trans renamed
  | replaced ready _ accepted =>
    obtain rfl := made_eq ready.prepared
    obtain rfl := place_eq ready.accepts
    rw [accepts'.unique same.forth accepted]

/-- **A save succeeds just if it is possible.** -/
theorem succeeds_iff : (saving.run disk).1 = .ok () ↔ saving.Possible disk := by
  constructor
  · intro succeeded
    rcases run : saving.run disk with ⟨result, after⟩
    obtain rfl : result = .ok () := (congrArg Prod.fst run).symm.trans succeeded
    cases progress_of_run run with
    | @replaced made place target ready sound accepts' =>
      have same := Disk.SameDirectories.drafted ready.accepts.no_directory ready.accepts.ne_nil saving.content
      exact ⟨ready.extended.grown.medium_eq.symm.trans sound, made, place, target, ready.prepared, ready.accepts,
        accepts'.of_same same.symm⟩
  · rintro ⟨sound, made, place, target, call, accepts, accepts'⟩
    rw [run_of_possible sound call accepts accepts']

/-! ## Once more -/

/-- What is where after the draft has become the file. -/
theorem entryAt?_replaced (accepts : made.Accepts saving.draft place) (accepts' : made.Accepts saving.path target)
    (where_ : Place) :
    ((made.drafted place saving.content).moveFile place target saving.content).entryAt? where_ =
      if where_ = target then some (.file saving.content) else if where_ = place then none else made.entryAt? where_ := by
  split
  next at_file =>
    rw [at_file]
    exact Disk.entryAt?_moveFile_self accepts'.ne_nil ..
  next not_file =>
    split
    next at_draft =>
      rw [at_draft]
      exact Disk.entryAt?_moveFile_source accepts.ne_nil (saving.place_ne accepts accepts') ..
    next not_draft => rw [Disk.entryAt?_moveFile_ne not_draft not_file, Disk.entryAt?_drafted_ne not_draft]

/-- **A save that succeeded succeeds again, and changes nothing.** -/
theorem run_again (run : saving.run disk = (.ok (), after)) :
    ∃ again, saving.run after = (.ok (), again) ∧ ∀ place, again.entryAt? place = after.entryAt? place := by
  obtain ⟨sound, made, place, target, call, accepts, accepts'⟩ := succeeds_iff.mp (congrArg Prod.fst run)
  obtain rfl : (made.drafted place saving.content).moveFile place target saving.content = after :=
    (Prod.mk.inj ((run_of_possible sound call accepts accepts').symm.trans run)).2
  have elsewhere := saving.place_ne accepts accepts'
  have drafted := Disk.SameDirectories.drafted accepts.no_directory accepts.ne_nil saving.content
  have moved := Disk.SameDirectories.moveFile (accepts.of_same drafted).no_directory (accepts'.of_same drafted) elsewhere
    accepts.ne_nil saving.content
  have same := drafted.trans moved
  have still_sound := same.forth.medium_eq.trans ((extended_of_call call).grown.medium_eq.trans sound)
  refine ⟨_, run_of_possible still_sound (prepared_of_grown call same.forth) (accepts.of_same same)
    (accepts'.of_same same), fun where_ => ?_⟩
  rw [entryAt?_replaced (accepts.of_same same) (accepts'.of_same same), entryAt?_replaced accepts accepts']
  split
  next => rfl
  next =>
    split
    next => rfl
    next => rfl

end PortRelease.Saving
