import Mathlib.Data.Bool.Basic
import Mathlib.Logic.Function.Basic
import PortRelease.Proofs.Settings.Possible
import PortRelease.Proofs.Settings.Replacement
/-!
# Two saves at once

Two saves to one path share the name of their draft. Their calls can come in any order (`SavingPair.interleave`), and what
decides is whether one makes its draft while the other has one.

If never (`SavingPair.apart`), the calls are in good order whatever else happens between them: the path holds what it
held or one of the two new files, whole, and a save fails only if it fails alone. This is an invariant of single calls
(`tidy_advance`), and so of all interleavings (`tidy_interleave`).

If it happens once, the two write to one file from then on; the first to rename it takes it from the other, who finds
nothing to rename (`doomed_advance`). So the two never both succeed (`doomed_of_not_apart`).
-/

namespace PortRelease

/-- **Two saves to one path**, told apart by a `Bool`. -/
structure SavingPair where
  path : Path
  content : Bool → List UInt8

namespace SavingPair

/-- One of the two saves. -/
def side (pair : SavingPair) (i : Bool) : Saving := ⟨pair.path, pair.content i⟩

/-- The path of their drafts. -/
def draft (pair : SavingPair) : Path := Path.withExtension "json.tmp".toList pair.path

/-- How far the two have come, and the disk that they share. -/
structure State where
  stage : Bool → SaveStage
  disk : Disk

/-- Neither has made a call. -/
def begun (disk : Disk) : State := ⟨fun _ => .prepare, disk⟩

/-- One of the two makes its next call. -/
def advance (pair : SavingPair) (state : State) (i : Bool) : State :=
  let next := (pair.side i).step (state.stage i) state.disk
  ⟨Function.update state.stage i next.1, next.2⟩

/-- **The two make their calls in turn**, in the order that is given. -/
def interleave (pair : SavingPair) (turns : List Bool) (state : State) : State := turns.foldl pair.advance state

/-- Whether a save has a draft: it has made it and has not renamed it. -/
def hasDraft : SaveStage → Bool
  | .fill _ => true
  | .flush => true
  | .replace => true
  | _ => false

/-- Whether a save is to make its draft next. -/
def makesDraft : SaveStage → Bool
  | .create => true
  | _ => false

/-- Whether the next call of a save makes its draft while the other has one. -/
def State.collides (state : State) (i : Bool) : Bool := makesDraft (state.stage i) && hasDraft (state.stage !i)

/-- **Whether the drafts are kept apart**: none is made while the other save has one. -/
def apart (pair : SavingPair) : List Bool → State → Bool
  | [], _ => true
  | i :: turns, state => !state.collides i && pair.apart turns (pair.advance state i)

variable {pair : SavingPair} {initial disk made after : Disk} {state : State} {stage : SaveStage} {place : Place} {i : Bool}

/-! ## One call -/

theorem advance_of_finished {result : Except Failure Unit} (ended : state.stage i = .finished result) :
    pair.advance state i = state := by
  simp only [advance, ended, Saving.step]
  rw [← ended, Function.update_eq_self]

/-! The drafts of both have one path, and so have their files. -/

theorem step_create (pair : SavingPair) (i : Bool) (disk : Disk) : (pair.side i).step .create disk =
    Saving.proceed "create temp config file" .fill (disk.openEmpty pair.draft) := rfl

theorem step_fill (pair : SavingPair) (i : Bool) (handle : Handle) (disk : Disk) : (pair.side i).step (.fill handle) disk =
    Saving.proceed "write config" (fun _ => .flush) (disk.write handle (pair.content i)) := rfl

theorem step_flush (pair : SavingPair) (i : Bool) (disk : Disk) : (pair.side i).step .flush disk =
    Saving.proceed "sync config" (fun _ => .replace) disk.sync := rfl

theorem step_replace (pair : SavingPair) (i : Bool) (disk : Disk) : (pair.side i).step .replace disk =
    Saving.proceed "rename config file" (fun _ => .finished (.ok ())) (disk.rename pair.draft pair.path) := rfl

theorem stage_advance (pair : SavingPair) (state : State) (i : Bool) :
    (pair.advance state i).stage i = ((pair.side i).step (state.stage i) state.disk).1 :=
  Function.update_self ..

theorem stage_advance_not (pair : SavingPair) (state : State) (i : Bool) :
    (pair.advance state i).stage (!i) = state.stage !i :=
  Function.update_of_ne (Bool.not_ne_self i) ..

/-! ## What the two keep -/

/-- **What the disk is while two saves go on**: everything is as it was before them, but for directories above the path,
the draft, and new files that are whole; and a save that was possible still is. -/
structure Kept (pair : SavingPair) (initial disk : Disk) : Prop where
  accounted : ∀ place, disk.entryAt? place = initial.entryAt? place ∨
    (initial.entryAt? place = none ∧ disk.entryAt? place = some .directory ∧
      ∃ other directory name slash, Path.Above other pair.path ∧
        disk.locate other = .ok (.name directory name slash) ∧ place = name :: directory) ∨
    disk.Accepts pair.draft place ∨ ∃ i, disk.entryAt? place = some (.file (pair.content i))
  possible : ∀ i, (pair.side i).Possible initial → (pair.side i).Possible disk

theorem Kept.of_extended (extended : Disk.Extended (Path.Above · pair.path) initial disk)
    (possible : ∀ i, (pair.side i).Possible initial → (pair.side i).Possible disk) : Kept pair initial disk where
  accounted place := (extended.only_directories place).imp_right .inl
  possible := possible

/-- Once the directories are there, a call keeps the disk if it changes nothing but the draft, or puts a whole file in
its place. -/
theorem Kept.of_same (kept : Kept pair initial disk) (prepared : ∀ i, (pair.side i).Prepared disk)
    (same : Disk.SameDirectories disk after)
    (changes : ∀ place, after.entryAt? place = disk.entryAt? place ∨ disk.Accepts pair.draft place ∨
      ∃ i, after.entryAt? place = some (.file (pair.content i))) : Kept pair initial after where
  accounted place := by
    obtain unchanged | draft | whole := changes place
    · obtain was | ⟨vacant, directory, other, above, name, slash, upward, led, here⟩ | draft | whole :=
        kept.accounted place
      · exact .inl (unchanged.trans was)
      · exact .inr (.inl ⟨vacant, unchanged.trans directory, other, above, name, slash, upward,
          Disk.locate_of_grown same.forth led, here⟩)
      · exact .inr (.inr (.inl (draft.of_same same)))
      · obtain ⟨j, there⟩ := whole
        exact .inr (.inr (.inr ⟨j, unchanged.trans there⟩))
    · exact .inr (.inr (.inl (draft.of_same same)))
    · exact .inr (.inr (.inr whole))
  possible j possible := (kept.possible j possible).of_same (prepared j) same

/-- The draft of a save is what the save has made of it so far. -/
def Drafted (pair : SavingPair) (i : Bool) (disk : Disk) : SaveStage → Prop
  | .fill handle => ∃ place, disk.Accepts pair.draft place ∧ disk.placeOf? handle = some place ∧
      disk.entryAt? place = some (.file [])
  | .flush => ∃ place, disk.Accepts pair.draft place ∧ disk.entryAt? place = some (.file (pair.content i))
  | .replace => ∃ place, disk.Accepts pair.draft place ∧ disk.entryAt? place = some (.file (pair.content i))
  | _ => True

theorem drafted_of_no_draft (none : hasDraft stage = false) (pair : SavingPair) (i : Bool) (disk : Disk) :
    pair.Drafted i disk stage := by
  cases stage with
  | fill | flush | replace => cases none
  | prepare | create | finished => trivial

/-- A save that has not come past its first call. -/
def Unprepared (stage : SaveStage) : Prop := stage = .prepare ∨ ∃ failure, stage = .finished (.error failure)

theorem Unprepared.no_draft (unprepared : Unprepared stage) : hasDraft stage = false := by
  obtain rfl | ⟨failure, rfl⟩ := unprepared
  · rfl
  · rfl

/-- **What holds between any two calls while the drafts are kept apart.** -/
structure Tidy (pair : SavingPair) (initial : Disk) (state : State) : Prop where
  kept : Kept pair initial state.disk
  /-- The directories have been made, or neither save has come past that. -/
  phase : (∀ i, (pair.side i).Prepared state.disk) ∨
    Disk.Extended (Path.Above · pair.path) initial state.disk ∧ ∀ i, Unprepared (state.stage i)
  drafts : ∀ i, pair.Drafted i state.disk (state.stage i)
  one_draft : ∀ i, hasDraft (state.stage i) = true → hasDraft (state.stage !i) = false
  failed : ∀ i failure, state.stage i = .finished (.error failure) → ¬(pair.side i).Possible initial

theorem tidy_begun (pair : SavingPair) (initial : Disk) : Tidy pair initial (begun initial) where
  kept := .of_extended (.refl _ initial) fun _ => id
  phase := .inr ⟨.refl _ initial, fun _ => .inl rfl⟩
  drafts _ := trivial
  one_draft _ := nofun
  failed _ _ := nofun

theorem forall_update {p : Bool → SaveStage → Prop} {stages : Bool → SaveStage} (mine : p i stage)
    (theirs : p (!i) (stages !i)) (j : Bool) : p j (Function.update stages i stage j) := by
  by_cases same : j = i
  · subst same
    rwa [Function.update_self]
  · obtain rfl : j = !i := Bool.eq_not.mpr same
    rwa [Function.update_of_ne same]

/-- A save without a draft has none beside the other's, and one that goes on has not failed. -/
theorem of_no_draft {p : Prop} (none : hasDraft stage = false) (has : hasDraft stage = true) : p :=
  absurd (none.symm.trans has) Bool.false_ne_true

theorem of_running {p : Failure → Prop} (running : Saving.result? stage = none) (failure : Failure)
    (failed : stage = .finished (.error failure)) : p failure := by
  rw [failed] at running
  cases running

/-- What a call of one save must show. -/
theorem Tidy.next (tidy : Tidy pair initial state) (kept : Kept pair initial disk)
    (phase : (∀ j, (pair.side j).Prepared disk) ∨ Disk.Extended (Path.Above · pair.path) initial disk ∧
      Unprepared stage ∧ Unprepared (state.stage !i))
    (mine : pair.Drafted i disk stage) (theirs : pair.Drafted (!i) disk (state.stage !i))
    (one_draft : hasDraft stage = true → hasDraft (state.stage !i) = false)
    (failed : ∀ failure, stage = .finished (.error failure) → ¬(pair.side i).Possible initial) :
    Tidy pair initial ⟨Function.update state.stage i stage, disk⟩ where
  kept := kept
  phase := by
    refine phase.imp_right fun ⟨extended, unprepared, unprepared'⟩ => ⟨extended, ?_⟩
    exact forall_update (p := fun _ => Unprepared) unprepared unprepared'
  drafts := forall_update (p := fun j => pair.Drafted j disk) mine theirs
  one_draft j := by
    dsimp only
    by_cases same : j = i
    · subst same
      rw [Function.update_self, Function.update_of_ne (Bool.not_ne_self j)]
      exact one_draft
    · obtain rfl : j = !i := Bool.eq_not.mpr same
      rw [Function.update_of_ne same, Bool.not_not, Function.update_self]
      intro theirs
      refine Bool.eq_false_iff.mpr fun mine => ?_
      rw [one_draft mine] at theirs
      cases theirs
  failed := forall_update (p := fun j stage => ∀ failure, stage = .finished (.error failure) →
    ¬(pair.side j).Possible initial) failed (tidy.failed !i)

theorem Tidy.prepared (tidy : Tidy pair initial state) (now : state.stage i = stage) (past : stage ≠ .prepare)
    (running : Saving.result? stage = none) (j : Bool) : (pair.side j).Prepared state.disk := by
  obtain prepared | ⟨-, unprepared⟩ := tidy.phase
  · exact prepared j
  · have mine := unprepared i
    rw [now] at mine
    obtain rfl | ⟨failure, rfl⟩ := mine
    · exact absurd rfl past
    · cases running

/-- Making the directories. -/
theorem tidy_prepare (tidy : Tidy pair initial state) (now : state.stage i = .prepare) :
    Tidy pair initial (pair.advance state i) := by
  have theirs : pair.Drafted (!i) state.disk (state.stage !i) := tidy.drafts !i
  simp only [advance, now, Saving.step]
  obtain prepared | ⟨extended, unprepared⟩ := tidy.phase
  · rw [prepared i]
    exact tidy.next tidy.kept (.inl prepared) trivial theirs (of_no_draft rfl) (of_running rfl)
  · have further := Saving.extended_makeDirectories (pair.side i) state.disk
    have theirs (disk : Disk) := drafted_of_no_draft (unprepared !i).no_draft pair (!i) disk
    rcases call : (pair.side i).makeDirectories state.disk with ⟨fault | _, made⟩
    · rw [call] at further
      have impossible (j : Bool) : ¬(pair.side j).Possible initial := by
        intro possible
        obtain ⟨-, made', place, target, call', -⟩ := tidy.kept.possible j possible
        cases call.symm.trans call'
      exact tidy.next (.of_extended (extended.trans further) fun j possible => absurd possible (impossible j))
        (.inr ⟨extended.trans further, .inr ⟨_, rfl⟩, unprepared !i⟩) trivial (theirs made) (of_no_draft rfl)
        fun _ _ => impossible i
    · rw [call] at further
      have prepared (j : Bool) : (pair.side j).Prepared made := Saving.prepared_of_grown call (.refl made)
      refine tidy.next (.of_extended (extended.trans further) fun j possible => ?_) (.inl prepared) trivial (theirs made)
        (of_no_draft rfl) (of_running rfl)
      obtain ⟨sound, made', place, target, call', accepts⟩ := tidy.kept.possible j possible
      obtain rfl : made = made' := (Prod.mk.inj (call.symm.trans call')).2
      exact ⟨(Saving.extended_of_call call).grown.medium_eq.trans sound, made, place, target, prepared j, accepts⟩

/-- Making the draft. -/
theorem tidy_create (tidy : Tidy pair initial state) (now : state.stage i = .create)
    (no_draft : hasDraft (state.stage !i) = false) : Tidy pair initial (pair.advance state i) := by
  have prepared := tidy.prepared now (by simp) rfl
  have theirs (disk : Disk) := drafted_of_no_draft no_draft pair (!i) disk
  simp only [advance, now, step_create]
  obtain ⟨fault, opened⟩ | ⟨place, accepts, opened⟩ := Disk.openEmpty_cases pair.draft state.disk
  · rw [opened]
    refine tidy.next tidy.kept (.inl prepared) trivial (theirs _) (of_no_draft rfl) fun _ _ possible => ?_
    obtain ⟨-, place, target, accepts, -⟩ := (prepared i).possible_iff.mp (tidy.kept.possible i possible)
    cases opened.symm.trans (Disk.openEmpty_of_accepts accepts)
  · rw [opened]
    have same := Disk.SameDirectories.drafted accepts.no_directory accepts.ne_nil []
    have prepared' (j : Bool) := Saving.prepared_of_grown (prepared j) same.forth
    refine tidy.next (tidy.kept.of_same prepared same fun other => ?_) (.inl prepared') ?_ (theirs _)
      (fun _ => no_draft) (of_running rfl)
    · by_cases here : other = place
      · subst here
        exact .inr (.inl accepts)
      · exact .inl (Disk.entryAt?_drafted_ne here ..)
    · exact ⟨place, accepts.of_same same, Disk.placeOf?_drafted .., Disk.entryAt?_drafted_self accepts.ne_nil ..⟩

/-- Writing the draft. -/
theorem tidy_fill {handle : Handle} (tidy : Tidy pair initial state) (now : state.stage i = .fill handle) :
    Tidy pair initial (pair.advance state i) := by
  have prepared := tidy.prepared now (by simp) rfl
  have drafted := tidy.drafts i
  have no_draft := tidy.one_draft i
  rw [now] at drafted no_draft
  obtain ⟨place, accepts, open_there, there⟩ := drafted
  -- Whether all is written or a part, it becomes what the draft holds.
  have written (octets : List UInt8) : state.disk.overwrite handle octets = state.disk.put place (.file octets) := by
    simp [Disk.overwrite, open_there, there]
  have same (octets : List UInt8) : Disk.SameDirectories state.disk (state.disk.put place (.file octets)) :=
    Disk.sameDirectories_put there
  have prepared' (octets : List UInt8) (j : Bool) := Saving.prepared_of_grown (prepared j) (same octets).forth
  have kept (octets : List UInt8) : Kept pair initial (state.disk.put place (.file octets)) := by
    refine tidy.kept.of_same prepared (same octets) fun other => ?_
    by_cases here : other = place
    · subst here
      exact .inr (.inl accepts)
    · exact .inl (Disk.entryAt?_put_ne here ..)
  simp only [advance, now, step_fill]
  obtain ⟨taken, e, stops, call⟩ | ⟨-, call⟩ := Disk.write_cases handle (pair.content i) state.disk
  · rw [call, written]
    refine tidy.next (kept _) (.inl (prepared' _)) trivial (drafted_of_no_draft (no_draft rfl) ..) (of_no_draft rfl)
      fun _ _ possible => ?_
    rw [(tidy.kept.possible i possible).1] at stops
    cases stops
  · rw [call, written]
    exact tidy.next (kept _) (.inl (prepared' _))
      ⟨place, accepts.of_same (same _), Disk.entryAt?_put_self accepts.ne_nil ..⟩
      (drafted_of_no_draft (no_draft rfl) ..) (fun _ => no_draft rfl) (of_running rfl)

/-- Making sure of the draft. -/
theorem tidy_flush (tidy : Tidy pair initial state) (now : state.stage i = .flush) :
    Tidy pair initial (pair.advance state i) := by
  have prepared := tidy.prepared now (by simp) rfl
  have drafted := tidy.drafts i
  have no_draft := tidy.one_draft i
  rw [now] at drafted no_draft
  simp only [advance, now, step_flush]
  obtain ⟨e, loses, call⟩ | ⟨-, call⟩ := Disk.sync_cases state.disk
  · rw [call]
    refine tidy.next tidy.kept (.inl prepared) trivial (tidy.drafts !i) (of_no_draft rfl) fun _ _ possible => ?_
    rw [(tidy.kept.possible i possible).1] at loses
    cases loses
  · rw [call]
    exact tidy.next tidy.kept (.inl prepared) drafted (tidy.drafts !i) no_draft (of_running rfl)

/-- Giving the draft the name of the file. -/
theorem tidy_replace (tidy : Tidy pair initial state) (now : state.stage i = .replace) :
    Tidy pair initial (pair.advance state i) := by
  have prepared := tidy.prepared now (by simp) rfl
  have drafted := tidy.drafts i
  have no_draft := tidy.one_draft i
  rw [now] at drafted no_draft
  have theirs (disk : Disk) := drafted_of_no_draft (no_draft rfl) pair (!i) disk
  obtain ⟨place, accepts, there⟩ := drafted
  simp only [advance, now, step_replace]
  obtain ⟨fault, refused⟩ | ⟨source, target, content, accepts', there', accepted, renamed⟩ :=
    Disk.rename_cases pair.draft pair.path state.disk
  · rw [refused]
    refine tidy.next tidy.kept (.inl prepared) trivial (theirs _) (of_no_draft rfl) fun _ _ possible => ?_
    obtain ⟨-, place', target, accepts', accepted⟩ := (prepared i).possible_iff.mp (tidy.kept.possible i possible)
    cases refused.symm.trans (Disk.rename_of_accepts accepts there accepted)
  · rw [renamed]
    -- What is renamed is the draft that this save has written.
    obtain rfl := accepts.unique (.refl _) accepts'
    obtain rfl : pair.content i = content := by simpa [there] using there'
    have elsewhere : source ≠ target := Saving.place_ne (pair.side i) accepts accepted
    have same := Disk.SameDirectories.moveFile accepts.no_directory accepted elsewhere accepts.ne_nil (pair.content i)
    have prepared' (j : Bool) := Saving.prepared_of_grown (prepared j) same.forth
    refine tidy.next (tidy.kept.of_same prepared same fun other => ?_) (.inl prepared') trivial (theirs _)
      (of_no_draft rfl) nofun
    by_cases of_target : other = target
    · subst of_target
      exact .inr (.inr ⟨i, Disk.entryAt?_moveFile_self accepted.ne_nil ..⟩)
    · by_cases of_source : other = source
      · subst of_source
        exact .inr (.inl accepts)
      · exact .inl (Disk.entryAt?_moveFile_ne of_source of_target ..)

/-- **Each call keeps good order**, unless it makes a second draft. -/
theorem tidy_advance (tidy : Tidy pair initial state) (no_collision : state.collides i = false) :
    Tidy pair initial (pair.advance state i) := by
  cases now : state.stage i with
  | prepare => exact tidy_prepare tidy now
  | create =>
    refine tidy_create tidy now ?_
    rwa [State.collides, now, makesDraft, Bool.true_and] at no_collision
  | fill handle => exact tidy_fill tidy now
  | flush => exact tidy_flush tidy now
  | replace => exact tidy_replace tidy now
  | finished result => rwa [advance_of_finished now]

/-- **While the drafts are kept apart all is in good order**, after any number of calls. -/
theorem tidy_interleave (turns : List Bool) (tidy : Tidy pair initial state) (apart : pair.apart turns state = true) :
    Tidy pair initial (pair.interleave turns state) := by
  induction turns generalizing state with
  | nil => exact tidy
  | cons i turns ih =>
    rw [SavingPair.apart, Bool.and_eq_true, Bool.not_eq_true'] at apart
    exact ih (tidy_advance tidy apart.1) apart.2

/-! ## What a second draft does -/

/-- **Two saves whose drafts have met**: both have the one draft, or one has taken it from the other, or one has failed. -/
inductive Doomed (pair : SavingPair) (state : State) : Prop
  | together (drafts : ∀ i, hasDraft (state.stage i) = true)
  | taken (i : Bool) (place : Place) (last : hasDraft (state.stage i) = true)
    (ended : state.stage (!i) = .finished (.ok ())) (accepts : state.disk.Accepts pair.draft place)
    (gone : state.disk.entryAt? place = none) (nowhere : some place ∉ state.disk.opened)
  | lost (i : Bool) {failure : Failure} (failed : state.stage i = .finished (.error failure))

/-- A save that has a draft keeps it until it renames it, or fails. -/
theorem hasDraft_step (saving : Saving) (has : hasDraft stage = true) (not_last : stage ≠ .replace) (disk : Disk) :
    hasDraft (saving.step stage disk).1 = true ∨ ∃ failure, (saving.step stage disk).1 = .finished (.error failure) := by
  cases stage with
  | fill handle =>
    rw [Saving.step]
    obtain ⟨taken, e, -, call⟩ | ⟨-, call⟩ := Disk.write_cases handle saving.content disk
    · rw [call]
      exact .inr ⟨_, rfl⟩
    · rw [call]
      exact .inl rfl
  | flush =>
    rw [Saving.step]
    obtain ⟨e, -, call⟩ | ⟨-, call⟩ := Disk.sync_cases disk
    · rw [call]
      exact .inr ⟨_, rfl⟩
    · rw [call]
      exact .inl rfl
  | replace => exact absurd rfl not_last
  | prepare | create | finished => cases has

/-- The first of the two to rename the draft takes it from the other. -/
theorem doomed_replace (drafts : ∀ i, hasDraft (state.stage i) = true) (now : state.stage i = .replace) :
    Doomed pair (pair.advance state i) := by
  have mine := stage_advance pair state i
  have theirs := stage_advance_not pair state i
  have disk : (pair.advance state i).disk = ((pair.side i).step (state.stage i) state.disk).2 := rfl
  rw [now, step_replace] at mine disk
  obtain ⟨fault, refused⟩ | ⟨source, target, content, accepts, there, accepted, renamed⟩ :=
    Disk.rename_cases pair.draft pair.path state.disk
  · rw [refused] at mine
    exact .lost i mine
  · rw [renamed] at mine disk
    have elsewhere : source ≠ target := Saving.place_ne (pair.side i) accepts accepted
    have same := Disk.SameDirectories.moveFile accepts.no_directory accepted elsewhere accepts.ne_nil content
    refine .taken (!i) source ?_ ?_ ?_ ?_ ?_
    · rw [theirs]
      exact drafts !i
    · rw [Bool.not_not]
      exact mine
    · rw [disk]
      exact accepts.of_same same
    · rw [disk]
      exact Disk.entryAt?_moveFile_source accepts.ne_nil elsewhere ..
    · rw [disk]
      exact Disk.not_mem_opened_moveFile elsewhere content state.disk

/-- Whoever comes second finds nothing to rename. -/
theorem doomed_of_taken {place : Place} (last : hasDraft (state.stage i) = true)
    (ended : state.stage (!i) = .finished (.ok ())) (accepts : state.disk.Accepts pair.draft place)
    (gone : state.disk.entryAt? place = none) (nowhere : some place ∉ state.disk.opened) :
    Doomed pair (pair.advance state i) := by
  have mine := stage_advance pair state i
  have theirs := (stage_advance_not pair state i).trans ended
  have disk : (pair.advance state i).disk = ((pair.side i).step (state.stage i) state.disk).2 := rfl
  cases now : state.stage i with
  | prepare | create | finished =>
    rw [now] at last
    cases last
  | fill handle =>
    rw [now, step_fill] at mine disk
    obtain ⟨taken, e, -, call⟩ | ⟨-, call⟩ := Disk.write_cases handle (pair.content i) state.disk
    · rw [call] at mine
      exact .lost i mine
    rw [call] at mine disk
    dsimp only [Saving.proceed] at mine disk
    have last' : hasDraft ((pair.advance state i).stage i) = true := by rw [mine]; rfl
    obtain unchanged | ⟨other, old, open_there, there, written⟩ :=
      Disk.overwrite_cases handle (pair.content i) state.disk
    · exact .taken i place last' theirs (by rwa [disk, unchanged])
        (by rwa [disk, unchanged])
        (by rwa [disk, unchanged])
    · rw [written] at disk
      have elsewhere : place ≠ other := by
        rintro rfl
        exact nowhere (Disk.mem_opened_of_placeOf? open_there)
      refine .taken i place last' theirs ?_ ?_ ?_
      · rw [disk]
        exact accepts.of_same (Disk.sameDirectories_put there)
      · rw [disk, Disk.entryAt?_put_ne elsewhere]
        exact gone
      · rw [disk]
        exact nowhere
  | flush =>
    rw [now, step_flush] at mine disk
    obtain ⟨e, -, call⟩ | ⟨-, call⟩ := Disk.sync_cases state.disk
    · rw [call] at mine
      exact .lost i mine
    · rw [call] at mine disk
      dsimp only [Saving.proceed] at mine disk
      exact .taken i place (by rw [mine]; rfl) theirs (by rwa [disk]) (by rwa [disk]) (by rwa [disk])
  | replace =>
    rw [now, step_replace] at mine
    obtain ⟨fault, refused⟩ | ⟨source, target, content, accepts', there, -, -⟩ :=
      Disk.rename_cases pair.draft pair.path state.disk
    · rw [refused] at mine
      exact .lost i mine
    · obtain rfl := accepts.unique (.refl _) accepts'
      cases gone.symm.trans there

/-- **Drafts that have met cannot be told apart again.** -/
theorem doomed_advance (doomed : Doomed pair state) (i : Bool) : Doomed pair (pair.advance state i) := by
  cases doomed with
  | together drafts =>
    by_cases last : state.stage i = .replace
    · exact doomed_replace drafts last
    obtain has | ⟨failure, failed⟩ := hasDraft_step (pair.side i) (drafts i) last state.disk
    · refine .together fun j => ?_
      by_cases same : j = i
      · subst same
        rw [stage_advance]
        exact has
      · obtain rfl : j = !i := Bool.eq_not.mpr same
        rw [stage_advance_not]
        exact drafts !i
    · exact .lost i ((stage_advance ..).trans failed)
  | taken j place last ended accepts gone nowhere =>
    by_cases same : i = j
    · subst same
      exact doomed_of_taken last ended accepts gone nowhere
    · obtain rfl : i = !j := Bool.eq_not.mpr same
      rw [advance_of_finished ended]
      exact .taken j place last ended accepts gone nowhere
  | lost j failed =>
    by_cases same : i = j
    · subst same
      rw [advance_of_finished failed]
      exact .lost i failed
    · obtain rfl : j = !i := Bool.eq_not.mpr (Ne.symm same)
      exact .lost (!i) ((stage_advance_not ..).trans failed)

theorem doomed_of_collides (collision : state.collides i = true) : Doomed pair (pair.advance state i) := by
  obtain ⟨makes, theirs⟩ := Bool.and_eq_true_iff.mp collision
  have mine := stage_advance pair state i
  cases now : state.stage i with
  | create =>
    rw [now, step_create] at mine
    obtain ⟨fault, opened⟩ | ⟨place, accepts, opened⟩ := Disk.openEmpty_cases pair.draft state.disk
    · rw [opened] at mine
      exact .lost i mine
    · rw [opened] at mine
      refine .together fun j => ?_
      by_cases same : j = i
      · subst same
        rw [mine]
        rfl
      · obtain rfl : j = !i := Bool.eq_not.mpr same
        rw [stage_advance_not]
        exact theirs
  | prepare | fill | flush | replace | finished =>
    rw [now] at makes
    cases makes

theorem doomed_interleave (doomed : Doomed pair state) (turns : List Bool) : Doomed pair (pair.interleave turns state) := by
  induction turns generalizing state with
  | nil => exact doomed
  | cons i turns ih => exact ih (doomed_advance doomed i)

/-- **Drafts that were not kept apart have met.** -/
theorem doomed_of_not_apart {turns : List Bool} (met : pair.apart turns state = false) :
    Doomed pair (pair.interleave turns state) := by
  induction turns generalizing state with
  | nil => cases met
  | cons i turns ih =>
    rw [SavingPair.apart, Bool.and_eq_false_iff, Bool.not_eq_false'] at met
    obtain collision | later := met
    · exact doomed_interleave (doomed_of_collides collision) turns
    · exact ih later

/-- When both have ended, one has failed. -/
theorem Doomed.exists_failed (doomed : Doomed pair state) {results : Bool → Except Failure Unit}
    (ended : ∀ i, state.stage i = .finished (results i)) : ∃ i failure, results i = .error failure := by
  cases doomed with
  | together drafts =>
    have has := drafts true
    rw [ended true] at has
    cases has
  | taken i place last =>
    rw [ended i] at last
    cases last
  | lost i failed =>
    exact ⟨i, _, SaveStage.finished.inj ((ended i).symm.trans failed)⟩

/-! ## What the path holds -/

/-- **What is at the place of the file** when all is in good order: what was there, or one of the two new files, whole. Only
a path with two dots can also name a directory that was made for it. -/
theorem Kept.at_file (kept : Kept pair initial disk) {directory : Place} {name : Text} {slash : Bool}
    (led : disk.locate pair.path = .ok (.name directory name slash)) :
    disk.entryAt? (name :: directory) = initial.entryAt? (name :: directory) ∨
      (∃ i, disk.entryAt? (name :: directory) = some (.file (pair.content i))) ∨
      Path.above ∈ pair.path.names ∧ initial.entryAt? (name :: directory) = none ∧
        disk.entryAt? (name :: directory) = some .directory := by
  obtain was | ⟨vacant, made, other, above, ending, slash', upward, led', here⟩ | draft | whole :=
    kept.accounted (name :: directory)
  · exact .inl was
  · refine .inr (.inr ⟨?_, vacant, made⟩)
    -- Without two dots a directory above the file is no longer than what is above it.
    by_contra no_ascent
    have suffix := Saving.suffix_of_above no_ascent upward led'
    rw [← here, Disk.place_of_locate no_ascent led] at suffix
    have shorter := suffix.length_le
    rw [← Disk.place_of_locate no_ascent led, List.length_tail, List.length_cons] at shorter
    omega
  · obtain ⟨directory', name', led', -, here, -⟩ := draft
    exact absurd here.symm ((pair.side true).draft_ne led' led)
  · exact .inr (.inl whole)

end SavingPair

/-- **Two saves at once are in good order just if their drafts are kept apart.**

If no draft is made while the other save has one, then at every time the path holds what it held before or one of the new
files, whole; and a save that would succeed alone does not fail. If a draft is made while the other save has one, the two do
not both succeed. -/
theorem Settings.concurrent_saves_in_order {settings : Bool → Settings} (valid : ∀ i, (settings i).Valid) (path : Path)
    (disk : Disk) (turns : List Bool) :
    let pair : SavingPair := ⟨path, fun i => (settings i).fileContent⟩
    let state := pair.interleave turns (SavingPair.begun disk)
    let apart := pair.apart turns (SavingPair.begun disk)
    (apart = true → ∀ directory name slash, state.disk.locate path = .ok (.name directory name slash) →
      state.disk.entryAt? (name :: directory) = disk.entryAt? (name :: directory) ∨
        (∃ i, state.disk.entryAt? (name :: directory) = some (.file (settings i).fileContent)) ∨
        Path.above ∈ path.names ∧ disk.entryAt? (name :: directory) = none ∧
          state.disk.entryAt? (name :: directory) = some .directory) ∧
    (apart = true → ∀ i result, state.stage i = .finished result → ((settings i).save path disk).1 = .ok () →
      result = .ok ()) ∧
    (apart = false → ∀ results : Bool → Except Failure Unit, (∀ i, state.stage i = .finished (results i)) →
      ∃ i failure, results i = .error failure) := by
  intro pair state apart
  refine ⟨fun is_apart directory name slash led => ?_, fun is_apart i result ended alone => ?_,
    fun met results ended => (SavingPair.doomed_of_not_apart met).exists_failed ended⟩
  · have tidy := SavingPair.tidy_interleave turns (SavingPair.tidy_begun pair disk) is_apart
    exact tidy.kept.at_file led
  · have tidy := SavingPair.tidy_interleave turns (SavingPair.tidy_begun pair disk) is_apart
    rw [save_of_valid (valid i)] at alone
    cases result with
    | ok _ => rfl
    | error failure => exact absurd (Saving.succeeds_iff.mp alone) (tidy.failed i failure ended)

/-- Both make the directory of the file before either makes its draft; the second to rename its draft has the last word. -/
theorem Settings.saves_in_good_order :
    let settings : Bool → Settings := fun i => if i then default else { default with host := "localhost" }
    let path : Path := "d/c.json".toList
    let pair : SavingPair := ⟨path, fun i => (settings i).fileContent⟩
    let turns := [true, false, false, false, false, false, true, true, true, true]
    let state := pair.interleave turns (SavingPair.begun (.empty []))
    (∀ i, (settings i).Valid) ∧ pair.apart turns (SavingPair.begun (.empty [])) = true ∧
      (∀ i result, state.stage i = .finished result → result = .ok ()) ∧
      state.disk.find path = .ok (["c.json".toList, "d".toList], .file default.fileContent) := by
  intro settings path pair turns state
  have valid : ∀ i, (settings i).Valid := by decide
  have apart : pair.apart turns (SavingPair.begun (.empty [])) = true := by decide +kernel
  have alone : ∀ i, ((settings i).save path (.empty [])).1 = .ok () := by decide +kernel
  obtain ⟨-, succeed, -⟩ := concurrent_saves_in_order valid path (.empty []) turns
  exact ⟨valid, apart, fun i result ended => succeed apart i result ended (alone i), by decide +kernel⟩

/-- **A save can lose its draft to another, and the file can be torn.** Both saves would succeed alone.

If one stands before its last call while the other makes all of its own, the draft is gone, and the last call fails. If it
stands before it has written its draft, it writes over the file that the other has left: what remains there is no JSON. -/
theorem Settings.file_torn_by_second_save :
    let settings : Bool → Settings := fun i => if i then default else { default with host := "localhost.localdomain" }
    let path : Path := "c.json".toList
    let pair : SavingPair := ⟨path, fun i => (settings i).fileContent⟩
    let overtaken := pair.interleave [true, true, true, true, false, false, false, false, false]
      (SavingPair.begun (.empty []))
    let torn := pair.interleave [true, true, false, false, false, false, false, true, true, true]
      (SavingPair.begun (.empty []))
    let lost : Except Failure Unit :=
      .error (.settings "Failed to rename config file: No such file or directory (os error 2)")
    ((∀ i, (settings i).Valid) ∧ ∀ i, ((settings i).save path (.empty [])).1 = .ok ()) ∧
    (overtaken.disk.entryAt? ["c.json.tmp".toList] = none ∧
      Saving.result? ((pair.advance overtaken true).stage true) = some lost) ∧
    (∃ content, torn.disk.entryAt? ["c.json".toList] = some (.file content) ∧ (∀ i, content ≠ (settings i).fileContent) ∧
      Saving.result? (torn.stage true) = some lost ∧
      load path torn.disk = .error (.settings "Failed to parse config: ...")) := by
  intro settings path pair overtaken torn lost
  refine ⟨⟨by decide, by decide +kernel⟩, ⟨by decide +kernel, by decide +kernel⟩, ?_⟩
  refine ⟨default.fileContent ++ (settings false).fileContent.drop default.fileContent.length, ?_, ?_, ?_, ?_⟩
  · decide +kernel
  · decide +kernel
  · decide +kernel
  · decide +kernel

end PortRelease
