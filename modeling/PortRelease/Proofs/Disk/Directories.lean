import PortRelease.Proofs.Disk.Calls
/-!
# Disks with the same directories

Where paths lead depends on the directories of a disk and on nothing else, so files can come and go without leading a path
elsewhere (`SameDirectories`). On such disks opening and renaming are decided alike: a path that accepts a file accepts it
(`Accepts.of_same`), and then the calls succeed (`openEmpty_of_accepts`, `rename_of_accepts`).

Directories that were made are there, and making them again changes nothing (`makeDirectories_again`).
-/

namespace PortRelease.Disk

variable {a b c disk made after : Disk} {place other : Place} {path : Path}

/-! ## The same directories -/

/-- Two disks have the same directories and the same current one, and are on the same medium. -/
structure SameDirectories (a b : Disk) : Prop where
  forth : Grown a b
  back : Grown b a

namespace SameDirectories

theorem refl (disk : Disk) : SameDirectories disk disk := ⟨.refl disk, .refl disk⟩

theorem symm (same : SameDirectories a b) : SameDirectories b a := ⟨same.back, same.forth⟩

theorem trans (first : SameDirectories a b) (second : SameDirectories b c) : SameDirectories a c :=
  ⟨first.forth.trans second.forth, second.back.trans first.back⟩

/-- A change at one place keeps the directories, if there was none and is none. -/
theorem of_ne (here_eq : b.here = a.here) (medium_eq : b.medium = a.medium)
    (was : a.entryAt? place ≠ some .directory) (becomes : b.entryAt? place ≠ some .directory) (same : ∀ other, other ≠ place → b.entryAt? other = a.entryAt? other) :
    SameDirectories a b :=
  ⟨.of_ne here_eq medium_eq was same, .of_ne here_eq.symm medium_eq.symm becomes fun other elsewhere => (same other elsewhere).symm⟩

theorem drafted (no_directory : disk.entryAt? place ≠ some .directory) (some_name : place ≠ [])
    (content : List UInt8) : SameDirectories disk (disk.drafted place content) := by
  refine .of_ne rfl rfl no_directory ?_ fun _ elsewhere => entryAt?_drafted_ne elsewhere content disk
  rw [entryAt?_drafted_self some_name]
  exact nofun

end SameDirectories

/-- A path accepts a file on every disk with the same directories. -/
theorem Accepts.of_same (same : SameDirectories a b) (accepts : Accepts a path place) : Accepts b path place := by
  obtain ⟨directory, name, led, fitting, here, free⟩ := accepts
  exact ⟨directory, name, locate_of_grown same.forth led, fitting, here, fun taken => free (same.back.kept _ taken)⟩

theorem SameDirectories.moveFile {source : Place} (was : disk.entryAt? source ≠ some .directory)
    (target : Accepts disk path place) (elsewhere : source ≠ place) (some_name : source ≠ []) (content : List UInt8) :
    SameDirectories disk (disk.moveFile source place content) where
  forth := grown_moveFile was target.no_directory content
  back := by
    refine ⟨rfl, rfl, fun other directory => ?_⟩
    by_cases of_source : other = source
    · subst of_source
      rw [entryAt?_moveFile_source some_name elsewhere] at directory
      cases directory
    · by_cases of_target : other = place
      · subst of_target
        rw [entryAt?_moveFile_self target.ne_nil] at directory
        cases directory
      · rwa [entryAt?_moveFile_ne of_source of_target] at directory

/-- A file that was moved away is not open where it was. -/
theorem not_mem_opened_moveFile {source : Place} (elsewhere : source ≠ place) (content : List UInt8) (disk : Disk) :
    some source ∉ (disk.moveFile source place content).opened := by
  intro mem
  obtain ⟨was, -, becomes⟩ := List.mem_map.mp mem
  split at becomes
  next => exact elsewhere (Option.some.inj becomes).symm
  next not_source =>
    split at becomes
    next => cases becomes
    next => exact not_source becomes

/-! ## Calls that succeed -/

theorem openEmpty_of_accepts (accepts : Accepts disk path place) :
    disk.openEmpty path = (.ok disk.opened.length, disk.drafted place []) := by
  obtain ⟨directory, name, led, fitting, rfl, free⟩ := accepts
  simp [openEmpty, led, fitting, free, drafted]

theorem rename_of_accepts {source : Path} {target : Place} {content : List UInt8} (accepts : Accepts disk source place)
    (there : disk.entryAt? place = some (.file content)) (accepts' : Accepts disk path target) :
    disk.rename source path = (.ok (), disk.moveFile place target content) := by
  obtain ⟨directory, name, led, fitting, rfl, -⟩ := accepts
  obtain ⟨directory', name', led', fitting', rfl, free⟩ := accepts'
  simp [rename, led, led', fitting, fitting', there, free]

/-! ## Writing -/

/-- **What octets at the beginning of an open file can be**: nothing that anyone can tell, or another content of the
file. -/
theorem overwrite_cases (handle : Handle) (octets : List UInt8) (disk : Disk) :
    disk.overwrite handle octets = disk ∨
      ∃ place old, disk.placeOf? handle = some place ∧ disk.entryAt? place = some (.file old) ∧
        disk.overwrite handle octets = disk.put place (.file (octets ++ old.drop octets.length)) := by
  fun_cases overwrite handle octets disk with
  | case2 place open_there old there => exact .inr ⟨place, old, open_there, there, rfl⟩
  | _ => exact .inl rfl

theorem mem_opened_of_placeOf? {handle : Handle} (open_there : disk.placeOf? handle = some place) :
    some place ∈ disk.opened := by
  rw [placeOf?, Option.join_eq_some_iff] at open_there
  exact List.mem_of_getElem? open_there

theorem sameDirectories_put {old new : List UInt8} (there : disk.entryAt? place = some (.file old)) :
    SameDirectories disk (disk.put place (.file new)) := by
  have some_name : place ≠ [] := by
    rintro rfl
    cases there
  refine .of_ne rfl rfl ?_ ?_ fun _ elsewhere => entryAt?_put_ne elsewhere _ disk
  · rw [there]
    exact nofun
  · rw [entryAt?_put_self some_name]
    exact nofun

/-! ## Directories that are there -/

theorem hasDirectory_iff : disk.hasDirectory path = true ↔ ∃ place, disk.find path = .ok (place, .directory) := by
  unfold hasDirectory
  split
  next found => simp [found]
  next other => simpa using fun place found => other place found

theorem hasDirectory_of_grown (grown : Grown a b) (there : a.hasDirectory path = true) : b.hasDirectory path = true := by
  rw [hasDirectory_iff] at there ⊢
  obtain ⟨place, found⟩ := there
  unfold find at found ⊢
  cases located : a.locate path with
  | error fault =>
    rw [located] at found
    cases found
  | ok target =>
    rw [located] at found
    rw [locate_of_grown grown located]
    cases target with
    | directory place' => exact ⟨place', rfl⟩
    | name directory name slash =>
      dsimp only at found ⊢
      split at found
      next => cases found
      next fitting =>
        rw [if_neg fitting]
        cases entry : a.entryAt? (name :: directory) with
        | none =>
          rw [entry] at found
          cases found
        | some what =>
          cases what with
          | directory => exact ⟨_, by rw [grown.kept _ entry]⟩
          | file content =>
            rw [entry] at found
            dsimp only at found
            split at found <;> cases found

theorem hasDirectory_of_made (call : disk.makeDirectory path = (.ok (), made)) : made.hasDirectory path = true := by
  unfold makeDirectory at call
  split at call
  next => cases call
  next => cases call
  next directory name slash located =>
    split at call
    next => cases call
    next fitting =>
      split at call
      next => cases call
      next free =>
        obtain rfl : disk.put (name :: directory) .directory = made := (Prod.mk.inj call).2
        have vacant : disk.entryAt? (name :: directory) = none := by simpa using free
        have grown : Grown disk (disk.put (name :: directory) .directory) := by
          refine .of_ne rfl rfl ?_ fun _ elsewhere => entryAt?_put_ne elsewhere ..
          rw [vacant]
          exact nofun
        rw [hasDirectory_iff]
        refine ⟨name :: directory, ?_⟩
        simp [find, locate_of_grown grown located, fitting, entryAt?_put_self]

theorem hasDirectory_of_ensured (call : disk.ensureDirectory path = (.ok (), made)) : made.hasDirectory path = true := by
  unfold ensureDirectory at call
  split at call
  next made' first =>
    obtain rfl : made' = made := (Prod.mk.inj call).2
    exact hasDirectory_of_made first
  next fault made' first =>
    split at call
    next there =>
      obtain rfl : made' = made := (Prod.mk.inj call).2
      exact there
    next => cases call

/-- Directories that were made are there. -/
theorem hasDirectory_of_makeDirectories (call : disk.makeDirectories path = (.ok (), made)) :
    path = [] ∨ made.hasDirectory path = true := by
  revert call
  fun_cases makeDirectories path disk with
  | case1 empty => exact fun _ => .inl (by simpa using empty)
  | case2 some_char made' first =>
    rintro ⟨⟩
    exact .inr (hasDirectory_of_ensured first)
  | case4 some_char between first parent above made' parents =>
    exact fun last => .inr (hasDirectory_of_ensured last)
  | case3 | case5 | case6 => exact nofun

/-- A directory that is there is not made again. -/
theorem ensureDirectory_of_hasDirectory (there : disk.hasDirectory path = true) :
    disk.ensureDirectory path = (.ok (), disk) := by
  have untouched : (disk.makeDirectory path).2 = disk := by
    obtain ⟨place, found⟩ := hasDirectory_iff.mp there
    unfold find at found
    unfold makeDirectory
    split
    next => rfl
    next => rfl
    next directory name slash located =>
      rw [located] at found
      dsimp only at found
      split
      next => rfl
      next fitting =>
        rw [if_neg fitting] at found
        cases entry : disk.entryAt? (name :: directory) with
        | none =>
          rw [entry] at found
          cases found
        | some what => rfl
  unfold ensureDirectory
  split
  next made call =>
    rw [call] at untouched
    obtain rfl : made = disk := untouched
    rfl
  next fault made call =>
    rw [call] at untouched
    obtain rfl : made = disk := untouched
    rw [if_pos there]

/-- **Making directories again changes nothing**, also on a disk that has grown since. -/
theorem makeDirectories_again (call : disk.makeDirectories path = (.ok (), made)) (grown : Grown made after) :
    after.makeDirectories path = (.ok (), after) := by
  obtain rfl | there := hasDirectory_of_makeDirectories call
  · rw [makeDirectories, if_pos List.isEmpty_nil]
  · rw [makeDirectories, ensureDirectory_of_hasDirectory (hasDirectory_of_grown grown there), ite_self]

end PortRelease.Disk
