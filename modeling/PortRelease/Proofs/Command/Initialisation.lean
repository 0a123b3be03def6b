import PortRelease.Proofs.Command.Effects
import PortRelease.Proofs.Settings.Possible
import PortRelease.Proofs.Settings.RoundTrip
/-!
# Writing the settings file

What a run prints and does to the world depends on the disk in two ways only: on the settings that are loaded, and, where
they are written, on whether that succeeds (`runLine_congr`). Writing the settings that were loaded changes neither, so no
later run can tell that it has happened (`initialisation_goes_unnoticed`), and writing them again changes no file.
-/

namespace PortRelease

variable {environment : Environment} {path : Path} {settings : Settings} {words : List Text} {json verbose : Bool}
  {disk disk' after : Disk} {machine : Machine}

/-! ## What a run has of the disk -/

/-- Two disks on which a run cannot be told apart by what it prints and does to the world. -/
structure Environment.Alike (environment : Environment) (disk disk' : Disk) : Prop where
  loads : ∀ path, environment.settingsPath = .ok path → Settings.load path disk' = Settings.load path disk
  saves : ∀ path settings, environment.settingsPath = .ok path → Settings.load path disk = .ok settings →
    (settings.save path disk').1 = (settings.save path disk).1

/-- Showing the settings looks at the disk only to save them. -/
theorem Command.runConfig_congr (saves : (settings.save path disk').1 = (settings.save path disk).1) (init json : Bool) :
    (runConfig path settings init json disk').1 = (runConfig path settings init json disk).1 := by
  cases init with
  | false => rfl
  | true =>
    simp only [runConfig, if_true]
    rcases kept : settings.save path disk with ⟨result, after⟩
    rcases kept' : settings.save path disk' with ⟨result', after'⟩
    rw [kept, kept'] at saves
    obtain rfl : result' = result := saves
    cases result' with
    | ok _ => rfl
    | error failure => rfl

theorem Command.run_congr (saves : (settings.save path disk').1 = (settings.save path disk).1) (command : Command)
    (json : Bool) (now : Int) (world : World) :
    (command.run path settings json now ⟨world, disk'⟩).1 = (command.run path settings json now ⟨world, disk⟩).1 ∧
      (command.run path settings json now ⟨world, disk'⟩).2.world =
        (command.run path settings json now ⟨world, disk⟩).2.world := by
  cases command with
  | config init => exact ⟨runConfig_congr saves init json, rfl⟩
  | _ => exact ⟨rfl, rfl⟩

/-- **A command line prints the same and does the same to the world on disks that are alike.** -/
theorem runLine_congr (alike : environment.Alike disk disk') (words : List Text) (now : Int) (world : World) :
    (runLine words environment now ⟨world, disk'⟩).1 = (runLine words environment now ⟨world, disk⟩).1 ∧
      (runLine words environment now ⟨world, disk'⟩).2.world = (runLine words environment now ⟨world, disk⟩).2.world := by
  unfold runLine
  cases Invocation.read words with
  | error halt => exact ⟨rfl, rfl⟩
  | ok invocation =>
    simp only [Invocation.run]
    cases led : environment.settingsPath with
    | error failure => exact ⟨rfl, rfl⟩
    | ok path =>
      simp only [alike.loads path led]
      cases loaded : Settings.load path disk with
      | error failure => exact ⟨rfl, rfl⟩
      | ok settings => exact Command.run_congr (alike.saves path settings led loaded) ..

/-! ## Writing -/

/-- A run that writes the settings, where it can. -/
theorem runLine_init (machine : Machine) (asked : Invocation.read words = .ok ⟨.config true, json, verbose⟩)
    (led : environment.settingsPath = .ok path) (loaded : Settings.load path machine.disk = .ok settings)
    (saved : settings.save path machine.disk = (.ok (), after)) (now : Int) :
    (runLine words environment now machine).1.exit = 0 ∧
      (runLine words environment now machine).2 = ⟨machine.world, after⟩ := by
  rw [runLine_of_read asked]
  simp only [Invocation.run, led, loaded, Command.run, Command.runConfig, saved, if_true]
  cases json with
  | false => exact ⟨rfl, trivial⟩
  | true => exact ⟨rfl, trivial⟩

/-- **Only such a run succeeds.** -/
theorem exists_saved_of_init {now : Int} (asked : Invocation.read words = .ok ⟨.config true, json, verbose⟩)
    (succeeded : (runLine words environment now machine).1.exit = 0) :
    ∃ path settings after, environment.settingsPath = .ok path ∧ Settings.load path machine.disk = .ok settings ∧
      settings.save path machine.disk = (.ok (), after) := by
  rw [runLine_of_read asked] at succeeded
  cases loads : environment.settingsPath.bind fun path => Settings.load path machine.disk with
  | error failure =>
    obtain ⟨failed, -⟩ := Invocation.run_of_unloaded ⟨.config true, json, verbose⟩ now loads
    cases failed.symm.trans succeeded
  | ok settings =>
    obtain ⟨path, led, loaded, runs⟩ := Invocation.run_of_loaded ⟨.config true, json, verbose⟩ now loads
    simp only [runs, Command.run, Command.runConfig, if_true] at succeeded
    rcases saved : settings.save path machine.disk with ⟨failure | _, after⟩
    · rw [saved] at succeeded
      cases succeeded
    · exact ⟨path, settings, after, led, loaded, saved⟩

/-- **Loaded settings that were saved are loaded and saved again**, and that changes no file. -/
theorem Settings.save_again (loaded : load path disk = .ok settings) (saved : settings.save path disk = (.ok (), after)) :
    load path after = .ok settings ∧
      ∃ again, settings.save path after = (.ok (), again) ∧ ∀ place, again.entryAt? place = after.entryAt? place := by
  have valid := valid_of_load loaded
  rw [save_of_valid valid] at saved
  obtain ⟨place, found⟩ := Saving.find_of_run saved
  refine ⟨load_of_find valid found, ?_⟩
  rw [save_of_valid valid]
  exact Saving.run_again saved

/-- What was loaded and then saved leaves a disk that is alike. -/
theorem Environment.alike_of_saved (led : environment.settingsPath = .ok path)
    (loaded : Settings.load path disk = .ok settings) (saved : settings.save path disk = (.ok (), after)) :
    environment.Alike disk after := by
  obtain ⟨loaded', again, saved', -⟩ := Settings.save_again loaded saved
  constructor
  · intro other led'
    obtain rfl : path = other := Except.ok.inj (led.symm.trans led')
    rw [loaded, loaded']
  · intro other settings' led' loaded''
    obtain rfl : path = other := Except.ok.inj (led.symm.trans led')
    obtain rfl : settings = settings' := Except.ok.inj (loaded.symm.trans loaded'')
    rw [saved, saved']

/-- **Writing the settings file changes nothing but files.** The world is what it was; every command line prints the same
afterwards as it would have before, and does the same to whatever world it meets; and writing the file a second time
succeeds and leaves every file and directory as the first time has left it. -/
theorem initialisation_goes_unnoticed {now : Int} (asked : Invocation.read words = .ok ⟨.config true, json, verbose⟩)
    (succeeded : (runLine words environment now machine).1.exit = 0) :
    let after := (runLine words environment now machine).2
    after.world = machine.world ∧
    (∀ later now' world,
      let fresh := runLine later environment now' ⟨world, machine.disk⟩
      let initialised := runLine later environment now' ⟨world, after.disk⟩
      initialised.1 = fresh.1 ∧ initialised.2.world = fresh.2.world) ∧
    ∀ again json' verbose' now' world, Invocation.read again = .ok ⟨.config true, json', verbose'⟩ →
      let second := runLine again environment now' ⟨world, after.disk⟩
      second.1.exit = 0 ∧ ∀ place, second.2.disk.entryAt? place = after.disk.entryAt? place := by
  obtain ⟨path, settings, disk, led, loaded, saved⟩ := exists_saved_of_init asked succeeded
  obtain ⟨-, ran⟩ := runLine_init machine asked led loaded saved now
  intro after
  have stands : after = ⟨machine.world, disk⟩ := ran
  clear_value after
  subst stands
  refine ⟨rfl, runLine_congr (Environment.alike_of_saved led loaded saved), ?_⟩
  intro again json' verbose' now' world asked'
  obtain ⟨loaded', disk', saved', same⟩ := Settings.save_again loaded saved
  obtain ⟨exit, ran'⟩ := runLine_init ⟨world, disk⟩ asked' led loaded' saved' now'
  refine ⟨exit, fun place => ?_⟩
  rw [ran']
  exact same place

/-- A file that gives one setting in an array, beside an old draft and another file: what the settings are afterwards, and
that the file is kept. -/
theorem array_rewritten_as_record :
    let words : List Text := ["config".toList, "--init".toList]
    let environment : Environment := ⟨some "c.json".toList, none⟩
    let old : Disk := ⟨[(["c.json".toList], .file (Utf8.encode " [7]".toList)), (["c.json.tmp".toList], .file []),
      (["other".toList], .file [1])], [], [], .sound⟩
    let world : World := ⟨[], [], [], [], 0, [], []⟩
    let settings : Settings := { Settings.default with pollInterval := 7 }
    let after := (runLine words environment 0 ⟨world, old⟩).2
    Invocation.read words = .ok ⟨.config true, false, false⟩ ∧
    (runLine words environment 0 ⟨world, old⟩).1.exit = 0 ∧
    after.disk.entryAt? ["c.json".toList] = some (.file settings.fileContent) ∧
    (runLine ["config".toList] environment 0 ⟨world, after.disk⟩).1 =
      Command.settingsPrinted "c.json".toList settings false ∧
    (runLine words environment 0 ⟨world, after.disk⟩).1.exit = 0 ∧
    (runLine words environment 0 ⟨world, after.disk⟩).2.disk.entryAt? ["c.json".toList] =
      some (.file settings.fileContent) := by
  intro words environment old world settings after
  have asked : Invocation.read words = .ok ⟨.config true, false, false⟩ := by decide +kernel
  have succeeded : (runLine words environment 0 ⟨world, old⟩).1.exit = 0 := by decide +kernel
  have written : after.disk.entryAt? ["c.json".toList] = some (.file settings.fileContent) := by decide +kernel
  have before : (runLine ["config".toList] environment 0 ⟨world, old⟩).1 =
      Command.settingsPrinted "c.json".toList settings false := by
    decide +kernel
  obtain ⟨-, unnoticed, again⟩ := initialisation_goes_unnoticed asked succeeded
  obtain ⟨exit, same⟩ := again words false false 0 world asked
  exact ⟨asked, succeeded, written, (unnoticed ["config".toList] 0 world).1.trans before, exit, (same _).trans written⟩

end PortRelease
