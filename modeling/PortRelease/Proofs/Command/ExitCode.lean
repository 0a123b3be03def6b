import PortRelease.Proofs.Command.Effects
import PortRelease.Proofs.Command.Flags
/-!
# What the exit code says

A command has one operation of its own (`Command.Succeeds`), and its exit code says whether that succeeded: 0 if it did, else
1. An error is reported only with the second, and then nothing is printed as a result. `Printed.Tells` says this of what a
command prints, and each command is shown to print so; listening, which never succeeds, prints a greeting before its error.

Whether results are printed as JSON and whether more is logged is looked at only to print. So the flags change neither the
exit code nor anything that a run does.

* `exit_code_tells_success`: all of this for whole runs.
* `runLine_flagged`: the flags in front of a line.
-/

namespace PortRelease

variable {settings : Settings} {command : Command} {path : Path} {now : Int} {machine : Machine} {w : World}
  {succeeds : Prop}

/-! ## Errors in what is printed -/

/-- An error is reported. -/
def Printed.Complains (printed : Printed) : Prop := "Error: ".toList <+: printed.stderr.toList

/-- **What is printed tells whether something succeeded.** -/
structure Printed.Tells (succeeds : Prop) (printed : Printed) : Prop where
  exit_iff : printed.exit = 0 ↔ succeeds
  /-- A code that is not 0 is 1. -/
  exit_le : printed.exit ≤ 1
  /-- Where an error is reported there are no results. -/
  alone : printed.Complains → printed.exit = 1 ∧ printed.stdout = ""

namespace Printed

theorem not_complains_of_head {printed : Printed} (differs : printed.stderr.toList.head? ≠ some 'E') :
    ¬ printed.Complains := by
  rintro ⟨rest, starts⟩
  rw [← starts] at differs
  exact differs rfl

namespace Tells

theorem of_success {printed : Printed} (succeeded : succeeds) (exit : printed.exit = 0) (quiet : ¬ printed.Complains) :
    Tells succeeds printed where
  exit_iff := ⟨fun _ => succeeded, fun _ => exit⟩
  exit_le := exit.le.trans (Nat.zero_le 1)
  alone := fun complains => absurd complains quiet

theorem of_failure {printed : Printed} (failed : ¬ succeeds) (exit : printed.exit = 1)
    (alone : printed.Complains → printed.stdout = "") : Tells succeeds printed where
  exit_iff := ⟨fun zero => absurd (exit.symm.trans zero) Nat.one_ne_zero, fun succeeded => absurd succeeded failed⟩
  exit_le := exit.le
  alone := fun complains => ⟨exit, alone complains⟩

theorem line (succeeded : succeeds) (result : String) : Tells succeeds (.line result) :=
  of_success succeeded rfl (not_complains_of_head nofun)

theorem failing (failed : ¬ succeeds) (complaint : Complaint) : Tells succeeds (.failing complaint) :=
  of_failure failed rfl fun _ => rfl

/-- Who tells the same has the same exit code. -/
theorem exit_eq {printed printed' : Printed} (tells : Tells succeeds printed) (tells' : Tells succeeds printed') :
    printed.exit = printed'.exit := by
  have same := tells.exit_iff.trans tells'.exit_iff.symm
  have le := tells.exit_le
  have le' := tells'.exit_le
  omega

end Tells

end Printed

/-! ## The operation of a command -/

namespace Command

/-- **The operation of a command succeeds**: the search finds a listener, the request is taken, the stop has a report, the
wait converges, the settings are saved if that is asked for. A command that is refused has no operation that could succeed,
and listening only ever ends with an error. -/
def Succeeds (path : Path) (settings : Settings) (now : Int) (machine : Machine) : Command → Prop
  | .lookup port => ∃ binding, (Controller.unix.resolve port machine.world).1 = .ok (.found binding)
  | .kill number mode =>
    ∃ pid : ProcessId, number = pid.number ∧ (Controller.unix.terminate pid mode now machine.world).1 = .ok ()
  | .stop port mode timing =>
    ∃ report, (stopPort .unix settings port mode (timing.schedule settings) now machine.world).result = .ok report
  | .waitClosed ports timing =>
    (∀ port ∈ ports, port.number ≠ 0) ∧
      (awaitPortsClosed settings ports (timing.schedule settings) now machine.world).converged = true
  | .waitHealthy address timing =>
    (waitUntil (.healthy (World.tcpHealth settings.connectTimeout.toNat) address) (timing.schedule settings) now
      machine.world).converged = true
  | .listen _ => False
  | .config init => init = true → (settings.save path machine.disk).1 = .ok ()

/-- **A command succeeds as a whole**: there are settings, and with them its operation succeeds. -/
def SucceedsIn (command : Command) (environment : Environment) (now : Int) (machine : Machine) : Prop :=
  ∃ path settings, environment.settingsPath = .ok path ∧ Settings.load path machine.disk = .ok settings ∧
    command.Succeeds path settings now machine

end Command

theorem ProcessId.require_eq_ok_iff {number : Int} {pid : ProcessId} : require number = .ok pid ↔ number = pid.number := by
  constructor
  · intro possible
    unfold require at possible
    split at possible
    next found =>
      obtain rfl := Except.ok.inj possible
      obtain ⟨positive, found⟩ := Option.ite_none_right_eq_some.mp found
      have same := ProcessId.number_of_ofNat? found
      omega
    next => cases possible
  · rintro rfl
    have positive : (0 : Int) < pid.number := Int.natCast_pos.mpr pid.number_pos
    rw [require, ofInt?, if_pos positive, Int.toNat_natCast, ofNat?_number]

namespace Command

/-! ## What each command prints -/

theorem tells_lookupPrinted (port : Port) (json : Bool) (found : Lookup) :
    Printed.Tells (∃ binding, (.ok found : Except Failure Lookup) = .ok (.found binding))
      (lookupPrinted port json found) := by
  cases found with
  | found binding =>
    cases json with
    | false => exact .line ⟨binding, rfl⟩ _
    | true => exact .line ⟨binding, rfl⟩ _
  | notFound =>
    have nobody : ¬∃ binding, (.ok .notFound : Except Failure Lookup) = .ok (.found binding) := nofun
    cases json with
    | false => exact .of_failure nobody rfl fun _ => rfl
    | true => exact .of_failure nobody rfl fun complains => absurd complains (Printed.not_complains_of_head nofun)

theorem tells_runLookup (port : Port) (json : Bool) (w : World) :
    Printed.Tells (∃ binding, (Controller.unix.resolve port w).1 = .ok (.found binding)) (runLookup port json w).1 := by
  unfold runLookup
  split
  next found _ answer =>
    rw [answer]
    exact tells_lookupPrinted port json found
  next answer =>
    rw [answer]
    exact .failing nofun _

theorem tells_runKill (number : Int) (mode : Mode) (now : Int) (w : World) :
    Printed.Tells (∃ pid : ProcessId, number = pid.number ∧ (Controller.unix.terminate pid mode now w).1 = .ok ())
      (runKill number mode now w).1 := by
  unfold runKill
  split
  next impossible =>
    refine .failing ?_ _
    rintro ⟨pid, same, -⟩
    rw [ProcessId.require_eq_ok_iff.mpr same] at impossible
    cases impossible
  next pid possible =>
    split
    next answer =>
      exact .line ⟨pid, ProcessId.require_eq_ok_iff.mp possible, congrArg Prod.fst answer⟩ _
    next answer =>
      refine .failing ?_ _
      rintro ⟨other, same, taken⟩
      obtain rfl : pid = other := Except.ok.inj (possible.symm.trans (ProcessId.require_eq_ok_iff.mpr same))
      rw [answer] at taken
      cases taken

/-- A report and settings are printed as results, in either form. -/
theorem exists_line_stopPrinted (port : Port) (json : Bool) (report : Report) :
    ∃ result, stopPrinted port json report = .line result := by
  unfold stopPrinted
  split
  next => exact ⟨_, rfl⟩
  next => split <;> exact ⟨_, rfl⟩

theorem exists_line_settingsPrinted (path : Path) (settings : Settings) (json : Bool) :
    ∃ result, settingsPrinted path settings json = .line result := by
  unfold settingsPrinted
  split <;> exact ⟨_, rfl⟩

theorem tells_runStop (settings : Settings) (port : Port) (mode : Mode) (timing : Timing) (json : Bool) (now : Int)
    (w : World) :
    Printed.Tells (∃ report, (stopPort .unix settings port mode (timing.schedule settings) now w).result = .ok report)
      (runStop settings port mode timing json now w).1 := by
  unfold runStop
  dsimp only
  split
  next report answer =>
    obtain ⟨result, printed⟩ := exists_line_stopPrinted port json report
    rw [answer, printed]
    exact .line ⟨report, rfl⟩ result
  next answer =>
    rw [answer]
    exact .failing nofun _

theorem tells_runWaitClosed (settings : Settings) (ports : List Port) (timing : Timing) (now : Int) (w : World) :
    Printed.Tells ((∀ port ∈ ports, port.number ≠ 0) ∧
        (awaitPortsClosed settings ports (timing.schedule settings) now w).converged = true)
      (runWaitClosed settings ports timing now w).1 := by
  unfold runWaitClosed
  split
  next zero =>
    refine .failing (fun ⟨nonzero, _⟩ => ?_) _
    obtain ⟨port, mem, zero⟩ := List.any_eq_true.mp zero
    exact nonzero port mem (of_decide_eq_true zero)
  next nonzero =>
    have nonzero : ∀ port ∈ ports, port.number ≠ 0 := fun port mem zero =>
      nonzero (List.any_eq_true.mpr ⟨port, mem, decide_eq_true zero⟩)
    dsimp only
    split
    next converged => exact .line ⟨nonzero, converged⟩ _
    next expired => exact .failing (fun succeeded => expired succeeded.2) _

theorem tells_runWaitHealthy (settings : Settings) (address : String) (timing : Timing) (now : Int) (w : World) :
    Printed.Tells ((waitUntil (.healthy (World.tcpHealth settings.connectTimeout.toNat) address) (timing.schedule settings)
        now w).converged = true)
      (runWaitHealthy settings address timing now w).1 := by
  unfold runWaitHealthy
  dsimp only
  split
  next converged => exact .line converged _
  next expired => exact .failing expired _

theorem tells_runConfig (path : Path) (settings : Settings) (init json : Bool) (disk : Disk) :
    Printed.Tells (init = true → (settings.save path disk).1 = .ok ()) (runConfig path settings init json disk).1 := by
  obtain ⟨result, printed⟩ := exists_line_settingsPrinted path settings json
  cases init with
  | false =>
    simp only [runConfig, Bool.false_eq_true, if_false, printed]
    exact .line False.elim result
  | true =>
    simp only [runConfig, if_true, printed]
    split
    next saved =>
      -- That the file was written is told where errors are, but it is none.
      rw [saved]
      exact .of_success (fun _ => rfl) rfl (Printed.not_complains_of_head (by simp [toString]))
    next failed =>
      rw [failed]
      refine .failing (fun succeeded => ?_) _
      cases succeeded trivial

theorem exit_runListen (settings : Settings) (port : Port) (now : Int) (w : World) :
    (runListen settings port now w).1.exit = 1 := by
  unfold runListen
  split
  next => rfl
  next => rfl

/-- **A command prints whether its operation succeeded.** Listening prints that it listens, and then still ends with an
error. -/
theorem tells_run (other : command.listens = false) (path : Path) (settings : Settings) (json : Bool) (now : Int)
    (machine : Machine) :
    Printed.Tells (command.Succeeds path settings now machine) (command.run path settings json now machine).1 := by
  cases command with
  | lookup port => exact tells_runLookup port json machine.world
  | kill number mode => exact tells_runKill number mode now machine.world
  | stop port mode timing => exact tells_runStop settings port mode timing json now machine.world
  | waitClosed ports timing => exact tells_runWaitClosed settings ports timing now machine.world
  | waitHealthy address timing => exact tells_runWaitHealthy settings address timing now machine.world
  | listen => cases other
  | config init => exact tells_runConfig path settings init json machine.disk

/-! ## What is printed is not looked at -/

/-- A command does the same whether its results are printed as JSON or not. -/
theorem run_does (command : Command) (path : Path) (settings : Settings) (json json' : Bool) (now : Int)
    (machine : Machine) :
    (command.run path settings json now machine).2 = (command.run path settings json' now machine).2 := by
  have onWorld {w w' : World} (same : w = w') : (⟨w, machine.disk⟩ : Machine) = ⟨w', machine.disk⟩ := by rw [same]
  cases command with
  | lookup port => exact onWorld ((runLookup_world port json _).trans (runLookup_world port json' _).symm)
  | stop port mode timing =>
    exact onWorld ((runStop_world settings port mode timing json now _).trans
      (runStop_world settings port mode timing json' now _).symm)
  | config init =>
    cases init with
    | false => rfl
    | true =>
      show (⟨machine.world, _⟩ : Machine) = ⟨machine.world, _⟩
      rw [runConfig_disk, runConfig_disk]
  | _ => rfl

/-- And it has the same exit code. -/
theorem run_exit (command : Command) (path : Path) (settings : Settings) (json json' : Bool) (now : Int)
    (machine : Machine) :
    (command.run path settings json now machine).1.exit = (command.run path settings json' now machine).1.exit := by
  cases command with
  | listen => rfl
  | _ => exact (tells_run rfl path settings json now machine).exit_eq (tells_run rfl path settings json' now machine)

end Command

/-! ## Whole runs -/

namespace Invocation

/-- The flags of a command are looked at only to print. -/
theorem run_switched (command : Command) (json verbose json' verbose' : Bool) (environment : Environment) (now : Int)
    (machine : Machine) :
    let ran := Invocation.run ⟨command, json, verbose⟩ environment now machine
    let switched := Invocation.run ⟨command, json', verbose'⟩ environment now machine
    switched.1.exit = ran.1.exit ∧ switched.2 = ran.2 := by
  unfold run
  split
  next => exact ⟨rfl, rfl⟩
  next =>
    split
    next => exact ⟨rfl, rfl⟩
    next => exact ⟨command.run_exit .., command.run_does ..⟩

theorem tells_run (other : command.listens = false) (json verbose : Bool) (environment : Environment) (now : Int)
    (machine : Machine) :
    Printed.Tells (command.SucceedsIn environment now machine)
      (Invocation.run ⟨command, json, verbose⟩ environment now machine).1 := by
  unfold run
  split
  next nowhere =>
    refine .failing ?_ _
    rintro ⟨path, settings, led, -⟩
    cases nowhere.symm.trans led
  next path led =>
    split
    next unreadable =>
      refine .failing ?_ _
      rintro ⟨other, settings, led', loaded, -⟩
      cases led.symm.trans led'
      cases unreadable.symm.trans loaded
    next settings loaded =>
      have same : command.SucceedsIn environment now machine ↔ command.Succeeds path settings now machine := by
        constructor
        · rintro ⟨path', settings', led', loaded', succeeds⟩
          cases led.symm.trans led'
          cases loaded.symm.trans loaded'
          exact succeeds
        · exact fun succeeds => ⟨path, settings, led, loaded, succeeds⟩
      rw [same]
      exact command.tells_run other path settings json now machine

/-- Listening never succeeds, with settings or without. -/
theorem exit_of_listens (listens : command.listens = true) (json verbose : Bool) (environment : Environment) (now : Int)
    (machine : Machine) :
    (Invocation.run ⟨command, json, verbose⟩ environment now machine).1.exit = 1 ∧
      ¬ command.SucceedsIn environment now machine := by
  cases command with
  | listen port =>
    refine ⟨?_, fun ⟨_, _, _, _, never⟩ => never⟩
    unfold run
    split
    next => rfl
    next =>
      split
      next => rfl
      next settings _ => exact Command.exit_runListen settings port now machine.world
  | _ => cases listens

end Invocation

/-- **A flag in front of a line is inert.** JSON leaves the exit code and what is done as they are, and logging everything. -/
theorem runLine_flagged {words : List Text} {invocation : Invocation} (accepted : Invocation.read words = .ok invocation)
    (environment : Environment) (now : Int) (machine : Machine) :
    let ran := runLine words environment now machine
    (invocation.json = false →
      let flagged := runLine ("--json".toList :: words) environment now machine
      flagged.1.exit = ran.1.exit ∧ flagged.2 = ran.2) ∧
    (invocation.verbose = false → runLine ("--verbose".toList :: words) environment now machine = ran) := by
  simp only [runLine_of_read accepted]
  constructor
  · intro off
    rw [runLine_of_read (Invocation.read_json accepted off)]
    exact Invocation.run_switched ..
  · intro off
    rw [runLine_of_read (Invocation.read_verbose accepted off)]
    rfl

/-- **The exit code of a run says whether it succeeded, and only that.**

It is 0 just if the settings were loaded and the operation of the command succeeded. A run that reports an error exits with 1
and prints no result, unless it listens, and then it never exits with 0. With the flags for JSON and for logging set in any
other way the same command has the same exit code and leaves the world and the disk the same. -/
theorem exit_code_tells_success {words : List Text} {invocation : Invocation}
    (accepted : Invocation.read words = .ok invocation) (environment : Environment) (now : Int) (machine : Machine) :
    let command := invocation.command
    let ran := runLine words environment now machine
    (ran.1.exit = 0 ↔ command.SucceedsIn environment now machine) ∧
    (command.listens = false → ran.1.Complains → ran.1.exit = 1 ∧ ran.1.stdout = "") ∧
    (command.listens = true → ran.1.exit ≠ 0) ∧
    ∀ json verbose,
      let switched := Invocation.run ⟨command, json, verbose⟩ environment now machine
      switched.1.exit = ran.1.exit ∧ switched.2 = ran.2 := by
  obtain ⟨command, json, verbose⟩ := invocation
  simp only [runLine_of_read accepted]
  have switched (json' verbose' : Bool) :=
    Invocation.run_switched command json verbose json' verbose' environment now machine
  cases listens : command.listens with
  | false =>
    have tells := Invocation.tells_run listens json verbose environment now machine
    exact ⟨tells.exit_iff, fun _ => tells.alone, nofun, switched⟩
  | true =>
    obtain ⟨exit, never⟩ := Invocation.exit_of_listens listens json verbose environment now machine
    have nonzero := exit.trans_ne Nat.one_ne_zero
    exact ⟨⟨fun zero => absurd zero nonzero, fun succeeds => absurd succeeds never⟩, nofun, fun _ => nonzero, switched⟩

/-- A search that finds and one that does not, a process that cannot be, and listening: each with the flags that it has and
with others. -/
theorem exit_codes_of_four_runs :
    let port : Port := ⟨8080, by decide⟩
    let unused : Port := ⟨8081, by decide⟩
    let row : Text := "LISTEN 0 128 0.0.0.0:8080 0.0.0.0:* users:((\"a\",pid=100,fd=3))\n".toList
    let world : World := ⟨[("ss", [.ok ⟨.code 0, Utf8.encode row, []⟩])], [], [], [], 1, [], []⟩
    let environment : Environment := ⟨some "c.json".toList, none⟩
    let machine : Machine := ⟨world, .empty []⟩
    let finding : List Text := ["--json".toList, "lookup".toList, "8080".toList]
    let missing : List Text := ["lookup".toList, "8081".toList, "-v".toList]
    let killing : List Text := ["kill".toList, "-1".toList]
    let listening : List Text := ["listen".toList, "8080".toList]
    let plain := Invocation.run ⟨.lookup port, false, false⟩ environment 0 machine
    (Invocation.read finding = .ok ⟨.lookup port, true, false⟩ ∧ (runLine finding environment 0 machine).1.exit = 0 ∧
      (Command.lookup port).SucceedsIn environment 0 machine ∧
      plain.1.exit = 0 ∧ plain.2 = (runLine finding environment 0 machine).2 ∧
      plain.1.stdout ≠ (runLine finding environment 0 machine).1.stdout) ∧
    (Invocation.read missing = .ok ⟨.lookup unused, false, true⟩ ∧ (runLine missing environment 0 machine).1.exit = 1 ∧
      ¬ (Command.lookup unused).SucceedsIn environment 0 machine) ∧
    (Invocation.read killing = .ok ⟨.kill (-1) .graceful, false, false⟩ ∧
      (runLine killing environment 0 machine).1.Complains ∧ (runLine killing environment 0 machine).1.exit = 1 ∧
      (runLine killing environment 0 machine).1.stdout = "") ∧
    (Invocation.read listening = .ok ⟨.listen port, false, false⟩ ∧
      (runLine listening environment 0 machine).1.exit ≠ 0) := by
  intro port unused row world environment machine finding missing killing listening plain
  have find : Invocation.read finding = .ok ⟨.lookup port, true, false⟩ := by decide +kernel
  have miss : Invocation.read missing = .ok ⟨.lookup unused, false, true⟩ := by decide +kernel
  have kill : Invocation.read killing = .ok ⟨.kill (-1) .graceful, false, false⟩ := by decide +kernel
  have listen : Invocation.read listening = .ok ⟨.listen port, false, false⟩ := by decide +kernel
  have found : (runLine finding environment 0 machine).1.exit = 0 := by decide +kernel
  have missed : (runLine missing environment 0 machine).1.exit = 1 := by decide +kernel
  have complains : (runLine killing environment 0 machine).1.Complains := by
    show _ <+: _
    decide +kernel
  obtain ⟨succeeds, -, -, switched⟩ := exit_code_tells_success find environment 0 machine
  obtain ⟨fails, -, -, -⟩ := exit_code_tells_success miss environment 0 machine
  obtain ⟨-, alone, -, -⟩ := exit_code_tells_success kill environment 0 machine
  obtain ⟨-, -, never, -⟩ := exit_code_tells_success listen environment 0 machine
  obtain ⟨exit, same⟩ := switched false false
  refine ⟨⟨find, found, succeeds.mp found, exit.trans found, same, by decide +kernel⟩,
    ⟨miss, missed, fun succeeded => ?_⟩, ⟨kill, complains, alone rfl complains⟩, listen, never rfl⟩
  exact absurd (missed.symm.trans (fails.mpr succeeded)) Nat.one_ne_zero

end PortRelease
