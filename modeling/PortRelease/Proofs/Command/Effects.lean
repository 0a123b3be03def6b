import PortRelease.Command.Run
import PortRelease.Proofs.Release.Orchestration
import PortRelease.Proofs.Settings.Changes
import PortRelease.Proofs.Settings.Reading
/-!
# What commands may touch

Each command has the tools it may run, and either may signal, connect and listen or may not (`Command.allows`). Whatever
becomes of it, it leaves no other events (`Command.run_did`), and only writing the settings file changes the disk, where a
save may (`Settings.changes_of_save`). Without settings no command does anything, and some commands cannot mean anything:
they are refused before they do (`Command.Refused`).

* `commands_touch_only_theirs`: all of this for whole runs.
-/

namespace PortRelease

open World

variable {kind : Event → Bool} {settings : Settings} {command : Command} {machine : Machine}

/-! ## Listening -/

/-- Listening was tried, or a connection was accepted. -/
def Event.isListening : Event → Bool
  | .bound .. => true
  | .accepted .. => true
  | _ => false

namespace World

theorem did_listenFirst (now : Int) (endpoints : List Endpoint) : ∀ (fault : IoFault) (w : World),
    Did Event.isListening w (listenFirst now fault endpoints w).2 := by
  induction endpoints with
  | nil => exact fun _ => .nothing
  | cons endpoint rest ih =>
    intro fault w
    have tried (refusal : Option Errno) : Did Event.isListening w (w.record (.bound endpoint refusal)) :=
      .once rfl rfl (events_record ..) rfl
    rw [listenFirst]
    cases w.bindRefusal now endpoint with
    | none => exact tried none
    | some error => exact (tried (some error)).trans (ih _ _)

theorem did_listen (now : Int) (host : String) (port : Port) (w : World) :
    Did Event.isListening w (w.listen now host port).2 := by
  unfold listen
  split
  next => exact did_listenFirst ..
  next => exact .nothing w

theorem did_acceptAll (arrivals : List (Option Errno)) : ∀ w : World,
    Did Event.isListening w (acceptAll arrivals w).2 := by
  have accepted (w : World) (refusal : Option Errno) : Did Event.isListening w (w.record (.accepted refusal)) :=
    .once rfl rfl (events_record ..) rfl
  induction arrivals with
  | nil => exact fun w => accepted w _
  | cons arrival rest ih =>
    intro w
    cases arrival with
    | none => exact (accepted w none).trans (ih _)
    | some error => exact accepted w (some error)

end World

/-! ## What is allowed -/

namespace Command

/-- The tools that a command may run. -/
def tools : Command → List String
  | .lookup _ => ["ss", "lsof"]
  | .kill .. => ["ps"]
  | .stop .. => ["ss", "lsof", "ps"]
  | _ => []

/-- Whether a command may signal processes and groups. -/
def signals : Command → Bool
  | .kill .. => true
  | .stop .. => true
  | _ => false

/-- Whether a command may connect. -/
def connects : Command → Bool
  | .stop .. => true
  | .waitClosed .. => true
  | .waitHealthy .. => true
  | _ => false

/-- Whether a command may listen. -/
def listens : Command → Bool
  | .listen _ => true
  | _ => false

/-- **Whether a command may leave an event.** -/
def allows (command : Command) : Event → Bool
  | .ran tool _ => command.tools.contains tool
  | .signalled .. => command.signals
  | .signalledGroup .. => command.signals
  | .connected .. => command.connects
  | .bound .. => command.listens
  | .accepted .. => command.listens

/-- **A command that cannot mean anything**: it names a process that there cannot be, or port 0 where a certain port is
needed. -/
def Refused : Command → Prop
  | .lookup port => port.number = 0
  | .kill number _ => ¬(1 ≤ number ∧ number ≤ 2147483647)
  | .stop port _ _ => port.number = 0
  | .waitClosed ports _ => ∃ port ∈ ports, port.number = 0
  | _ => False

/-! Where the parts of a command are allowed. -/

theorem allows_of_question (tools : ∀ tool ∈ ["ss", "lsof"], tool ∈ command.tools) (event : Event)
    (asked : Unix.isQuestion event = true) : command.allows event = true := by
  cases event with
  | ran tool arguments => exact List.contains_iff_mem.mpr (tools tool (List.contains_iff_mem.mp asked))
  | _ => cases asked

theorem allows_of_request (tool : "ps" ∈ command.tools) (signals : command.signals = true) (event : Event)
    (asked : Unix.isRequest event = true) : command.allows event = true := by
  cases event with
  | ran name arguments =>
    obtain rfl : name = "ps" := eq_of_beq asked
    exact List.contains_iff_mem.mpr tool
  | signalled | signalledGroup => exact signals
  | _ => cases asked

theorem allows_of_attempt (connects : command.connects = true) (event : Event) (tried : event.isAttempt = true) :
    command.allows event = true := by
  cases event with
  | connected => exact connects
  | _ => cases tried

/-! ## Commands on the world -/

theorem did_resolve (port : Port) (w : World) : Did Unix.isQuestion w (Controller.unix.resolve port w).2 := by
  unfold Controller.resolve
  split
  next => exact .nothing w
  next => exact (Unix.lookup_observed port w).toDid

theorem runLookup_world (port : Port) (json : Bool) (w : World) :
    (runLookup port json w).2 = (Controller.unix.resolve port w).2 := by
  unfold runLookup
  split
  next answer => rw [answer]
  next answer => rw [answer]

theorem did_runKill (number : Int) (mode : Mode) (now : Int) (w : World) :
    Did Unix.isRequest w (runKill number mode now w).2 := by
  unfold runKill
  split
  next => exact .nothing w
  next pid _ =>
    have requested := Unix.did_terminate pid mode now w
    split
    next answer =>
      rw [show Unix.terminate pid mode now w = _ from answer] at requested
      exact requested
    next answer =>
      rw [show Unix.terminate pid mode now w = _ from answer] at requested
      exact requested

/-- A stop asks, requests and connects, and where each of these is allowed so is the whole. -/
theorem did_stopPort (asks : ∀ event, Unix.isQuestion event = true → kind event = true)
    (requests : ∀ event, Unix.isRequest event = true → kind event = true)
    (attempts : ∀ event, event.isAttempt = true → kind event = true) (port : Port) (mode : Mode) (schedule : Schedule)
    (now : Int) (w : World) : Did kind w (stopPort .unix settings port mode schedule now w).world := by
  have asked := (did_resolve port w).mono asks
  cases answer : (Controller.unix.resolve port w).1 with
  | error failure =>
    rw [stopPort_of_failed answer]
    exact asked
  | ok found =>
    cases found with
    | notFound =>
      rw [stopPort_of_not_found answer]
      exact asked
    | found binding =>
      rw [stopPort_of_found answer]
      have requested := (Unix.did_terminate binding.pid mode now (Controller.unix.resolve port w).2).mono requests
      have awaited := stopProcess_observed .unix settings binding.pid mode [port] schedule now
        (Controller.unix.resolve port w).2
      exact asked.trans (requested.trans (awaited.toDid.mono attempts))

theorem runStop_world (settings : Settings) (port : Port) (mode : Mode) (timing : Timing) (json : Bool) (now : Int)
    (w : World) : (runStop settings port mode timing json now w).2 =
      (stopPort .unix settings port mode (timing.schedule settings) now w).world := by
  unfold runStop
  dsimp only
  split
  next => rfl
  next => rfl

theorem did_runWaitClosed (settings : Settings) (ports : List Port) (timing : Timing) (now : Int) (w : World) :
    Did Event.isAttempt w (runWaitClosed settings ports timing now w).2 := by
  have awaited := awaitPortsClosed_observed settings ports (timing.schedule settings) now w
  unfold runWaitClosed
  split
  next => exact .nothing w
  next =>
    dsimp only
    split
    next => exact awaited.toDid
    next => exact awaited.toDid

theorem did_runWaitHealthy (settings : Settings) (address : String) (timing : Timing) (now : Int) (w : World) :
    Did Event.isAttempt w (runWaitHealthy settings address timing now w).2 := by
  have awaited : Did Event.isAttempt w
      (waitUntil (.healthy (tcpHealth settings.connectTimeout.toNat) address) (timing.schedule settings) now w).state :=
    Wait.waitUntil_keeps (fun _ _ so_far => so_far.trans (connectFirst_attempted ..).observed.toDid) _ now (.nothing w)
  unfold runWaitHealthy
  dsimp only
  split
  next => exact awaited
  next => exact awaited

theorem did_runListen (settings : Settings) (port : Port) (now : Int) (w : World) :
    Did Event.isListening w (runListen settings port now w).2 := by
  have bound := did_listen now settings.host port w
  unfold runListen
  split
  next answer =>
    rw [answer] at bound
    exact bound
  next endpoint after answer =>
    rw [answer] at bound
    exact bound.trans (did_acceptAll after.arrivals after)

/-- **A command leaves only events that it may leave.** -/
theorem run_did (command : Command) (path : Path) (settings : Settings) (json : Bool) (now : Int) (machine : Machine) :
    Did command.allows machine.world (command.run path settings json now machine).2.world := by
  cases command with
  | lookup port =>
    show Did _ machine.world (runLookup port json machine.world).2
    rw [runLookup_world]
    exact (did_resolve port machine.world).mono (allows_of_question fun _ mem => mem)
  | kill number mode =>
    exact (did_runKill number mode now machine.world).mono (allows_of_request List.mem_cons_self rfl)
  | stop port mode timing =>
    show Did _ machine.world (runStop settings port mode timing json now machine.world).2
    rw [runStop_world]
    refine did_stopPort (allows_of_question fun _ mem => ?_) (allows_of_request ?_ rfl) (allows_of_attempt rfl) ..
    · exact List.mem_append_left ["ps"] mem
    · exact List.mem_append_right ["ss", "lsof"] List.mem_cons_self
  | waitClosed ports timing =>
    exact (did_runWaitClosed settings ports timing now machine.world).mono (allows_of_attempt rfl)
  | waitHealthy address timing =>
    exact (did_runWaitHealthy settings address timing now machine.world).mono (allows_of_attempt rfl)
  | listen port =>
    refine (did_runListen settings port now machine.world).mono fun event heard => ?_
    cases event with
    | bound | accepted => rfl
    | _ => cases heard
  | config init => exact .nothing machine.world

/-! ## Commands on the disk -/

/-- Only writing the settings file changes the disk. -/
theorem run_disk (other : command ≠ .config true) (path : Path) (settings : Settings) (json : Bool) (now : Int)
    (machine : Machine) : (command.run path settings json now machine).2.disk = machine.disk := by
  cases command with
  | config init =>
    cases init with
    | false => rfl
    | true => exact absurd rfl other
  | _ => rfl

theorem runConfig_disk (path : Path) (settings : Settings) (json : Bool) (disk : Disk) :
    (runConfig path settings true json disk).2 = (settings.save path disk).2 := by
  simp only [runConfig, if_true]
  split
  next saved => rw [saved]
  next saved => rw [saved]

/-- **And then only where a save may change something.** -/
theorem run_changes (command : Command) (path : Path) (settings : Settings) (json : Bool) (now : Int)
    (machine : Machine) (place : Place) :
    let after := (command.run path settings json now machine).2.disk
    after.entryAt? place = machine.disk.entryAt? place ∨ Saving.MayChange path machine.disk after place := by
  intro after
  by_cases writes : command = .config true
  · have saved : after = (settings.save path machine.disk).2 := by
      unfold after
      rw [writes]
      exact runConfig_disk path settings json machine.disk
    rw [saved]
    exact Settings.changes_of_save settings path machine.disk place
  · exact .inl (congrArg (·.entryAt? place) (run_disk writes path settings json now machine))

/-! ## Commands that are refused -/

theorem require_of_impossible {number : Int} (impossible : ¬(1 ≤ number ∧ number ≤ 2147483647)) :
    ProcessId.require number = .error (.invalidPid number) := by
  have nobody : ProcessId.ofInt? number = none := by
    unfold ProcessId.ofInt?
    split
    next => exact ProcessId.ofNat?_eq_none_iff.mpr (by omega)
    next => rfl
  rw [ProcessId.require, nobody]

/-- **A command that cannot mean anything fails and does nothing.** -/
theorem run_of_refused (refused : command.Refused) (path : Path) (settings : Settings) (json : Bool) (now : Int)
    (machine : Machine) :
    (command.run path settings json now machine).1.exit = 1 ∧
      (command.run path settings json now machine).2 = machine := by
  cases command with
  | lookup port =>
    have zero : port.number = 0 := refused
    simp only [run, runLookup, Controller.resolve, if_pos zero]
    exact ⟨rfl, trivial⟩
  | kill number mode =>
    simp only [run, runKill, require_of_impossible refused]
    exact ⟨rfl, trivial⟩
  | stop port mode timing =>
    have zero : port.number = 0 := refused
    simp only [run, runStop, stopPort, Controller.resolve, if_pos zero, Stopped.atOnce]
    exact ⟨rfl, trivial⟩
  | waitClosed ports timing =>
    have zero : (ports.any fun port => decide (port.number = 0)) = true := by
      obtain ⟨port, mem, zero⟩ := refused
      exact List.any_eq_true.mpr ⟨port, mem, decide_eq_true zero⟩
    simp only [run, runWaitClosed, zero, if_true]
    exact ⟨rfl, trivial⟩
  | waitHealthy | listen | config => exact absurd refused id

end Command

/-! ## Whole runs -/

theorem runLine_of_read {words : List Text} {invocation : Invocation} (accepted : Invocation.read words = .ok invocation)
    (environment : Environment) (now : Int) (machine : Machine) :
    runLine words environment now machine = invocation.run environment now machine := by
  rw [runLine, accepted]

/-- Without settings no command does anything. -/
theorem Invocation.run_of_unloaded {environment : Environment} {failure : Failure} (invocation : Invocation) (now : Int)
    (unloaded : (environment.settingsPath.bind fun path => Settings.load path machine.disk) = .error failure) :
    (invocation.run environment now machine).1.exit = 1 ∧ (invocation.run environment now machine).2 = machine := by
  unfold run
  split
  next => exact ⟨rfl, rfl⟩
  next path led =>
    rw [led] at unloaded
    split
    next => exact ⟨rfl, rfl⟩
    next loaded => cases loaded.symm.trans unloaded

/-- With settings it is the command that is run. -/
theorem Invocation.run_of_loaded {environment : Environment} (invocation : Invocation) (now : Int)
    (loaded : (environment.settingsPath.bind fun path => Settings.load path machine.disk) = .ok settings) :
    ∃ path, environment.settingsPath = .ok path ∧ Settings.load path machine.disk = .ok settings ∧
      invocation.run environment now machine = invocation.command.run path settings invocation.json now machine := by
  unfold run
  cases led : environment.settingsPath with
  | error failure =>
    rw [led] at loaded
    cases loaded
  | ok path =>
    rw [led] at loaded
    have loaded : Settings.load path machine.disk = .ok settings := loaded
    refine ⟨path, rfl, loaded, ?_⟩
    simp only [loaded]

/-- **A command touches only what is its own.**

Its events are of the kinds it may leave. The disk is as it was unless the settings file is to be written, and then it
differs only where the path of that file leads, where its draft is, and where a directory above them was missing. If there
is no path, or the settings there cannot be read or are not valid, the run fails and changes nothing, whatever the command;
and so it does if the command cannot mean anything. -/
theorem commands_touch_only_theirs {words : List Text} {invocation : Invocation}
    (accepted : Invocation.read words = .ok invocation) (environment : Environment) (now : Int) (machine : Machine) :
    let command := invocation.command
    let ran := runLine words environment now machine
    (∃ made, ran.2.world.events = machine.world.events ++ made ∧ ∀ event ∈ made, command.allows event = true) ∧
    (command ≠ .config true → ran.2.disk = machine.disk) ∧
    (∀ place, ran.2.disk.entryAt? place = machine.disk.entryAt? place ∨
      ∃ path, environment.settingsPath = .ok path ∧ Saving.MayChange path machine.disk ran.2.disk place) ∧
    (∀ failure, (environment.settingsPath.bind fun path => Settings.load path machine.disk) = .error failure →
      ran.1.exit = 1 ∧ ran.2 = machine) ∧
    (command.Refused → ran.1.exit = 1 ∧ ran.2 = machine) := by
  simp only [runLine_of_read accepted]
  cases loads : environment.settingsPath.bind fun path => Settings.load path machine.disk with
  | error failure =>
    obtain ⟨exit, same⟩ := invocation.run_of_unloaded now loads
    rw [same]
    exact ⟨(Did.nothing machine.world).events_eq, fun _ => rfl, fun _ => .inl rfl, fun _ _ => ⟨exit, rfl⟩,
      fun _ => ⟨exit, rfl⟩⟩
  | ok settings =>
    obtain ⟨path, led, -, runs⟩ := invocation.run_of_loaded now loads
    rw [runs]
    refine ⟨(Command.run_did ..).events_eq, fun other => Command.run_disk other .., fun place => ?_, fun _ => nofun,
      fun refused => Command.run_of_refused refused ..⟩
    exact (Command.run_changes _ path settings _ now machine place).imp_right fun changed => ⟨path, led, changed⟩

/-- A stop that searches, requests and connects; a process that cannot be; a file that holds no settings; and settings that
are written below a directory that is not there yet. -/
theorem four_runs_touch_only_theirs :
    let port : Port := ⟨8080, by decide⟩
    let row : Text := "LISTEN 0 128 0.0.0.0:8080 0.0.0.0:* users:((\"a\",pid=100,fd=3))\n".toList
    let world : World := ⟨[("ss", [.ok ⟨.code 0, Utf8.encode row, []⟩]), ("ps", [.ok ⟨.code 0, [], []⟩])],
      [⟨100, 100, none, 0, [], [.of (.v4 [0, 0, 0, 0]) port], none⟩], [], [], 1, [], []⟩
    let environment : Environment := ⟨some "d/c.json".toList, none⟩
    let machine : Machine := ⟨world, .empty []⟩
    let broken : Machine := ⟨world, ⟨[(["d".toList], .directory), (["c.json".toList, "d".toList], .file [91])], [], [], .sound⟩⟩
    let stopping : List Text := ["stop".toList, "8080".toList]
    let killing : List Text := ["kill".toList, "-1".toList]
    let writing : List Text := ["config".toList, "--init".toList]
    let stopped := runLine stopping environment 0 machine
    let written := (runLine writing environment 0 machine).2.disk
    (Invocation.read stopping = .ok ⟨.stop port .graceful ⟨none, none⟩, false, false⟩ ∧
      stopped.2.world.events.length = 4 ∧
      ∀ event ∈ stopped.2.world.events, (Command.stop port .graceful ⟨none, none⟩).allows event = true) ∧
    (Invocation.read killing = .ok ⟨.kill (-1) .graceful, false, false⟩ ∧
      (runLine killing environment 0 machine).1.exit = 1 ∧ (runLine killing environment 0 machine).2 = machine) ∧
    ((runLine stopping environment 0 broken).1.exit = 1 ∧ (runLine stopping environment 0 broken).2 = broken) ∧
    (Invocation.read writing = .ok ⟨.config true, false, false⟩ ∧
      written.entryAt? ["d".toList] = some .directory ∧
      Saving.MayChange "d/c.json".toList machine.disk written ["d".toList]) := by
  intro port row world environment machine broken stopping killing writing stopped written
  have stop : Invocation.read stopping = .ok ⟨.stop port .graceful ⟨none, none⟩, false, false⟩ := by decide +kernel
  have kill : Invocation.read killing = .ok ⟨.kill (-1) .graceful, false, false⟩ := by decide +kernel
  have write : Invocation.read writing = .ok ⟨.config true, false, false⟩ := by decide +kernel
  have made : written.entryAt? ["d".toList] = some .directory := by decide +kernel
  have unreadable : (environment.settingsPath.bind fun path => Settings.load path broken.disk) =
      .error (.settings "Failed to parse config: ...") := by decide +kernel
  have impossible : (Command.kill (-1) .graceful).Refused := by
    show ¬((1 : Int) ≤ -1 ∧ (-1 : Int) ≤ 2147483647)
    decide
  obtain ⟨⟨events, all, allowed⟩, -, -, -, -⟩ := commands_touch_only_theirs stop environment 0 machine
  obtain ⟨-, -, -, -, refused⟩ := commands_touch_only_theirs kill environment 0 machine
  obtain ⟨-, -, -, unloaded, -⟩ := commands_touch_only_theirs stop environment 0 broken
  obtain ⟨-, -, changes, -, -⟩ := commands_touch_only_theirs write environment 0 machine
  refine ⟨⟨stop, by decide +kernel, fun event mem => allowed event ?_⟩, ⟨kill, refused impossible⟩,
    unloaded _ unreadable, write, made, ?_⟩
  · rwa [all] at mem
  · obtain same | ⟨path, led, changed⟩ := changes ["d".toList]
    · exact absurd (made.symm.trans same) (by decide +kernel)
    · cases led
      exact changed

end PortRelease
