import PortRelease.Proofs.Command.Effects
import PortRelease.Proofs.Command.Times
/-!
# Times of a line and times of the settings

A command looks at the settings for the host, for how long a connection may take and, if it waits, for the schedule of
its wait; `config` alone looks at more (`Command.Alike.run_eq`). The schedule has the times of the line and, where the line
leaves one out, that of the settings. So a time that is left out is the same as that of the settings given, and where
both are given the settings have no say (`times_stand_for_settings`).
-/

namespace PortRelease

/-- The time that the settings have for an option. -/
def Settings.time (settings : Settings) : TimeOption → UInt64
  | .timeout => settings.timeout
  | .interval => settings.pollInterval

/-! ## Schedules -/

namespace Timing

variable {timing : Timing} {option : TimeOption} {settings other : Settings}

/-- A time that is left out is that of the settings. -/
theorem schedule_set (omitted : timing.get option = none) :
    (timing.set option (settings.time option)).schedule settings = timing.schedule settings := by
  cases option with
  | timeout =>
    have omitted : timing.timeout = none := omitted
    simp [schedule, set, Settings.time, omitted]
  | interval =>
    have omitted : timing.interval = none := omitted
    simp [schedule, set, Settings.time, omitted]

/-- Where all times are given the settings have no say. -/
theorem schedule_of_given (given : ∀ option, timing.get option ≠ none) (settings other : Settings) :
    timing.schedule settings = timing.schedule other := by
  obtain ⟨timeout, is_timeout⟩ := Option.ne_none_iff_exists'.mp (given .timeout)
  obtain ⟨interval, is_interval⟩ := Option.ne_none_iff_exists'.mp (given .interval)
  have is_timeout : timing.timeout = some timeout := is_timeout
  have is_interval : timing.interval = some interval := is_interval
  simp [schedule, is_timeout, is_interval]

/-- The schedule has the ordinary times only. -/
theorem schedule_congr (interval : settings.pollInterval = other.pollInterval)
    (timeout : settings.timeout = other.timeout) : timing.schedule settings = timing.schedule other := by
  rw [schedule, schedule, interval, timeout]

end Timing

/-! ## What a command looks at -/

theorem awaitPortsClosed_congr {settings other : Settings} (host : settings.host = other.host)
    (connect : settings.connectTimeout = other.connectTimeout) : awaitPortsClosed settings = awaitPortsClosed other := by
  funext ports schedule now w
  rw [awaitPortsClosed, awaitPortsClosed, host, connect]

theorem portsStillOpen_congr {settings other : Settings} (host : settings.host = other.host) :
    portsStillOpen settings = portsStillOpen other := by
  funext pid ports waited
  rw [portsStillOpen, portsStillOpen, host]

theorem stopPort_congr {settings other : Settings} (host : settings.host = other.host)
    (connect : settings.connectTimeout = other.connectTimeout) (controller : Controller) :
    stopPort controller settings = stopPort controller other := by
  have process : stopProcess controller settings = stopProcess controller other := by
    funext pid mode ports schedule now w
    unfold stopProcess
    rw [awaitPortsClosed_congr host connect, portsStillOpen_congr host]
  funext port mode schedule now w
  unfold stopPort
  rw [process]

namespace Command

variable {command : Command} {settings other : Settings} {path path' : Path} {machine machine' : Machine}

/-- **The settings that matter to a command are alike**: those of the host and of connections, and the schedule of its
wait, if it waits. -/
structure Alike (command : Command) (settings other : Settings) : Prop where
  host : settings.host = other.host
  connect : settings.connectTimeout = other.connectTimeout
  schedule : ∀ timing, command.timing? = some timing → timing.schedule settings = timing.schedule other

/-- **A command that is not `config` does the same under settings that are alike**, whatever the path and the disk. -/
theorem Alike.run_eq (alike : command.Alike settings other) (no_config : ∀ init, command ≠ .config init)
    (same : machine.world = machine'.world) (json : Bool) (now : Int) :
    (command.run path settings json now machine).1 = (command.run path' other json now machine').1 ∧
      (command.run path settings json now machine).2.world = (command.run path' other json now machine').2.world := by
  obtain ⟨world, disk⟩ := machine
  obtain ⟨world', disk'⟩ := machine'
  obtain rfl : world = world' := same
  have on_world {ran ran' : Printed × World} (equal : ran = ran') : ran.1 = ran'.1 ∧ ran.2 = ran'.2 := by
    rw [equal]
    exact ⟨rfl, rfl⟩
  cases command with
  | lookup port => exact ⟨rfl, rfl⟩
  | kill number mode => exact ⟨rfl, rfl⟩
  | stop port mode timing =>
    have equal : runStop settings port mode timing json now world = runStop other port mode timing json now world := by
      rw [runStop, runStop, alike.schedule timing rfl, stopPort_congr alike.host alike.connect]
    exact on_world equal
  | waitClosed ports timing =>
    have equal : runWaitClosed settings ports timing now world = runWaitClosed other ports timing now world := by
      rw [runWaitClosed, runWaitClosed, alike.schedule timing rfl, awaitPortsClosed_congr alike.host alike.connect,
        alike.host]
    exact on_world equal
  | waitHealthy address timing =>
    have equal : runWaitHealthy settings address timing now world = runWaitHealthy other address timing now world := by
      rw [runWaitHealthy, runWaitHealthy, alike.schedule timing rfl, alike.connect]
    exact on_world equal
  | listen port =>
    have equal : runListen settings port now world = runListen other port now world := by
      rw [runListen, runListen, alike.host]
    exact on_world equal
  | config init => exact absurd rfl (no_config init)

/-- **A time that is left out is the same as that of the settings given.** -/
theorem run_withTime {timing : Timing} {option : TimeOption} (timed : command.timing? = some timing)
    (omitted : timing.get option = none) (path : Path) (settings : Settings) (json : Bool) (now : Int)
    (machine : Machine) : (command.withTime option (settings.time option)).run path settings json now machine =
      command.run path settings json now machine := by
  have scheduled : (timing.set option (settings.time option)).schedule settings = timing.schedule settings :=
    Timing.schedule_set omitted
  cases command with
  | stop port mode timing =>
    cases timed
    simp only [withTime, run, runStop, scheduled]
  | waitClosed ports timing =>
    cases timed
    simp only [withTime, run, runWaitClosed, scheduled]
  | waitHealthy address timing =>
    cases timed
    simp only [withTime, run, runWaitHealthy, scheduled]
  | lookup | kill | listen | config => rfl

theorem ne_config_of_timed {timing : Timing} (timed : command.timing? = some timing) (init : Bool) :
    command ≠ .config init := by
  rintro rfl
  cases timed

end Command

/-! ## Whole runs -/

/-- Two runs of a line, with settings that are alike to its command, print the same and leave the same world, and each
leaves its disk as it was. -/
theorem runLine_alike {words : List Text} {invocation : Invocation} {environment environment' : Environment}
    {machine machine' : Machine} {settings other : Settings} (accepted : Invocation.read words = .ok invocation)
    (loaded : (environment.settingsPath.bind fun path => Settings.load path machine.disk) = .ok settings)
    (loaded' : (environment'.settingsPath.bind fun path => Settings.load path machine'.disk) = .ok other)
    (same : machine.world = machine'.world) (alike : invocation.command.Alike settings other)
    (no_config : ∀ init, invocation.command ≠ .config init) (now : Int) :
    let ran := runLine words environment now machine
    let ran' := runLine words environment' now machine'
    ran.1 = ran'.1 ∧ ran.2.world = ran'.2.world ∧ ran.2.disk = machine.disk ∧ ran'.2.disk = machine'.disk := by
  obtain ⟨path, -, -, runs⟩ := invocation.run_of_loaded now loaded
  obtain ⟨path', -, -, runs'⟩ := invocation.run_of_loaded now loaded'
  simp only [runLine_of_read accepted, runs, runs']
  obtain ⟨printed, world⟩ := alike.run_eq no_config same invocation.json now
  exact ⟨printed, world, Command.run_disk (no_config true) .., Command.run_disk (no_config true) ..⟩

/-- **A time that a line leaves out stands for that of the settings, and a time that it gives for no setting.**

Where settings are loaded, a line that leaves out a time of a command that waits runs like every line that means the
same with the time of the settings given, and such a line is one with the option and the time right behind the verb, in
either spelling. Where both times are given, settings that differ in times of waits alone make no difference to what is
printed and to the world, and the disks stay as they are. The long timeout makes none to any command but `config`. -/
theorem times_stand_for_settings :
    (∀ (words : List Text) (invocation : Invocation) (timing : Timing) (option : TimeOption)
      (environment : Environment) (now : Int) (machine : Machine) (settings : Settings),
      Invocation.read words = .ok invocation → invocation.command.timing? = some timing → timing.get option = none →
      (environment.settingsPath.bind fun path => Settings.load path machine.disk) = .ok settings →
      let explicit : Invocation :=
        { invocation with command := invocation.command.withTime option (settings.time option) }
      (∀ words', Invocation.read words' = .ok explicit →
        runLine words' environment now machine = runLine words environment now machine) ∧
      ∃ (front : List Text) (verb : Verb) (behind : List Text), words = front ++ verb.word.toList :: behind ∧
        ∀ value spelling, Numeral.readBelow? Numeral.limit64 value = some (settings.time option).toNat →
          option.Spelled value spelling →
          Invocation.read (front ++ verb.word.toList :: (spelling ++ behind)) = .ok explicit) ∧
    (∀ (words : List Text) (invocation : Invocation) (timing : Timing) (environment environment' : Environment)
      (now : Int) (machine machine' : Machine) (settings other : Settings),
      Invocation.read words = .ok invocation → invocation.command.timing? = some timing →
      (∀ option, timing.get option ≠ none) →
      (environment.settingsPath.bind fun path => Settings.load path machine.disk) = .ok settings →
      (environment'.settingsPath.bind fun path => Settings.load path machine'.disk) = .ok other →
      machine.world = machine'.world → settings.host = other.host → settings.connectTimeout = other.connectTimeout →
      let ran := runLine words environment now machine
      let ran' := runLine words environment' now machine'
      ran.1 = ran'.1 ∧ ran.2.world = ran'.2.world ∧ ran.2.disk = machine.disk ∧ ran'.2.disk = machine'.disk) ∧
    (∀ (words : List Text) (invocation : Invocation) (environment environment' : Environment) (now : Int)
      (machine machine' : Machine) (settings : Settings) (longTimeout : UInt64),
      Invocation.read words = .ok invocation → (∀ init, invocation.command ≠ .config init) →
      (environment.settingsPath.bind fun path => Settings.load path machine.disk) = .ok settings →
      (environment'.settingsPath.bind fun path => Settings.load path machine'.disk) =
        .ok { settings with longTimeout := longTimeout } →
      machine.world = machine'.world →
      let ran := runLine words environment now machine
      let ran' := runLine words environment' now machine'
      ran.1 = ran'.1 ∧ ran.2.world = ran'.2.world ∧ ran.2.disk = machine.disk ∧ ran'.2.disk = machine'.disk) := by
  refine ⟨?_, ?_, ?_⟩
  · intro words invocation timing option environment now machine settings accepted timed omitted loaded explicit
    constructor
    · intro words' accepted'
      obtain ⟨path, led, -, runs⟩ := invocation.run_of_loaded now loaded
      obtain ⟨path', led', -, runs'⟩ := explicit.run_of_loaded now loaded
      obtain rfl := Except.ok.inj (led.symm.trans led')
      rw [runLine_of_read accepted', runLine_of_read accepted, runs, runs']
      exact Command.run_withTime timed omitted path settings invocation.json now machine
    · obtain ⟨front, verb, behind, parts, read⟩ := Invocation.read_with_time accepted timed omitted
      refine ⟨front, verb, behind, parts, fun value spelling number spelled => ?_⟩
      rw [read value _ spelling number spelled, UInt64.ofNat_toNat]
  · intro words invocation timing environment environment' now machine machine' settings other accepted timed given
      loaded loaded' same host connect
    refine runLine_alike accepted loaded loaded' same ⟨host, connect, ?_⟩ (Command.ne_config_of_timed timed) now
    intro timing' timed'
    obtain rfl := Option.some.inj (timed.symm.trans timed')
    exact Timing.schedule_of_given given settings other
  · intro words invocation environment environment' now machine machine' settings longTimeout accepted no_config loaded
      loaded' same
    have alike : invocation.command.Alike settings { settings with longTimeout := longTimeout } :=
      ⟨rfl, rfl, fun _ _ => Timing.schedule_congr rfl rfl⟩
    exact runLine_alike accepted loaded loaded' same alike no_config now

/-- A wait in vain with its timeout left out and given, a wait with both times given under two files of settings, and a
lookup under two long timeouts. -/
theorem times_left_out_and_given :
    let environment : Environment := ⟨some "c.json".toList, none⟩
    let machine (text : String) : Machine :=
      ⟨⟨[("ss", [.ok ⟨.code 0, [], []⟩])], [], [], [], 1, [], []⟩,
        ⟨[(["c.json".toList], .file (Utf8.encode text.toList))], [], [], .sound⟩⟩
    let short := machine "\x7b\"timeoutMs\":5,\"pollIntervalMs\":3\x7d"
    let long := machine "\x7b\"longTimeoutMs\":1\x7d"
    let plain := machine "\x7b\x7d"
    let left_out : List Text := ["wait-healthy".toList, "127.0.0.1:1".toList]
    let with_timeout : List Text := ["wait-healthy".toList, "--timeout-ms=5".toList, "127.0.0.1:1".toList]
    let with_both : List Text :=
      ["wait-healthy".toList, "--interval-ms".toList, "4".toList, "--timeout-ms=9".toList, "127.0.0.1:1".toList]
    let lookup : List Text := ["lookup".toList, "8080".toList]
    (runLine left_out environment 0 short).1 =
        ⟨1, "", "Error: 127.0.0.1:1 did not become healthy within 5ms\n"⟩ ∧
      runLine with_timeout environment 0 short = runLine left_out environment 0 short ∧
      (runLine with_both environment 0 short).1 = (runLine with_both environment 0 plain).1 ∧
      (runLine with_both environment 0 short).1 ≠ (runLine left_out environment 0 short).1 ∧
      (runLine lookup environment 0 long).1 = (runLine lookup environment 0 plain).1 := by
  intro environment machine short long plain left_out with_timeout with_both lookup
  obtain ⟨stands, given, long_only⟩ := times_stand_for_settings
  have loads_short : (environment.settingsPath.bind fun path => Settings.load path short.disk) =
      .ok ⟨3, 5, 60000, 500, "127.0.0.1"⟩ := by decide +kernel
  have loads_long : (environment.settingsPath.bind fun path => Settings.load path long.disk) =
      .ok ⟨250, 30000, 1, 500, "127.0.0.1"⟩ := by decide +kernel
  have loads_plain : (environment.settingsPath.bind fun path => Settings.load path plain.disk) = .ok .default := by
    decide +kernel
  let waiting (timing : Timing) : Invocation := ⟨.waitHealthy "127.0.0.1:1" timing, false, false⟩
  have read : Invocation.read left_out = .ok (waiting ⟨none, none⟩) := by decide +kernel
  have read_timeout : Invocation.read with_timeout = .ok (waiting ⟨some 5, none⟩) := by decide +kernel
  have read_both : Invocation.read with_both = .ok (waiting ⟨some 9, some 4⟩) := by decide +kernel
  have read_lookup : Invocation.read lookup = .ok ⟨.lookup ⟨8080, by decide⟩, false, false⟩ := by decide +kernel
  obtain ⟨alike, -⟩ := stands left_out _ _ .timeout environment 0 short _ read rfl rfl loads_short
  have both_given (option : TimeOption) : (⟨some 9, some 4⟩ : Timing).get option ≠ none := by
    cases option with
    | timeout => nofun
    | interval => nofun
  obtain ⟨same_print, -⟩ := given with_both _ _ environment environment 0 short plain _ _ read_both rfl both_given
    loads_short loads_plain rfl rfl rfl
  obtain ⟨same_answer, -⟩ := long_only lookup _ environment environment 0 plain long _ 1 read_lookup nofun
    loads_plain loads_long rfl
  exact ⟨by decide +kernel, alike _ read_timeout, same_print, by decide +kernel, same_answer.symm⟩

end PortRelease
