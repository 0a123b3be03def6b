import PortRelease.Command.Line
import PortRelease.Command.Printed
import PortRelease.Release.Stop
import PortRelease.Settings.Store
/-!
# Running commands

A command first loads the settings, whether it needs them or not, and does nothing if it cannot. It then acts on
the world, or in the case of `config` on the disk; the types of the functions below say which. It tells what it
did in a line or as JSON, and the exit code says whether it succeeded.
-/

namespace PortRelease

/-- The schedule of a wait: times that are not given are those of the settings. -/
def Timing.schedule (timing : Timing) (settings : Settings) : Schedule :=
  ⟨(timing.interval.getD settings.pollInterval).toNat, (timing.timeout.getD settings.timeout).toNat, none⟩

/-- How long a schedule lets a wait go on, in words. -/
def Schedule.span (schedule : Schedule) : String := (Span.ofMilliseconds schedule.timeout).render

/-- A value as a line of JSON, or several. -/
def Json.display (j : Json) : String := String.ofList j.indented

namespace Command

/-! ## Ports and processes -/

/-- What is printed for a lookup that was answered. Finding nobody is no failure, but no success either. -/
def lookupPrinted (port : Port) (json : Bool) (found : Lookup) : Printed :=
  let exit := if found.isFound then 0 else 1
  if json then { Printed.line found.toJson.display with exit := exit }
  else
    match found with
    | .found binding => .line s!"{binding.pid.number}"
    | .notFound => ⟨exit, "", s!"No listener on port {port}\n"⟩

/-- Tells who listens on a port. -/
def runLookup (port : Port) (json : Bool) (w : World) : Printed × World :=
  match Controller.unix.resolve port w with
  | (.ok found, w) => (lookupPrinted port json found, w)
  | (.error failure, w) => (.failing (.because s!"failed to look up port {port}" failure), w)

/-- Ends a process tree. -/
def runKill (number : Int) (mode : Mode) (now : Int) (w : World) : Printed × World :=
  match ProcessId.require number with
  | .error failure => (.failing (.of failure.message), w)
  | .ok pid =>
    match Controller.unix.terminate pid mode now w with
    | (.ok (), w) => (.line s!"Sent {mode.name} termination to process tree {pid.number}", w)
    | (.error failure, w) =>
      (.failing (.because s!"failed to terminate pid {pid.number} ({mode.name})" failure), w)

/-- What is printed for a stop that succeeded. -/
def stopPrinted (port : Port) (json : Bool) (report : Report) : Printed :=
  if json then .line report.toJson.display
  else
    match report.pid with
    | some pid =>
      .line (s!"Stopped pid {pid.number} on port {port} ({report.mode.name}), " ++
        s!"released after {report.elapsed} ms")
    | none => .line s!"Port {port} has no listener"

/-- Ends whoever listens on a port and waits until the port is closed. -/
def runStop (settings : Settings) (port : Port) (mode : Mode) (timing : Timing) (json : Bool) (now : Int)
    (w : World) : Printed × World :=
  let stopped := stopPort .unix settings port mode (timing.schedule settings) now w
  match stopped.result with
  | .ok report => (stopPrinted port json report, stopped.world)
  | .error failure =>
    (.failing (.because s!"failed to stop the listener on port {port}" failure), stopped.world)

/-! ## Waits -/

/-- Waits until ports are closed. -/
def runWaitClosed (settings : Settings) (ports : List Port) (timing : Timing) (now : Int) (w : World) :
    Printed × World :=
  if ports.any fun port => port.number = 0 then (.failing (.of "port 0 is not a valid TCP port"), w)
  else
    let schedule := timing.schedule settings
    let outcome := awaitPortsClosed settings ports schedule now w
    let named := Port.renderList ports
    if outcome.converged then (.line s!"Ports {named} closed", outcome.state)
    else
      (.failing (.of s!"ports {named} on {settings.host} still open after {schedule.span}"), outcome.state)

/-- Waits until an address accepts connections. -/
def runWaitHealthy (settings : Settings) (address : String) (timing : Timing) (now : Int) (w : World) :
    Printed × World :=
  let schedule := timing.schedule settings
  let check := World.tcpHealth settings.connectTimeout.toNat
  let outcome := waitUntil (.healthy check address) schedule now w
  if outcome.converged then (.line s!"{address} is healthy", outcome.state)
  else (.failing (.of s!"{address} did not become healthy within {schedule.span}"), outcome.state)

/-- Holds a port open until accepting a connection fails. -/
def runListen (settings : Settings) (port : Port) (now : Int) (w : World) : Printed × World :=
  match w.listen now settings.host port with
  | (.error fault, w) =>
    (.failing ⟨s!"failed to bind {settings.host}:{port}", some fault.message⟩, w)
  | (.ok endpoint, w) =>
    let (error, after) := World.acceptAll w.arrivals w
    let greeting := s!"Listening on {String.ofList endpoint.render} (pid {w.self})\n"
    ({ Printed.failing (.of error.message) with stdout := greeting }, after)

/-! ## Settings -/

/-- What is printed for settings. -/
def settingsPrinted (path : Path) (settings : Settings) (json : Bool) : Printed :=
  if json then .line settings.toJson.display
  else
    .line (String.intercalate "\n"
      [s!"Config file:      {String.ofList path}",
       s!"Poll interval:    {settings.pollInterval} ms",
       s!"Timeout:          {settings.timeout} ms",
       s!"Long timeout:     {settings.longTimeout} ms",
       s!"Connect timeout:  {settings.connectTimeout} ms",
       s!"Host:             {settings.host}"])

/-- Shows the settings, and writes them to their file first if that is asked for. -/
def runConfig (path : Path) (settings : Settings) (init : Bool) (json : Bool) (disk : Disk) :
    Printed × Disk :=
  if init then
    match settings.save path disk with
    | (.ok (), disk) =>
      ({ settingsPrinted path settings json with stderr := s!"Wrote {String.ofList path}\n" }, disk)
    | (.error failure, disk) =>
      (.failing (.because s!"failed to write {String.ofList path}" failure), disk)
  else (settingsPrinted path settings json, disk)

end Command

/-! ## Whole runs -/

/-- All that a run can change. -/
structure Machine where
  world : World
  disk : Disk

/-- Runs a command whose settings are there. -/
def Command.run (path : Path) (settings : Settings) (command : Command) (json : Bool) (now : Int)
    (machine : Machine) : Printed × Machine :=
  let onWorld (ran : Printed × World) : Printed × Machine := (ran.1, { machine with world := ran.2 })
  match command with
  | .lookup port => onWorld (runLookup port json machine.world)
  | .kill number mode => onWorld (runKill number mode now machine.world)
  | .stop port mode timing => onWorld (runStop settings port mode timing json now machine.world)
  | .waitClosed ports timing => onWorld (runWaitClosed settings ports timing now machine.world)
  | .waitHealthy address timing => onWorld (runWaitHealthy settings address timing now machine.world)
  | .listen port => onWorld (runListen settings port now machine.world)
  | .config init =>
    let ran := runConfig path settings init json machine.disk
    (ran.1, { machine with disk := ran.2 })

/-- **Runs a command.** -/
def Invocation.run (invocation : Invocation) (environment : Environment) (now : Int) (machine : Machine) :
    Printed × Machine :=
  match environment.settingsPath with
  | .error failure => (.failing (.of failure.message), machine)
  | .ok path =>
    match Settings.load path machine.disk with
    | .error failure => (.failing (.because s!"failed to load {String.ofList path}" failure), machine)
    | .ok settings => invocation.command.run path settings invocation.json now machine

/-! ## Lines that are no commands -/

/-- The name of the program, and with a verb of that command. -/
def programName : Option Verb → String
  | none => "teardown"
  | some verb => s!"teardown-{verb.word}"

/-- The forms of command lines. -/
def usageLines : String :=
  String.intercalate "\n"
    ["Usage: teardown [--json] [-v|--verbose] <command>",
     "",
     "  lookup <port>",
     "  kill <pid> [-f|--force]",
     "  stop <port> [-f|--force] [--timeout-ms <n>] [--interval-ms <n>]",
     "  wait-closed <port>... [--timeout-ms <n>] [--interval-ms <n>]",
     "  wait-healthy <address> [--timeout-ms <n>] [--interval-ms <n>]",
     "  listen <port>",
     "  config [--init]"]

/-- What is printed for a line that is no command. -/
def Halt.printed : Halt → Printed
  | .version verb => .line s!"{programName verb} 0.1.0"
  | .help _ => .line usageLines
  | .usage error => ⟨2, "", s!"error: {error.message}\n\n{usageLines}\n"⟩

/-- **Runs a command line.** -/
def runLine (words : List Text) (environment : Environment) (now : Int) (machine : Machine) :
    Printed × Machine :=
  match Invocation.read words with
  | .ok invocation => invocation.run environment now machine
  | .error halt => (halt.printed, machine)

end PortRelease
