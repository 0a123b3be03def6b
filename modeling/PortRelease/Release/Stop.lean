import PortRelease.Platform.Controller
import PortRelease.Release.Report
import PortRelease.Settings.Basic
import PortRelease.World.Network
/-!
# Stopping what listens

To stop a process is to end its tree and then to wait until given ports of the watched host are closed. To stop
a port is to find its listener and to stop that process with that port; a port without a listener is stopped
already. A wait that runs out is a failure that names the process and the ports.
-/

namespace PortRelease

/-- What came of a stop: the result, when it was there, and the world after. -/
structure Stopped where
  result : Except Failure Report
  finished : Int
  world : World

namespace Stopped

/-- A stop that ends at once. -/
def atOnce (now : Int) (result : Except Failure Report) (w : World) : Stopped := ⟨result, now, w⟩

end Stopped

/-- The wait for ports of the watched host to close. -/
def awaitPortsClosed (settings : Settings) (ports : List Port) (schedule : Schedule) (now : Int) (w : World) :
    Outcome World :=
  waitUntil (World.portsClosed settings.host settings.connectTimeout.toNat ports) schedule now w

/-- The failure of a stop whose ports stay open. -/
def portsStillOpen (settings : Settings) (pid : ProcessId) (ports : List Port) (waited : Nat) : Failure :=
  .notConverged (.ofMilliseconds waited)
    s!"pid {pid.number} to release {(Awaited.portsClosed settings.host ports).description}"

/-- **Stops a process**: ends its tree and waits until the ports are closed. -/
def stopProcess (controller : Controller) (settings : Settings) (pid : ProcessId) (mode : Mode)
    (ports : List Port) (schedule : Schedule) (now : Int) (w : World) : Stopped :=
  match controller.terminate pid mode now w with
  | (.error failure, w) => .atOnce now (.error failure) w
  | (.ok (), w) =>
    if ports = [] then .atOnce now (.ok ⟨some pid, mode, ports, 0⟩) w
    else
      let outcome := awaitPortsClosed settings ports schedule now w
      let elapsed := (outcome.finished - now).toNat
      let result :=
        if outcome.converged then .ok ⟨some pid, mode, ports, elapsed⟩
        else .error (portsStillOpen settings pid ports elapsed)
      ⟨result, outcome.finished, outcome.state⟩

/-- **Stops whoever listens on a port.** -/
def stopPort (controller : Controller) (settings : Settings) (port : Port) (mode : Mode) (schedule : Schedule)
    (now : Int) (w : World) : Stopped :=
  match controller.resolve port w with
  | (.error failure, w) => .atOnce now (.error failure) w
  | (.ok .notFound, w) => .atOnce now (.ok ⟨none, mode, [port], 0⟩) w
  | (.ok (.found binding), w) => stopProcess controller settings binding.pid mode [port] schedule now w

end PortRelease
