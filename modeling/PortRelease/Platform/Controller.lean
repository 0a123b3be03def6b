import PortRelease.Platform.Unix
import PortRelease.Platform.Windows
/-!
# Controllers

What a platform offers: ending a process tree and finding the listener on a port. Port 0 stands for "any free
port" and has no listener, so a controller that is asked by the rest of the library refuses it before any tool
runs.
-/

namespace PortRelease

/-- The two things that a platform can do. -/
structure Controller where
  terminate : ProcessId → Mode → Int → World → Except Failure Unit × World
  lookup : Port → World → Except Failure Lookup × World

namespace Controller

/-- The controller of a Unix machine. -/
def unix : Controller := ⟨Unix.terminate, Unix.lookup⟩

/-- The controller of a Windows machine. -/
def windows : Controller := ⟨Windows.terminate, Windows.lookup⟩

/-- **Finds the listener on a port**, which must not be 0. -/
def resolve (controller : Controller) (port : Port) (w : World) : Except Failure Lookup × World :=
  if port.number = 0 then (.error (.invalidPort port), w) else controller.lookup port w

end Controller

end PortRelease
