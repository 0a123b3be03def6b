import PortRelease.Port.Json
/-!
# Reports

What a stop did: whom it ended, if anybody, in which mode, which ports were then closed, and how long that
took.
-/

namespace PortRelease

/-- The report of a stop. -/
structure Report where
  /-- The root of the tree that was ended; nobody, if nobody listened. -/
  pid : Option ProcessId
  mode : Mode
  /-- The ports that do not accept connections any more. -/
  ports : List Port
  /-- The milliseconds from the signals until the ports were closed. -/
  elapsed : Nat
  deriving DecidableEq

/-- A report as JSON. -/
def Report.toJson (report : Report) : Json :=
  .record
    [("pid", (report.pid.map ProcessId.toJson).getD .null), ("mode", report.mode.toJson),
     ("ports", .array (report.ports.map Port.toJson)), ("elapsedMs", .ofNat report.elapsed)]

end PortRelease
