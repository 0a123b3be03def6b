import PortRelease.Port.Basic
/-!
# Commands

What the program can be asked to do, once the words of a command line have been understood.
-/

namespace PortRelease

/-- The times that a command line gives for one wait, in milliseconds, in place of those that are set. -/
structure Timing where
  timeout : Option UInt64
  interval : Option UInt64
  deriving DecidableEq

/-- What the program is asked to do. -/
inductive Command where
  /-- Tell who listens on a port. -/
  | lookup (port : Port)
  /-- End a process tree, whose root is given as it was written. -/
  | kill (number : Int) (mode : Mode)
  /-- End whoever listens on a port and wait until the port is closed. -/
  | stop (port : Port) (mode : Mode) (timing : Timing)
  /-- Wait until ports are closed. -/
  | waitClosed (ports : List Port) (timing : Timing)
  /-- Wait until an address accepts connections. -/
  | waitHealthy (address : String) (timing : Timing)
  /-- Hold a port open. -/
  | listen (port : Port)
  /-- Show the settings, and write them to their file first if `init` is set. -/
  | config (init : Bool)
  deriving DecidableEq

/-- A command and how it is to report. -/
structure Invocation where
  command : Command
  /-- Results are printed as JSON. -/
  json : Bool
  /-- More is logged. -/
  verbose : Bool
  deriving DecidableEq

end PortRelease
