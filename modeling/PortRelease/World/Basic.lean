import PortRelease.Errno.Basic
import PortRelease.Network.Address
import PortRelease.Text.Utf8
/-!
# The world the library acts on

Everything outside the library that its answers depend on: the tools that can be run and what they print, the
processes and how they take signals, which endpoints answer when, the names of hosts, and what arrives at a
listening socket. What the library does to it is kept as a list of events.

The world has no clock: what depends on time is asked for an instant. The events are a record only; nothing
that the world answers depends on them.
-/

namespace PortRelease

/-- How a tool ended. -/
inductive Exit where
  /-- With an exit code. -/
  | code (n : Int)
  /-- By a signal. -/
  | signalled
  deriving DecidableEq

/-- What a tool that was run leaves behind. -/
structure ToolOutput where
  exit : Exit
  stdout : List UInt8
  stderr : List UInt8
  deriving DecidableEq

/-- Whether the tool reported success. -/
def ToolOutput.succeeded (output : ToolOutput) : Bool := output.exit = .code 0

/-- What comes of one attempt to run a tool: it cannot be started, or it runs. -/
abbrev ToolRun := Except Errno ToolOutput

/-- A process: who it is, how it takes signals, and what it holds. -/
structure ProcessState where
  pid : Nat
  /-- The process group it belongs to. -/
  group : Nat
  /-- The error with which it meets every signal, if it does. -/
  refusal : Option Errno
  /-- The milliseconds from the signal that ends it to its end. -/
  exitDelay : Nat
  /-- The signals that have no effect on it. -/
  ignores : List Signal
  /-- The endpoints it listens on. -/
  sockets : List Endpoint
  /-- From when on it is dead, once a signal has ended it. -/
  deadFrom : Option Int
  deriving DecidableEq

/-- What a connection meets at an endpoint. -/
inductive Reachability where
  /-- It is accepted. -/
  | open
  /-- It is refused. -/
  | refused
  /-- Nothing answers, ever. -/
  | hang
  /-- It fails at once with an error. -/
  | failing (error : Errno)
  deriving DecidableEq

/-- What an endpoint answers over time: each entry holds from its instant on. -/
abbrev Timeline := List (Int × Reachability)

/-- Something that the library did to the world. -/
inductive Event where
  /-- It ran a tool. -/
  | ran (tool : String) (arguments : List String)
  /-- It signalled a process. -/
  | signalled (pid : Nat) (signal : Signal) (refusal : Option Errno)
  /-- It signalled a process group. -/
  | signalledGroup (group : Nat) (signal : Signal) (refusal : Option Errno)
  /-- It tried to connect. -/
  | connected (endpoint : Endpoint) (time : Int) (met : Reachability)
  /-- It tried to listen. -/
  | bound (endpoint : Endpoint) (refusal : Option Errno)
  /-- It accepted a connection, or failed to. -/
  | accepted (refusal : Option Errno)
  deriving DecidableEq

/-- The world. -/
structure World where
  /-- For each tool that exists what comes of running it, time after time; the last entry is for ever. -/
  tools : List (String × List ToolRun)
  processes : List ProcessState
  network : List (Endpoint × Timeline)
  hosts : List (String × List Ip)
  /-- The id of the process that the library runs in. -/
  self : Nat
  /-- What accepting a connection yields, time after time: a connection, or an error. -/
  arrivals : List (Option Errno)
  /-- What was done to the world, the latest first. -/
  log : List Event

namespace World

/-- A world with one event more. -/
def record (w : World) (event : Event) : World := { w with log := event :: w.log }

/-- What was done to the world, in order. -/
def events (w : World) : List Event := w.log.reverse

/-! ## Tools -/

/-- The tools after one run of `tool`: a script of several runs loses its first. -/
def spend (tool : String) : List (String × List ToolRun) → List (String × List ToolRun)
  | [] => []
  | (name, runs) :: rest =>
    if name = tool then
      match runs with
      | _ :: next :: later => (name, next :: later) :: rest
      | _ => (name, runs) :: rest
    else (name, runs) :: spend tool rest

/-- **Runs a tool.** A tool that does not exist cannot be started, and only a tool that was started is an
event. -/
def launch (tool : String) (arguments : List String) (w : World) : ToolRun × World :=
  match (w.tools.lookup tool).bind List.head? with
  | none => (.error .noEntry, w)
  | some (.error e) => (.error e, { w with tools := spend tool w.tools })
  | some (.ok output) => (.ok output, { w.record (.ran tool arguments) with tools := spend tool w.tools })

end World

end PortRelease
