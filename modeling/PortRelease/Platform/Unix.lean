import PortRelease.Listing.Pids
import PortRelease.Listing.Processes
import PortRelease.Listing.Sockets
import PortRelease.Platform.Tool
import PortRelease.World.Processes
/-!
# Unix: signals, `ps`, `ss` and `lsof`

**Ending a process tree.** The tree is taken from a snapshot that is made first, because the children of a dead
process are given to another parent. Then the root is signalled, and what comes of that is the result. Only
after a success do its process group, if it leads one, and every process of the snapshot get the same signal;
what comes of those signals is not reported.

**Finding a listener.** `ss` is asked, or `lsof` where there is no `ss`. A tool that cannot be started, that
reports failure or that prints no text is a failure of the question, never an answer; only `lsof` says by exit
code 1 and silence that it found nothing.
-/

namespace PortRelease

namespace Unix

/-! ## Ending a process tree -/

/-- The descendants of a process that a run of `ps` shows, or none if it shows no table. -/
def descendantsIn (root : ProcessId) : ToolRun → List Nat
  | .ok output =>
    if output.succeeded then
      match Utf8.decode output.stdout with
      | .ok text => (Listing.processTable text).descendants root.number
      | .error _ => []
    else []
  | .error _ => []

/-- The descendants of a process at this moment. -/
def descendants (root : ProcessId) (w : World) : List Nat × World :=
  let (run, w) := w.launch "ps" ["-A", "-o", "pid=,ppid="]
  (descendantsIn root run, w)

/-- The failure that a refused signal to the root means. -/
def rootFailure (root : ProcessId) (refusal : Errno) : Failure :=
  if refusal = .noProcess then .processNotFound root.number
  else if refusal = .notPermitted then .permissionDenied root.number
  else .killFailed root.number refusal.signalSentence

/-- Signals the group that a process leads, if it leads one. -/
def signalLedGroup (now : Int) (leader : ProcessId) (signal : Signal) (w : World) : World :=
  if w.groupOf? now leader = some leader.number then (w.signalGroup now leader signal).2 else w

/-- Signals each process of a list, in order; numbers that no process can have are passed over. -/
def signalEach (now : Int) (signal : Signal) : List Nat → World → World
  | [], w => w
  | n :: rest, w =>
    match ProcessId.ofNat? n with
    | some pid => signalEach now signal rest (w.signal now pid signal).2
    | none => signalEach now signal rest w

/-- **Ends the process tree below `root`.** -/
def terminate (root : ProcessId) (mode : Mode) (now : Int) (w : World) : Except Failure Unit × World :=
  let signal := Signal.ofMode mode
  let (tree, w) := descendants root w
  match w.signal now root signal with
  | (some refusal, w) => (.error (rootFailure root refusal), w)
  | (none, w) => (.ok (), signalEach now signal tree (signalLedGroup now root signal w))

/-! ## Finding a listener -/

/-- What an answer of `ss` says about a port. -/
def socketAnswer (port : Port) (output : ToolOutput) : Except Failure Lookup :=
  if output.succeeded then
    match output.text "ss" with
    | .ok text => (Listing.listeners port text).lookup port
    | .error failure => .error failure
  else .error (.commandFailed s!"ss failed: {output.complaint}")

/-- What an answer of `lsof` says about a port. -/
def openFileAnswer (port : Port) (output : ToolOutput) : Except Failure Lookup :=
  if output.succeeded then
    match output.text "lsof" with
    | .ok text => .ok (Lookup.firstOf port (Listing.pids text))
    | .error failure => .error failure
  else if output.exit = .code 1 ∧ output.stdout = [] then .ok .notFound
  else .error (.commandFailed s!"lsof failed: {output.complaint}")

/-- Asks `lsof` for the listener on a port. -/
def lookupByFiles (port : Port) (w : World) : Except Failure Lookup × World :=
  match w.launch "lsof" ["-nP", "-t", s!"-iTCP:{port}", "-sTCP:LISTEN"] with
  | (.ok output, w) => (openFileAnswer port output, w)
  | (.error e, w) => (.error (.cannotRun "lsof" e), w)

/-- **Finds the listener on a port.** -/
def lookup (port : Port) (w : World) : Except Failure Lookup × World :=
  match w.launch "ss" ["-Htlnp", "sport", "=", s!":{port}"] with
  | (.ok output, w) => (socketAnswer port output, w)
  | (.error e, w) => if e = .noEntry then lookupByFiles port w else (.error (.cannotRun "ss" e), w)

end Unix

end PortRelease
