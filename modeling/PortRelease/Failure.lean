import PortRelease.Errno.Basic
import PortRelease.Port.Basic
import PortRelease.Text.Span
/-!
# Failures

Everything that can go wrong, by cause, and the sentence that reports it.
-/

namespace PortRelease

/-- Why an operation failed. -/
inductive Failure where
  /-- No process can have this number. -/
  | invalidPid (raw : Int)
  /-- The operation means nothing for this port. -/
  | invalidPort (port : Port)
  /-- A tool could not be started, or reported failure. -/
  | commandFailed (detail : String)
  /-- The output of a tool cannot be read. -/
  | unreadableOutput (detail : String)
  /-- There is no such process. -/
  | processNotFound (pid : Nat)
  /-- Somebody listens on the port, but may not be seen. -/
  | ownerNotVisible (port : Port)
  /-- The process may not be signalled. -/
  | permissionDenied (pid : Nat)
  /-- The process could not be ended for another reason. -/
  | killFailed (pid : Nat) (reason : String)
  /-- A wait ended before what it waited for. -/
  | notConverged (waited : Span) (awaited : String)
  /-- An input or output operation failed. -/
  | io (fault : IoFault)
  /-- A JSON text is not what it should be. -/
  | json (detail : String)
  /-- The settings cannot be had, or kept, or are not valid. -/
  | settings (detail : String)
  /-- The platform has no way to do it. -/
  | unsupportedPlatform (detail : String)
  deriving DecidableEq

/-- Results, too, can be compared; by this instance also where a library brings one of its own. -/
instance (priority := high) decidableEqExcept {ε α : Type} [DecidableEq ε] [DecidableEq α] :
    DecidableEq (Except ε α)
  | .ok a, .ok b => decidable_of_iff (a = b) ⟨congrArg Except.ok, Except.ok.inj⟩
  | .error e, .error f => decidable_of_iff (e = f) ⟨congrArg Except.error, Except.error.inj⟩
  | .ok _, .error _ => isFalse nofun
  | .error _, .ok _ => isFalse nofun

namespace Failure

/-- **The sentence that reports a failure.** -/
def message : Failure → String
  | invalidPid raw => s!"Invalid process id: {raw}"
  | invalidPort port => s!"Invalid port: {port}"
  | commandFailed detail => s!"Command execution failed: {detail}"
  | unreadableOutput detail => s!"Failed to parse output: {detail}"
  | processNotFound pid => s!"Process with PID {pid} not found"
  | ownerNotVisible port =>
    s!"Port {port} has a listener whose owner is not visible (insufficient privileges)"
  | permissionDenied pid => s!"Permission denied to kill process {pid}"
  | killFailed pid reason => s!"Failed to kill process {pid}: {reason}"
  | notConverged waited awaited => s!"Timed out after {waited.render} waiting for {awaited}"
  | io fault => s!"I/O error: {fault.message}"
  | json detail => s!"JSON error: {detail}"
  | settings detail => s!"Configuration error: {detail}"
  | unsupportedPlatform detail => s!"Platform not supported: {detail}"

/-- Whether the failure says that the process is gone. -/
def isNotFound : Failure → Bool
  | processNotFound _ => true
  | _ => false

end Failure

/-- The process with a given number, or the failure that says it is none. -/
def ProcessId.require (raw : Int) : Except Failure ProcessId :=
  match ofInt? raw with
  | some pid => .ok pid
  | none => .error (.invalidPid raw)

end PortRelease
