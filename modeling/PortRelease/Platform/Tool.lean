import PortRelease.Failure
import PortRelease.World.Basic
/-!
# Asking a tool

How the output of a tool becomes text, and the failures that are the same for every tool.
-/

namespace PortRelease

/-- What a tool complained about, without the blanks around it; what is no text there is replaced. -/
def ToolOutput.complaint (output : ToolOutput) : String :=
  String.ofList (Text.trim (Utf8.decodeLenient output.stderr))

/-- What a tool printed, which must be a text. -/
def ToolOutput.text (tool : String) (output : ToolOutput) : Except Failure Text :=
  match Utf8.decode output.stdout with
  | .ok text => .ok text
  | .error fault => .error (.unreadableOutput s!"Invalid UTF-8 in {tool} output: {fault.message}")

/-- The failure to start a tool. -/
def Failure.cannotRun (tool : String) (e : Errno) : Failure :=
  .commandFailed s!"Failed to run {tool}: {e.message}"

end PortRelease
