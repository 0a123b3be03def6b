import PortRelease.Failure
/-!
# What a command prints

A command ends with an exit code and two texts, one for results and one for messages. A command that fails
prints a complaint and no result: what went wrong, and below it the cause where that is told apart.
-/

namespace PortRelease

/-- What went wrong, and its cause. -/
structure Complaint where
  summary : String
  cause : Option String
  deriving DecidableEq

namespace Complaint

/-- A complaint that is its own cause. -/
def of (summary : String) : Complaint := ⟨summary, none⟩

/-- A complaint that a failure is the cause of. -/
def because (summary : String) (failure : Failure) : Complaint := ⟨summary, some failure.message⟩

/-- A text with every line further in. -/
def inset (text : String) : String :=
  String.ofList (text.toList.flatMap fun c => if c = '\n' then "\n    ".toList else [c])

/-- **The text of a complaint.** -/
def render (complaint : Complaint) : String :=
  match complaint.cause with
  | none => s!"Error: {complaint.summary}\n"
  | some cause => s!"Error: {complaint.summary}\n\nCaused by:\n    {inset cause}\n"

end Complaint

/-- How a command ends. -/
structure Printed where
  exit : Nat
  stdout : String
  stderr : String
  deriving DecidableEq

namespace Printed

/-- A command that succeeds with a line of results. -/
def line (result : String) : Printed := ⟨0, result ++ "\n", ""⟩

/-- A command that fails. -/
def failing (complaint : Complaint) : Printed := ⟨1, "", complaint.render⟩

end Printed

end PortRelease
