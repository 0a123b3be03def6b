import PortRelease.Json.Basic
import PortRelease.Process.Basic
/-!
# Process values in JSON

A process id is its number. A mode is its word; where it is read, a record whose one member has that word as
its name and `null` as its value says the same.
-/

namespace PortRelease

/-- A process id as JSON. -/
def ProcessId.toJson (pid : ProcessId) : Json := .ofNat pid.number

/-- Reads a process id: a number spelled as a natural one, and one that a process can have. -/
def ProcessId.ofJson? (j : Json) : Option ProcessId := (j.natBelow? Numeral.limit32).bind ofNat?

/-- A mode as JSON. -/
def Mode.toJson (mode : Mode) : Json := .ofString mode.name

/-- Reads a mode. -/
def Mode.ofJson? : Json → Option Mode
  | .string (some word) => ofName? word
  | .object [(some word, .null)] => ofName? word
  | _ => none

theorem ProcessId.ofJson?_toJson (pid : ProcessId) : ofJson? pid.toJson = some pid := by
  have bound : pid.number < Numeral.limit32 := Nat.lt_of_le_of_lt pid.number_le (by decide)
  rw [ofJson?, toJson, Json.natBelow?_ofNat bound]
  exact ofNat?_number pid

theorem Mode.ofJson?_toJson (mode : Mode) : ofJson? mode.toJson = some mode := ofName?_name mode

end PortRelease
