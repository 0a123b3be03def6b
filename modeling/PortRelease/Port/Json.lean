import PortRelease.Port.Basic
import PortRelease.Process.Json
/-!
# Port values in JSON

A binding is a record of `port` and `pid`. A lookup is a record that says in `status` what it is, `found` or
`notFound`, and in the first case has the members of the binding beside it; as an array it starts with the
status. What a lookup is can stand behind its parts, so the parts are kept until then and must be storable,
also those that are of no use.
-/

namespace PortRelease

/-- A port as JSON. -/
def Port.toJson (port : Port) : Json := .ofNat port.number

/-- Reads a port. -/
def Port.ofJson? (j : Json) : Option Port := (j.natBelow? 65536).bind ofNat?

theorem Port.ofJson?_toJson (port : Port) : ofJson? port.toJson = some port := by
  simp [ofJson?, toJson, Json.natBelow?_ofNat port.number_lt]

namespace Binding

/-- The members of a binding, in order. -/
def members (binding : Binding) : List (String × Json) :=
  [("port", binding.port.toJson), ("pid", binding.pid.toJson)]

/-- A binding as JSON. -/
def toJson (binding : Binding) : Json := .record binding.members

/-- Reads a binding, as a record or as an array of the port and the process id. -/
def ofJson? (j : Json) : Option Binding := do
  match ← j.fields? ["port".toList, "pid".toList] with
  | [some port, some pid] => return ⟨← Port.ofJson? port, ← ProcessId.ofJson? pid⟩
  | _ => none

end Binding

namespace Lookup

/-- A lookup as JSON. -/
def toJson : Lookup → Json
  | .found binding => .record (("status", .ofString "found") :: binding.members)
  | .notFound => .record [("status", .ofString "notFound")]

/-- Reads a lookup whose status is known, from what stands beside the status. -/
def ofStatus? (status : Text) (rest : Json) : Option Lookup :=
  if status = "found".toList then (Binding.ofJson? rest).map .found
  else if status = "notFound".toList then
    match rest with
    | .array (_ :: _) => none
    | _ => some .notFound
  else none

/-- The status of a lookup and what stands beside it. -/
def status? : Json → Option (Text × Json)
  | .object members =>
    match members.partition fun member => member.1 == some "status".toList with
    | ([(_, .string (some status))], others) => some (status, .object others)
    | _ => none
  | .array (.string (some status) :: rest) => some (status, .array rest)
  | _ => none

/-- **Reads a lookup.** -/
def ofJson? (j : Json) : Option Lookup :=
  if j.storable then (status? j).bind fun (status, rest) => ofStatus? status rest else none

end Lookup

end PortRelease
