import PortRelease.Process.Basic
/-!
# Ports and who holds them

A port number fits sixteen bits; port 0 is a number like the others here, and the operations for which it
means nothing refuse it themselves.
-/

namespace PortRelease

/-- A TCP port. -/
structure Port where
  number : Nat
  number_lt : number < 65536
  deriving DecidableEq

namespace Port

/-- The port with this number. -/
def ofNat? (n : Nat) : Option Port := if h : n < 65536 then some ⟨n, h⟩ else none

/-- The port that a numeral names. -/
def read? (s : Text) : Option Port := (Numeral.readNat? s).bind ofNat?

@[simp] theorem ofNat?_number (port : Port) : ofNat? port.number = some port := by
  simp [ofNat?, port.number_lt]

theorem number_of_ofNat? {n : Nat} {port : Port} (h : ofNat? n = some port) : port.number = n := by
  unfold ofNat? at h
  split at h
  · obtain rfl := by simpa using h
    rfl
  · simp at h

instance : ToString Port := ⟨fun port => toString port.number⟩

/-- The text of a list of ports, in brackets. -/
def renderList (ports : List Port) : String :=
  "[" ++ String.intercalate ", " (ports.map toString) ++ "]"

end Port

/-- A port and the process that listens on it. -/
structure Binding where
  port : Port
  pid : ProcessId
  deriving DecidableEq

/-- What a question for the owner of a port finds. A question that could not be answered finds nothing of
either kind: it fails. -/
inductive Lookup where
  /-- A process listens on the port. -/
  | found (binding : Binding)
  /-- Nobody listens on the port. -/
  | notFound
  deriving DecidableEq

namespace Lookup

/-- The owner, if there is one. -/
def pid? : Lookup → Option ProcessId
  | .found binding => some binding.pid
  | .notFound => none

/-- Whether there is an owner. -/
def isFound (lookup : Lookup) : Bool := lookup.pid?.isSome

/-- **The first reported number that a process can have is the owner**; numbers that no process can have are
passed over. -/
def firstOf (port : Port) (pids : List Nat) : Lookup :=
  match pids.filterMap ProcessId.ofNat? with
  | pid :: _ => .found ⟨port, pid⟩
  | [] => .notFound

theorem firstOf_eq_notFound_iff {port : Port} {pids : List Nat} :
    firstOf port pids = .notFound ↔ ∀ n ∈ pids, ProcessId.ofNat? n = none := by
  rw [← List.filterMap_eq_nil_iff, firstOf]
  split
  next some_pid => simp [some_pid]
  next nobody => simp [nobody]

theorem firstOf_eq_found_iff {port : Port} {pids : List Nat} {binding : Binding} :
    firstOf port pids = .found binding ↔ binding.port = port ∧
      ∃ before after, pids = before ++ binding.pid.number :: after ∧ ∀ n ∈ before, ProcessId.ofNat? n = none := by
  constructor
  · intro found
    unfold firstOf at found
    split at found
    next pid others first =>
      obtain ⟨before, n, after, rfl, skipped, possible, -⟩ := List.filterMap_eq_cons_iff.mp first
      obtain rfl := Lookup.found.inj found
      exact ⟨rfl, before, after, by rw [ProcessId.number_of_ofNat? possible], skipped⟩
    next => cases found
  · rintro ⟨rfl, before, after, rfl, skipped⟩
    have first := List.filterMap_eq_cons_iff.mpr
      ⟨before, _, after, rfl, skipped, ProcessId.ofNat?_number binding.pid, rfl⟩
    rw [firstOf, first]

end Lookup

end PortRelease
