import PortRelease.Text.Numeral
/-!
# Processes and how to end them

A process that can be signalled has a positive id that fits a signed 32-bit word. The bound is part of the
type, so no operation on a process can meet 0, a negative number or a number that would wrap: those address
groups or everyone.
-/

namespace PortRelease

/-- The id of one process. -/
structure ProcessId where
  number : Nat
  number_pos : 0 < number
  number_le : number ≤ 2147483647
  deriving DecidableEq

namespace ProcessId

/-- The process with this number, if a process can have it. -/
def ofNat? (n : Nat) : Option ProcessId :=
  if h : 0 < n ∧ n ≤ 2147483647 then some ⟨n, h.1, h.2⟩ else none

/-- The process with this number, for a number that may be negative. -/
def ofInt? (n : Int) : Option ProcessId :=
  if 0 < n then ofNat? n.toNat else none

@[simp] theorem ofNat?_number (pid : ProcessId) : ofNat? pid.number = some pid := by
  simp [ofNat?, pid.number_pos, pid.number_le]

theorem number_of_ofNat? {n : Nat} {pid : ProcessId} (h : ofNat? n = some pid) : pid.number = n := by
  unfold ofNat? at h
  split at h
  · obtain rfl := by simpa using h
    rfl
  · simp at h

theorem ofNat?_eq_none_iff {n : Nat} : ofNat? n = none ↔ n = 0 ∨ 2147483647 < n := by
  unfold ofNat?
  split
  · simp; omega
  · simp; omega

end ProcessId

/-- How insistently a process is asked to end. -/
inductive Mode where
  /-- It may clean up first. -/
  | graceful
  /-- It is ended at once. -/
  | forced
  deriving DecidableEq

namespace Mode

/-- The mode that the force flag selects. -/
def ofForce (force : Bool) : Mode := if force then .forced else .graceful

/-- Where nothing is said, a process is ended gracefully. -/
instance : Inhabited Mode := ⟨.graceful⟩

/-- The word for a mode. -/
def name : Mode → String
  | .graceful => "graceful"
  | .forced => "forced"

/-- The mode that a word names. -/
def ofName? (s : Text) : Option Mode :=
  if s = "graceful".toList then some .graceful
  else if s = "forced".toList then some .forced
  else none

theorem ofName?_name (mode : Mode) : ofName? mode.name.toList = some mode := by cases mode <;> decide

end Mode

/-- The two signals that end a process. -/
inductive Signal where
  /-- SIGTERM: a request that a process may handle. -/
  | terminate
  /-- SIGKILL. -/
  | kill
  deriving DecidableEq

namespace Signal

/-- The signal that a mode sends. -/
def ofMode : Mode → Signal
  | .graceful => .terminate
  | .forced => .kill

/-- The symbol of a signal. -/
def symbol : Signal → String
  | .terminate => "SIGTERM"
  | .kill => "SIGKILL"

/-- The signal with this symbol. -/
def ofSymbol? (s : String) : Option Signal :=
  if s = "SIGTERM" then some .terminate else if s = "SIGKILL" then some .kill else none

end Signal

end PortRelease
