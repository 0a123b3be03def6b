import PortRelease.Failure
import PortRelease.Port.Address
import PortRelease.Text.DecimalDigit
/-!
# A listing of sockets

The listening sockets of a machine as `ss -Htlnp` prints them: state, two queue lengths, local address, peer
address, and then the owners, in the form `users:(("name",pid=7,fd=3),("other",pid=8,fd=3))`. A socket whose
owners the reader may not see has no owners column.

Owners are recognised by their shape alone, wherever in the column they stand: a quote, characters that are
not quotes, a quote, `,pid=`, decimal digits, `,fd=`, decimal digits. The search goes from left to right and
continues after what it recognised, so of two that overlap the one that starts first counts. Names are printed
as they are, quotes included, so a name can contain the shape of an owner.
-/

namespace PortRelease

namespace Text

/-- What follows `part`, in a text that starts with it. -/
def after? : (part s : Text) → Option Text
  | [], s => some s
  | _ :: _, [] => none
  | p :: part, c :: s => if p = c then after? part s else none

theorem length_of_after? {part s rest : Text} (h : after? part s = some rest) :
    s.length = part.length + rest.length := by
  induction part generalizing s with
  | nil => obtain rfl := by simpa [after?] using h
           simp
  | cons p part ih =>
    cases s with
    | nil => simp [after?] at h
    | cons c s =>
      simp only [after?] at h
      split at h
      · simp only [List.length_cons, ih h]; omega
      · simp at h

end Text

namespace Listing

/-- The decimal digits at the start of a text, if there is one, and what follows them. -/
def digits? (s : Text) : Option (Text × Text) :=
  match s.takeWhile isDecimalDigit with
  | [] => none
  | found => some (found, s.dropWhile isDecimalDigit)

/-- The owner at the start of a text: the digits of its id, and what follows it. -/
def ownerHere? (s : Text) : Option (Text × Text) := do
  let name ← Text.after? ['"'] s
  let (_, afterName) ← Text.splitFirst '"' name
  let (pid, afterPid) ← digits? (← Text.after? ",pid=".toList afterName)
  let (_, rest) ← digits? (← Text.after? ",fd=".toList afterPid)
  return (pid, rest)

theorem length_of_digits? {s found rest : Text} (h : digits? s = some (found, rest)) :
    rest.length ≤ s.length := by
  unfold digits? at h
  split at h
  · simp at h
  · obtain ⟨-, rfl⟩ := by simpa using h
    exact (List.dropWhile_sublist _).length_le

theorem length_of_ownerHere? {s pid rest : Text} (h : ownerHere? s = some (pid, rest)) :
    rest.length < s.length := by
  simp only [ownerHere?, bind, Option.bind_eq_some_iff, pure, Prod.exists] at h
  obtain ⟨name, hname, _, afterName, hquote, afterMark, hmark, pid', afterPid, hpid, afterMark', hmark',
    _, rest', hrest, heq⟩ := h
  obtain ⟨-, rfl⟩ := by simpa using heq
  have h1 := Text.length_of_after? hname
  have h2 := congrArg List.length (Text.eq_of_splitFirst hquote)
  have h3 := Text.length_of_after? hmark
  have h4 := length_of_digits? hpid
  have h5 := Text.length_of_after? hmark'
  have h6 := length_of_digits? hrest
  simp only [List.length_append, List.length_cons, List.length_nil] at h1 h2
  omega

/-- The digits of the owners' ids in a text, from left to right. -/
def ownerTexts : Text → List Text
  | [] => []
  | c :: rest =>
    match _h : ownerHere? (c :: rest) with
    | some (pid, afterOwner) => pid :: ownerTexts afterOwner
    | none => ownerTexts rest
termination_by s => s.length
decreasing_by
  · exact length_of_ownerHere? _h
  · exact Nat.lt_succ_self _

/-- The owners in a text; digits that are no number below 2^32 name nobody. -/
def owners (s : Text) : List Nat := (ownerTexts s).filterMap (Numeral.readBelow? Numeral.limit32)

/-- The owners on a line, if the line is a socket that listens on `port`. -/
def socketOwners? (port : Port) (line : Text) : Option (List Nat) :=
  match line.words with
  | state :: _ :: _ :: here :: _ :: users =>
    if state = "LISTEN".toList ∧ SocketAddress.hasPort port here then
      some (owners (Text.join [' '] users))
    else none
  | _ => none

/-- What a listing of sockets says about a port. -/
structure Listeners where
  /-- The owners that it shows, each once, in order of first appearance. -/
  pids : List Nat
  /-- Whether it shows a listener without an owner. -/
  ownerHidden : Bool
  deriving DecidableEq

/-- The listeners on `port`. -/
def listeners (port : Port) (output : Text) : Listeners :=
  let rows := output.lines.filterMap (socketOwners? port)
  ⟨rows.flatten.eraseDups, rows.any List.isEmpty⟩

/-- **Who listens**: if no owner is shown although there is a listener, that is a failure; otherwise the first
shown owner that is the id of a process. -/
def Listeners.lookup (listeners : Listeners) (port : Port) : Except Failure Lookup :=
  if listeners.pids.isEmpty && listeners.ownerHidden then .error (.ownerNotVisible port)
  else .ok (Lookup.firstOf port listeners.pids)

theorem Listeners.firstOf_of_lookup {listeners : Listeners} {port : Port} {lookup : Lookup}
    (answer : listeners.lookup port = .ok lookup) : Lookup.firstOf port listeners.pids = lookup := by
  unfold Listeners.lookup at answer
  split at answer
  next => cases answer
  next => exact Except.ok.inj answer

/-- With an owner shown, the first that a process can be is the answer. -/
theorem Listeners.lookup_of_pids {listeners : Listeners} (some_pid : listeners.pids ≠ []) (port : Port) :
    listeners.lookup port = .ok (Lookup.firstOf port listeners.pids) := by
  rw [Listeners.lookup, List.isEmpty_eq_false_iff.mpr some_pid]
  rfl

/-- Who is found is an owner. -/
theorem mem_pids_of_found {listeners : Listeners} {port : Port} {binding : Binding}
    (found : listeners.lookup port = .ok (.found binding)) : binding.pid.number ∈ listeners.pids := by
  obtain ⟨-, before, after, pids, -⟩ := Lookup.firstOf_eq_found_iff.mp (Listeners.firstOf_of_lookup found)
  rw [pids]
  exact List.mem_append_right before List.mem_cons_self

end Listing

end PortRelease
