import PortRelease.Process.Tree
/-!
# A listing of processes

The process table as `ps` prints it: on each line the id of a process and the id of its parent. A line whose
first two words are not both numbers below 2^32 is no row; what follows them is ignored.
-/

namespace PortRelease.Listing

/-- The row on a line. -/
def processRow? (line : Text) : Option ProcessRow :=
  match line.words with
  | pid :: parent :: _ => do
    return ⟨← Numeral.readBelow? Numeral.limit32 pid, ← Numeral.readBelow? Numeral.limit32 parent⟩
  | _ => none

/-- The table in the output of `ps`. -/
def processTable (output : Text) : ProcessTable := output.lines.filterMap processRow?

end PortRelease.Listing
