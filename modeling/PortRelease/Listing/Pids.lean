import PortRelease.Text.Numeral
/-!
# A listing of process ids

One number on each line, as `lsof -t` and PowerShell print the owners of a socket. Blanks around a number do
not count, a line that holds anything else than one number below 2^32 is passed over, and a number that occurs
again adds nothing.
-/

namespace PortRelease.Listing

/-- The number on a line. -/
def pid? (line : Text) : Option Nat := Numeral.readBelow? Numeral.limit32 line.trim

/-- The numbers in a listing, each once, in order of first appearance. -/
def pids (output : Text) : List Nat := (output.lines.filterMap pid?).eraseDups

end PortRelease.Listing
