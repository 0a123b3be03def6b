import PortRelease.Process.Basic
/-!
# The process tree

A process table says of each process who its parent is. It is a snapshot printed by another program, so
nothing is assumed of it: a process may occur in several rows, have several parents, be its own parent, or
stand on a cycle, and ids outside the range of a process may occur.

The descendants of a root are found round by round: the children of the processes found last, in the order of
those processes and of the rows, without the ones found before. So they come breadth first, each once, and the
root is not one of them. Every round but the last finds the process of some row for the first time, so as many
rounds as the table has rows are enough.
-/

namespace PortRelease

/-- One row of a process table. -/
structure ProcessRow where
  pid : Nat
  parent : Nat
  deriving DecidableEq

/-- A snapshot of who is whose child. -/
abbrev ProcessTable := List ProcessRow

namespace ProcessTable

/-- The children of a process in row order; a process is no child of itself. -/
def childrenOf (table : ProcessTable) (parent : Nat) : List Nat :=
  (table.filter fun row => row.parent == parent && row.pid != row.parent).map ProcessRow.pid

/-- The children of the processes in `found` that are not in `seen`, each once. -/
def fresh (table : ProcessTable) (seen found : List Nat) : List Nat :=
  ((found.flatMap table.childrenOf).filter fun pid => !seen.contains pid).eraseDups

/-- What at most `rounds` rounds find, after the round that found `found`. -/
def grow (table : ProcessTable) : (rounds : Nat) → (seen found : List Nat) → List Nat
  | 0, _, _ => []
  | rounds + 1, seen, found =>
    match table.fresh seen found with
    | [] => []
    | new => new ++ table.grow rounds (seen ++ new) new

/-- **The descendants of `root`, breadth first.** -/
def descendants (table : ProcessTable) (root : Nat) : List Nat :=
  table.grow table.length [root] [root]

end ProcessTable

end PortRelease
