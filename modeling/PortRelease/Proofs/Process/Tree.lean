import Mathlib.Data.List.Basic
import Mathlib.Logic.Relation
import PortRelease.Process.Tree
import PortRelease.Proofs.Distinct
/-!
# The tree below a process

What a process table says is a relation, `IsChild`, and nothing is known of it: it may have cycles, and a process
may have several parents. The tree below a root is therefore defined by the relation alone (`BreadthFirst`): who
is in it, each once, the nearer ones first, and among equals in the order in which a walk along the tree meets
them. The last clause fixes the list.

`descendants_breadthFirst` says that the rounds compute it. Two steps lead there. The number of rounds is set
aside first: rounds go on until one finds nobody (`grow_rounds`), because each of the others uses up a row. Then
`Frontier` says what the rounds keep: after `k` of them the processes seen are those at most `k` rows away, and
the ones found last are those at exactly that distance.
-/

namespace PortRelease.ProcessTable

/-- A row of the table makes `parent` the parent of `child`. -/
def IsChild (table : ProcessTable) (parent child : Nat) : Prop := child ≠ parent ∧ ⟨child, parent⟩ ∈ table

/-- `n` rows lead down from `root` to a process. -/
inductive Reaches (table : ProcessTable) (root : Nat) : (n pid : Nat) → Prop where
  | root : table.Reaches root 0 root
  | child {n parent child : Nat} : table.Reaches root n parent → table.IsChild parent child →
      table.Reaches root (n + 1) child

/-- **The tree below a root, breadth first.** -/
structure BreadthFirst (table : ProcessTable) (root : Nat) (tree : List Nat) : Prop where
  /-- Rows lead from the root to the processes of the tree, which the root is not, and to no others. -/
  mem_iff : ∀ pid, pid ∈ tree ↔ pid ≠ root ∧ Relation.TransGen table.IsChild root pid
  /-- Each is in it once. -/
  nodup : tree.Nodup
  /-- To an earlier one no more rows lead than to a later one. -/
  nearest_first : tree.Pairwise fun earlier later =>
    ∀ n, table.Reaches root n later → ∃ m ≤ n, table.Reaches root m earlier
  /-- Whoever walks along the tree from the root and notes the children of each, but nobody twice, notes the
  tree. -/
  walk : root :: tree = (root :: (root :: tree).flatMap table.childrenOf).eraseDups

variable {table : ProcessTable} {root : Nat}

/-! ## Children -/

theorem mem_childrenOf {parent child : Nat} :
    child ∈ table.childrenOf parent ↔ table.IsChild parent child := by
  simp only [childrenOf, IsChild, List.mem_map, List.mem_filter, Bool.and_eq_true, beq_iff_eq, bne_iff_ne]
  constructor
  · rintro ⟨⟨pid, ppid⟩, ⟨mem, rfl, ne⟩, rfl⟩
    exact ⟨ne, mem⟩
  · rintro ⟨ne, mem⟩
    exact ⟨⟨child, parent⟩, ⟨mem, rfl, ne⟩, rfl⟩

theorem mem_fresh {seen found : List Nat} {pid : Nat} :
    pid ∈ table.fresh seen found ↔ (∃ parent ∈ found, table.IsChild parent pid) ∧ pid ∉ seen := by
  simp only [fresh, List.mem_eraseDups, List.mem_filter, List.mem_flatMap, mem_childrenOf, Bool.not_eq_true',
    List.contains_eq_mem, decide_eq_false_iff_not]

theorem transGen_iff_reaches {pid : Nat} :
    Relation.TransGen table.IsChild root pid ↔ ∃ n, table.Reaches root (n + 1) pid := by
  constructor
  · intro below
    induction below with
    | single isChild => exact ⟨0, .child .root isChild⟩
    | tail _ isChild ih =>
      obtain ⟨n, reached⟩ := ih
      exact ⟨n + 1, .child reached isChild⟩
  · rintro ⟨n, reached⟩
    induction n generalizing pid with
    | zero =>
      cases reached with
      | child reached isChild =>
        cases reached
        exact .single isChild
    | succ n ih =>
      cases reached with
      | child reached isChild => exact (ih reached).tail isChild

/-! ## Rounds until nobody is found -/

/-- The rounds that start from `found` find `later`, and after them a round finds nobody. -/
inductive Rounds (table : ProcessTable) : (seen found later : List Nat) → Prop where
  | last {seen found : List Nat} : table.fresh seen found = [] → table.Rounds seen found []
  | more {seen found later : List Nat} :
      table.Rounds (seen ++ table.fresh seen found) (table.fresh seen found) later →
      table.Rounds seen found (table.fresh seen found ++ later)

def unseen (table : ProcessTable) (seen : List Nat) : ProcessTable :=
  table.filter fun row => !seen.contains row.pid

theorem length_unseen_lt {seen found : List Nat} (some_new : table.fresh seen found ≠ []) :
    (table.unseen (seen ++ table.fresh seen found)).length < (table.unseen seen).length := by
  obtain ⟨pid, new⟩ := List.exists_mem_of_ne_nil _ some_new
  obtain ⟨⟨parent, -, -, row⟩, not_seen⟩ := mem_fresh.mp new
  have shrinks : table.unseen (seen ++ table.fresh seen found) =
      (table.unseen seen).filter fun row => !(table.fresh seen found).contains row.pid := by
    rw [unseen, unseen, List.filter_filter]
    congr 1
    funext row
    rw [List.contains_eq_mem, List.contains_eq_mem, List.contains_eq_mem]
    grind
  rw [shrinks, List.length_filter_lt_length_iff_exists]
  refine ⟨⟨pid, parent⟩, List.mem_filter.mpr ⟨row, ?_⟩, ?_⟩
  · simpa only [List.contains_eq_mem, Bool.not_eq_true', decide_eq_false_iff_not] using not_seen
  · simpa only [List.contains_eq_mem, Bool.not_eq_true', decide_eq_false_iff_not, not_not] using new

theorem grow_rounds {rounds : Nat} : ∀ {seen found : List Nat}, (table.unseen seen).length ≤ rounds →
    table.Rounds seen found (table.grow rounds seen found) := by
  induction rounds with
  | zero =>
    intro seen found enough
    refine .last (Classical.byContradiction fun some_new => ?_)
    have fewer := length_unseen_lt some_new
    omega
  | succ rounds ih =>
    intro seen found enough
    rw [grow]
    split
    next none_new => exact .last none_new
    next new some_new =>
      have fewer := length_unseen_lt some_new
      exact .more (ih (by omega))

/-! ## What the rounds keep -/

/-- The state after `k` rounds: who has been seen, and who of them is new. -/
structure Frontier (table : ProcessTable) (root k : Nat) (seen found : List Nat) : Prop where
  seen_iff : ∀ pid, pid ∈ seen ↔ ∃ n ≤ k, table.Reaches root n pid
  found_iff : ∀ pid, pid ∈ found ↔ table.Reaches root k pid ∧ ∀ n < k, ¬ table.Reaches root n pid

namespace Frontier

variable {k : Nat} {seen found : List Nat}

theorem start : Frontier table root 0 [root] [root] where
  seen_iff pid := by
    rw [List.mem_singleton]
    constructor
    · rintro rfl
      exact ⟨0, Nat.le_refl 0, .root⟩
    · rintro ⟨n, none, reached⟩
      cases Nat.le_zero.mp none
      cases reached
      rfl
  found_iff pid := by
    rw [List.mem_singleton]
    constructor
    · rintro rfl
      exact ⟨.root, fun n none => absurd none (Nat.not_lt_zero n)⟩
    · rintro ⟨reached, -⟩
      cases reached
      rfl

/-- The children of the processes found last are those one row further away. -/
theorem mem_fresh_iff (frontier : Frontier table root k seen found) (pid : Nat) :
    pid ∈ table.fresh seen found ↔ table.Reaches root (k + 1) pid ∧ ∀ n < k + 1, ¬ table.Reaches root n pid := by
  rw [mem_fresh, frontier.seen_iff]
  constructor
  · rintro ⟨⟨parent, new, isChild⟩, unreached⟩
    exact ⟨.child ((frontier.found_iff parent).mp new).1 isChild,
      fun n near reached => unreached ⟨n, Nat.le_of_lt_succ near, reached⟩⟩
  · rintro ⟨reached, unreached⟩
    refine ⟨?_, fun ⟨n, near, nearer⟩ => unreached n (Nat.lt_succ_of_le near) nearer⟩
    cases reached with
    | @child _ parent _ reached isChild =>
      -- a parent that fewer rows lead to would bring the child nearer too
      refine ⟨parent, (frontier.found_iff parent).mpr ⟨reached, fun n near nearer => ?_⟩, isChild⟩
      exact unreached (n + 1) (Nat.succ_lt_succ near) (.child nearer isChild)

theorem next (frontier : Frontier table root k seen found) :
    Frontier table root (k + 1) (seen ++ table.fresh seen found) (table.fresh seen found) where
  seen_iff pid := by
    rw [List.mem_append, frontier.seen_iff, frontier.mem_fresh_iff]
    constructor
    · rintro (⟨n, near, reached⟩ | ⟨reached, -⟩)
      · exact ⟨n, Nat.le_succ_of_le near, reached⟩
      · exact ⟨k + 1, Nat.le_refl _, reached⟩
    · rintro ⟨n, near, reached⟩
      by_cases nearer : ∃ m ≤ k, table.Reaches root m pid
      · exact .inl nearer
      · have here : n = k + 1 := by
          by_contra other
          exact nearer ⟨n, by omega, reached⟩
        subst here
        exact .inr ⟨reached, fun m far earlier => nearer ⟨m, Nat.le_of_lt_succ far, earlier⟩⟩
  found_iff := frontier.mem_fresh_iff

/-- If a round finds nobody, everybody whom rows lead to has been seen. -/
theorem mem_seen_of_reaches (frontier : Frontier table root k seen found) (none_new : table.fresh seen found = [])
    {n pid : Nat} (reached : table.Reaches root n pid) : pid ∈ seen := by
  induction reached with
  | root => exact (frontier.seen_iff root).mpr ⟨0, Nat.zero_le k, .root⟩
  | @child n parent child _ isChild ih =>
    by_contra unseen
    obtain ⟨m, near, reached⟩ := (frontier.seen_iff parent).mp ih
    by_cases new : parent ∈ found
    · have mem : child ∈ table.fresh seen found := mem_fresh.mpr ⟨⟨parent, new, isChild⟩, unseen⟩
      rw [none_new] at mem
      exact List.not_mem_nil mem
    · -- the parent was found in an earlier round, and the child in the next one
      have earlier : ∃ j < k, table.Reaches root j parent := by
        by_contra not_earlier
        rcases Nat.lt_or_eq_of_le near with before | rfl
        · exact not_earlier ⟨m, before, reached⟩
        · exact new ((frontier.found_iff parent).mpr ⟨reached, fun j before at_j => not_earlier ⟨j, before, at_j⟩⟩)
      obtain ⟨j, before, at_j⟩ := earlier
      exact unseen ((frontier.seen_iff child).mpr ⟨j + 1, before, .child at_j isChild⟩)

end Frontier

namespace Rounds

variable {seen found later : List Nat}

theorem mem_iff (rounds : table.Rounds seen found later) :
    ∀ {k : Nat}, Frontier table root k seen found →
      ∀ pid, pid ∈ later ↔ pid ∉ seen ∧ ∃ n, table.Reaches root n pid := by
  induction rounds with
  | last none_new =>
    intro k frontier pid
    refine ⟨fun mem => absurd mem List.not_mem_nil, fun ⟨unseen, n, reached⟩ => ?_⟩
    exact absurd (frontier.mem_seen_of_reaches none_new reached) unseen
  | @more seen found later _ ih =>
    intro k frontier pid
    rw [List.mem_append, ih frontier.next pid, List.mem_append]
    constructor
    · rintro (new | ⟨unseen, reached⟩)
      · exact ⟨(mem_fresh.mp new).2, k + 1, ((frontier.mem_fresh_iff pid).mp new).1⟩
      · exact ⟨fun mem => unseen (.inl mem), reached⟩
    · rintro ⟨unseen, reached⟩
      by_cases new : pid ∈ table.fresh seen found
      · exact .inl new
      · exact .inr ⟨fun mem => mem.elim unseen new, reached⟩

theorem nearest_first (rounds : table.Rounds seen found later) :
    ∀ {k : Nat}, Frontier table root k seen found →
      later.Pairwise fun p q => ∀ n, table.Reaches root n q → ∃ m ≤ n, table.Reaches root m p := by
  induction rounds with
  | last none_new =>
    intro _ _
    exact List.Pairwise.nil
  | @more seen found later rounds ih =>
    intro k frontier
    -- whoever is not seen before this round is at least as far away as those it finds
    have far {p q : Nat} (new : p ∈ table.fresh seen found) (unreached : ∀ n < k + 1, ¬ table.Reaches root n q) :
        ∀ n, table.Reaches root n q → ∃ m ≤ n, table.Reaches root m p := by
      intro n reached
      refine ⟨k + 1, ?_, ((frontier.mem_fresh_iff p).mp new).1⟩
      exact Nat.le_of_not_lt fun near => unreached n near reached
    refine List.pairwise_append.mpr ⟨?_, ih frontier.next, fun p new q mem => far new ?_⟩
    · refine List.pairwise_of_forall_mem_list fun p new q also => far new ?_
      exact ((frontier.mem_fresh_iff q).mp also).2
    · intro n near reached
      have unseen := ((rounds.mem_iff frontier.next q).mp mem).1
      exact unseen ((frontier.next.seen_iff q).mpr ⟨n, Nat.le_of_lt near, reached⟩)

end Rounds

/-! ## The order of a walk -/

/-- The processes noted on a walk along `walked`: the root, and the children of each. -/
def noted (table : ProcessTable) (root : Nat) (walked : List Nat) : List Nat :=
  (root :: walked.flatMap table.childrenOf).eraseDups

theorem noted_append (walked found : List Nat) :
    table.noted root (walked ++ found) =
      table.noted root walked ++ table.fresh (table.noted root walked) found := by
  rw [noted, List.flatMap_append, ← List.cons_append, List.eraseDups_append]
  congr 2
  rw [List.removeAll]
  apply List.filter_congr
  intro pid _
  rw [noted, List.elem_eq_mem, List.contains_eq_mem, decide_eq_decide.mpr List.mem_eraseDups.symm]

theorem Rounds.walk {seen found later : List Nat} (rounds : table.Rounds seen found later) :
    ∀ walked : List Nat, seen = walked ++ found → seen = table.noted root walked →
      seen ++ later = table.noted root (seen ++ later) := by
  induction rounds with
  | last none_new =>
    intro walked split noted_before
    rw [List.append_nil]
    conv_rhs => rw [split, noted_append, ← noted_before, none_new, List.append_nil]
  | @more seen found later _ ih =>
    intro walked split noted_before
    rw [← List.append_assoc]
    refine ih seen rfl ?_
    conv_rhs => rw [split, noted_append, ← noted_before]

/-! ## The tree -/

/-- **The rounds find the tree below the root.** -/
theorem descendants_breadthFirst (table : ProcessTable) (root : Nat) :
    BreadthFirst table root (table.descendants root) := by
  have rounds : table.Rounds [root] [root] (table.descendants root) :=
    grow_rounds (List.length_filter_le ..)
  have frontier : Frontier table root 0 [root] [root] := .start
  have walk : root :: table.descendants root = table.noted root (root :: table.descendants root) :=
    rounds.walk [] rfl (by rw [noted, List.flatMap_nil, List.eraseDups_cons]; rfl)
  have nodup : (root :: table.descendants root).Nodup := walk ▸ Distinct.nodup_eraseDups _
  refine ⟨fun pid => ?_, nodup.of_cons, rounds.nearest_first frontier, walk⟩
  rw [rounds.mem_iff frontier, List.mem_singleton, transGen_iff_reaches]
  refine and_congr_right fun other => ⟨fun ⟨n, reached⟩ => ?_, fun ⟨n, reached⟩ => ⟨n + 1, reached⟩⟩
  cases reached with
  | root => exact absurd rfl other
  | child reached isChild => exact ⟨_, .child reached isChild⟩

end PortRelease.ProcessTable
