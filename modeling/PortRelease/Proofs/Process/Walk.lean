import Mathlib.Data.Nat.Find
import Mathlib.Order.Bounds.Basic
import PortRelease.Proofs.Process.Tree
/-!
# A walk through the tree

With a queue the tree below a root is walked like this: the process that has waited longest is visited, and those of its
children that nobody has noted yet are noted and wait behind the others (`visit`). The rounds that compute the
descendants are that walk, many visits at a time (`visit_round`), so it ends, with the root and the tree noted
(`Rounds.visit_all`).

A visit keeps what has been noted, in order (`noted_prefix_walked`), and whoever waits has been noted
(`waiting_subset_walked`). So the visit that notes a process is a visit to somebody who was noted before it
(`exists_discovery`).

* `descendants_closure`: the descendants are the transitive closure, breadth first, whatever the table holds.
-/

namespace PortRelease.ProcessTable

variable {table table' : ProcessTable} {root pid : Nat}

/-! ## Visits -/

/-- A walk under way: who waits for a visit, and who has been noted, both in order. -/
structure Walk where
  waiting : List Nat
  noted : List Nat
  deriving DecidableEq

/-- **One visit** to the process that has waited longest, if somebody waits. -/
def visit (table : ProcessTable) (walk : Walk) : Walk :=
  match walk.waiting with
  | [] => walk
  | parent :: others =>
    let new := table.fresh walk.noted [parent]
    ⟨others ++ new, walk.noted ++ new⟩

/-- The walk from a root after some visits. -/
def walked (table : ProcessTable) (root visits : Nat) : Walk := table.visit^[visits] ⟨[root], [root]⟩

theorem walked_succ (root visits : Nat) : table.walked root (visits + 1) = table.visit (table.walked root visits) :=
  Function.iterate_succ_apply' ..

theorem fresh_cons (seen : List Nat) (parent : Nat) (others : List Nat) :
    table.fresh seen (parent :: others) =
      table.fresh seen [parent] ++ table.fresh (seen ++ table.fresh seen [parent]) others := by
  simp only [fresh, List.flatMap_cons, List.flatMap_nil, List.append_nil, List.filter_append]
  rw [List.eraseDups_append]
  congr 2
  rw [List.removeAll, List.filter_filter]
  apply List.filter_congr
  intro pid _
  simp only [List.elem_eq_mem, List.mem_append, List.mem_eraseDups]
  grind

/-- Visits to all that a round found come to what the next round finds. -/
theorem visit_round (found waiting seen : List Nat) :
    table.visit^[found.length] ⟨found ++ waiting, seen⟩ =
      ⟨waiting ++ table.fresh seen found, seen ++ table.fresh seen found⟩ := by
  induction found generalizing waiting seen with
  | nil => simp [fresh]
  | cons parent others ih =>
    rw [List.length_cons, Function.iterate_succ_apply]
    simp only [visit, List.cons_append, List.append_assoc]
    rw [ih, fresh_cons seen parent others]
    simp only [List.append_assoc]

/-- The rounds are the visits to those from whom they start and to those whom they find. -/
theorem Rounds.visit_all {seen found later : List Nat} (rounds : table.Rounds seen found later) :
    table.visit^[found.length + later.length] ⟨found, seen⟩ = ⟨[], seen ++ later⟩ := by
  induction rounds with
  | @last seen found none_new =>
    have visited := table.visit_round found [] seen
    simpa [none_new] using visited
  | @more seen found later _ ih =>
    have visited := table.visit_round found [] seen
    simp only [List.append_nil, List.nil_append] at visited
    rw [Nat.add_comm, Function.iterate_add_apply, visited, List.length_append, ih, List.append_assoc]

/-- **The walk ends**: after a visit to each nobody waits, and the tree has been noted. -/
theorem walked_all (table : ProcessTable) (root : Nat) :
    table.walked root ((table.descendants root).length + 1) = ⟨[], root :: table.descendants root⟩ := by
  have rounds : table.Rounds [root] [root] (table.descendants root) := grow_rounds (List.length_filter_le ..)
  rw [walked, Nat.add_comm]
  exact rounds.visit_all

/-! ## What a visit keeps -/

theorem noted_prefix_visit (walk : Walk) : walk.noted <+: (table.visit walk).noted := by
  unfold visit
  split
  · exact List.prefix_rfl
  · exact List.prefix_append ..

theorem noted_prefix_walked {early late : Nat} (h : early ≤ late) :
    (table.walked root early).noted <+: (table.walked root late).noted := by
  induction late, h using Nat.le_induction with
  | base => exact List.prefix_rfl
  | succ late _ ih =>
    rw [walked_succ]
    exact ih.trans (noted_prefix_visit _)

/-- Whoever waits has been noted. -/
theorem waiting_subset_walked (root visits : Nat) :
    (table.walked root visits).waiting ⊆ (table.walked root visits).noted := by
  induction visits with
  | zero => exact List.Subset.refl _
  | succ visits ih =>
    rw [walked_succ, visit]
    split
    · exact ih
    next parent others first =>
      rw [first] at ih
      simp only [List.append_subset]
      exact ⟨fun other mem => List.mem_append_left _ (ih (List.mem_cons_of_mem parent mem)),
        List.subset_append_right ..⟩

/-- Whom a visit notes is a child of the one who is visited. -/
theorem isChild_of_noted {walk : Walk} (before : pid ∉ walk.noted) (after : pid ∈ (table.visit walk).noted) :
    ∃ parent others, walk.waiting = parent :: others ∧ table.IsChild parent pid := by
  unfold visit at after
  split at after
  next => exact absurd after before
  next parent others first =>
    have new := (List.mem_append.mp after).resolve_left before
    obtain ⟨⟨_, mem, isChild⟩, -⟩ := mem_fresh.mp new
    rw [List.mem_singleton] at mem
    exact ⟨parent, others, first, mem ▸ isChild⟩

/-- **Whoever is in the tree was noted on a visit to the root or to somebody earlier in the tree.** -/
theorem exists_discovery {before after : List Nat} (split : table.descendants root = before ++ pid :: after)
    (other : pid ≠ root) :
    ∃ visits parent others, (table.walked root visits).waiting = parent :: others ∧
      pid ∉ (table.walked root visits).noted ∧ pid ∈ (table.walked root (visits + 1)).noted ∧
      table.IsChild parent pid ∧ parent ∈ root :: before := by
  have all := table.walked_all root
  have noted_at_last : pid ∈ (table.walked root ((table.descendants root).length + 1)).noted := by
    rw [all, split]
    simp
  have sometime : ∃ visits, pid ∈ (table.walked root (visits + 1)).noted := ⟨_, noted_at_last⟩
  obtain ⟨visits, noted, first⟩ : ∃ visits, pid ∈ (table.walked root (visits + 1)).noted ∧
      ∀ earlier < visits, pid ∉ (table.walked root (earlier + 1)).noted :=
    ⟨Nat.find sometime, Nat.find_spec sometime, fun _ => Nat.find_min sometime⟩
  have by_then : visits ≤ (table.descendants root).length :=
    Nat.le_of_not_lt fun late => first _ late noted_at_last
  have unnoted : pid ∉ (table.walked root visits).noted := by
    cases visits with
    | zero => simpa [walked] using other
    | succ earlier => exact first earlier (Nat.lt_succ_self earlier)
  obtain ⟨parent, others, waiting, isChild⟩ := isChild_of_noted unnoted (walked_succ root visits ▸ noted)
  refine ⟨visits, parent, others, waiting, unnoted, noted, isChild, ?_⟩
  have parent_noted : parent ∈ (table.walked root visits).noted := by
    apply waiting_subset_walked
    rw [waiting]
    exact List.mem_cons_self
  -- what has been noted is the root and the tree up to some process before this one
  have so_far : (table.walked root visits).noted <+: (root :: before ++ [pid]) ++ after := by
    have whole : (table.walked root visits).noted <+: (table.walked root _).noted :=
      noted_prefix_walked (Nat.le_succ_of_le by_then)
    rw [all, split] at whole
    simpa using whole
  rcases List.prefix_or_prefix_of_prefix so_far (List.prefix_append ..) with short | long
  · have mem := short.subset parent_noted
    have differs : parent ≠ pid := fun same => unnoted (same ▸ parent_noted)
    simpa [differs] using mem
  · exact absurd (long.subset (by simp)) unnoted

/-! ## Distances -/

/-- The number of rows on a shortest way from the root to a process. -/
def Distance (table : ProcessTable) (root n pid : Nat) : Prop := IsLeast {n | table.Reaches root n pid} n

theorem exists_distance {n : Nat} (reached : table.Reaches root n pid) : ∃ m, table.Distance root m pid := by
  classical
  have sometime : ∃ n, table.Reaches root n pid := ⟨n, reached⟩
  exact ⟨Nat.find sometime, Nat.find_spec sometime, fun _ => Nat.find_min' sometime⟩

namespace BreadthFirst

variable {tree : List Nat} (breadthFirst : BreadthFirst table root tree)

include breadthFirst

theorem exists_distance (mem : pid ∈ tree) : ∃ n, table.Distance root n pid := by
  obtain ⟨-, below⟩ := (breadthFirst.mem_iff pid).mp mem
  obtain ⟨n, reached⟩ := transGen_iff_reaches.mp below
  exact ProcessTable.exists_distance reached

theorem distances_ascend : tree.Pairwise fun earlier later =>
    ∀ m n, table.Distance root m earlier → table.Distance root n later → m ≤ n := by
  refine breadthFirst.nearest_first.imp ?_
  intro earlier later nearer m n of_earlier of_later
  obtain ⟨k, near, reached⟩ := nearer n of_later.1
  exact (of_earlier.2 reached).trans near

end BreadthFirst

/-! ## Other orders of the rows -/

theorem isChild_iff_of_perm (permuted : table'.Perm table) {parent child : Nat} :
    table'.IsChild parent child ↔ table.IsChild parent child :=
  and_congr_right fun _ => permuted.mem_iff

theorem descendants_perm (permuted : table'.Perm table) (root : Nat) :
    (table'.descendants root).Perm (table.descendants root) := by
  have breadthFirst := table.descendants_breadthFirst root
  have breadthFirst' := table'.descendants_breadthFirst root
  refine (List.perm_ext_iff_of_nodup breadthFirst'.nodup breadthFirst.nodup).mpr fun pid => ?_
  have same : table'.IsChild = table.IsChild := by
    funext parent child
    exact propext (isChild_iff_of_perm permuted)
  rw [breadthFirst'.mem_iff, breadthFirst.mem_iff, same]

/-! ## The closure -/

/-- **The descendants of a root are its transitive closure in a table, breadth first.** A walk through the tree comes to an
end and has then noted the root and them. They are all that rows lead to, apart from the root, each of them once and
none before a nearer one. The visit that notes one of them is a visit to the root or to one before it, who has it as a
child. Another order of the rows changes their order at most. -/
theorem descendants_closure (table : ProcessTable) (root : Nat) :
    let tree := table.descendants root
    table.walked root (tree.length + 1) = ⟨[], root :: tree⟩ ∧
    (∀ pid, pid ∈ tree ↔ pid ≠ root ∧ Relation.TransGen table.IsChild root pid) ∧
    tree.Nodup ∧
    (∀ pid ∈ tree, ∃ n, table.Distance root n pid) ∧
    (tree.Pairwise fun earlier later =>
      ∀ m n, table.Distance root m earlier → table.Distance root n later → m ≤ n) ∧
    (∀ before pid after, tree = before ++ pid :: after →
      ∃ visits parent others, (table.walked root visits).waiting = parent :: others ∧
        pid ∉ (table.walked root visits).noted ∧ pid ∈ (table.walked root (visits + 1)).noted ∧
        table.IsChild parent pid ∧ parent ∈ root :: before) ∧
    ∀ table' : ProcessTable, table'.Perm table → (table'.descendants root).Perm tree := by
  intro tree
  have breadthFirst : BreadthFirst table root tree := table.descendants_breadthFirst root
  refine ⟨table.walked_all root, breadthFirst.mem_iff, breadthFirst.nodup, fun pid => breadthFirst.exists_distance,
    breadthFirst.distances_ascend, ?_, fun table' permuted => descendants_perm permuted root⟩
  intro before pid after split
  have mem : pid ∈ tree := by
    rw [split]
    simp
  exact exists_discovery split ((breadthFirst.mem_iff pid).mp mem).1

/-- A table in which the root is a child of its own child, process 2 its own parent and process 4 a child of two, with
one row twice and one elsewhere; process 4 is noted on the visit to process 2. -/
theorem closure_of_tangled_table :
    let table : ProcessTable := [⟨2, 1⟩, ⟨3, 1⟩, ⟨1, 3⟩, ⟨2, 2⟩, ⟨4, 3⟩, ⟨4, 2⟩, ⟨3, 1⟩, ⟨9, 8⟩]
    table.reverse.Perm table ∧ table.descendants 1 = [2, 3] ++ 4 :: [] ∧
      ProcessTable.descendants table.reverse 1 = [3, 2, 4] ∧
      (ProcessTable.descendants table.reverse 1).Perm (table.descendants 1) ∧
      ∃ parent, table.IsChild parent 4 ∧ parent ∈ [1, 2, 3] := by
  intro table
  have permuted : table.reverse.Perm table := List.reverse_perm table
  have tree : table.descendants 1 = [2, 3] ++ 4 :: [] := by decide
  obtain ⟨-, -, -, -, -, discovered, any_order⟩ := descendants_closure table 1
  obtain ⟨-, parent, -, -, -, -, isChild, earlier⟩ := discovered [2, 3] 4 [] tree
  exact ⟨permuted, tree, by decide, any_order table.reverse permuted, parent, isChild, earlier⟩

end PortRelease.ProcessTable
