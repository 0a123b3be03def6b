import Mathlib.Data.List.Basic
/-!
# Each once

A list may be read with each member once, where it occurs first. Two lists one behind the other then come to the first
and what the second adds to it (`eraseDups_append_eq`), and a search for a first member that something is made of finds
what it found before (`findSome?_eraseDups`).
-/

namespace PortRelease.Distinct

variable {α : Type} [DecidableEq α]

/-- The members of a list, and behind them what a second list adds. -/
def union (first second : List α) : List α := first ++ second.filter fun a => decide (a ∉ first)

theorem nodup_eraseDups : (l : List α) → l.eraseDups.Nodup
  | [] => List.nodup_nil
  | a :: l => by
    rw [List.eraseDups_cons]
    refine List.nodup_cons.mpr ⟨fun mem => ?_, nodup_eraseDups _⟩
    have kept := (List.mem_filter.mp (List.mem_eraseDups.mp mem)).2
    simp only [BEq.rfl, Bool.not_true, Bool.false_eq_true] at kept
termination_by l => l.length
decreasing_by exact Nat.lt_succ_of_le (List.length_filter_le ..)

/-- Whether members are picked out before or after makes no difference. -/
theorem eraseDups_filter (keep : α → Bool) : (l : List α) → (l.filter keep).eraseDups = l.eraseDups.filter keep
  | [] => rfl
  | a :: l => by
    rw [List.eraseDups_cons, List.filter_cons, List.filter_cons, ← eraseDups_filter keep (l.filter fun b => !b == a)]
    split
    next => rw [List.eraseDups_cons, List.filter_comm]
    next dropped =>
      -- who is picked out is not the member that is not
      have others : (l.filter fun b => !b == a).filter keep = l.filter keep := by
        rw [List.filter_filter]
        apply List.filter_congr
        intro b _
        by_cases same : b = a
        · simp [same, dropped]
        · simp [same]
      rw [others]
termination_by l => l.length
decreasing_by exact Nat.lt_succ_of_le (List.length_filter_le ..)

theorem eraseDups_append_eq (first second : List α) :
    (first ++ second).eraseDups = union first.eraseDups second.eraseDups := by
  rw [List.eraseDups_append, union, List.removeAll, eraseDups_filter]
  congr 2
  funext a
  simp

theorem findSome?_eraseDups {β : Type} (f : α → Option β) (l : List α) : l.eraseDups.findSome? f = l.findSome? f := by
  cases first : l.findSome? f with
  | none =>
    rw [List.findSome?_eq_none_iff] at first ⊢
    exact fun a mem => first a (List.mem_eraseDups.mp mem)
  | some b =>
    obtain ⟨before, a, after, rfl, found, passed⟩ := List.findSome?_eq_some_iff.mp first
    have unseen : a ∉ before := by
      intro mem
      rw [passed a mem] at found
      cases found
    have kept : (a :: after).removeAll before = a :: after.removeAll before := by
      rw [List.cons_removeAll, if_pos (by simpa using unseen)]
    rw [List.eraseDups_append, kept, List.eraseDups_cons]
    refine List.findSome?_eq_some_iff.mpr ⟨before.eraseDups, a, _, rfl, found, fun other mem => ?_⟩
    exact passed other (List.mem_eraseDups.mp mem)

end PortRelease.Distinct
