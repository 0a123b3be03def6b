import PortRelease.Proofs.Wait.Evaluations
/-!
# A wait that is cut off

A cut does not disturb what comes before it: a wait with a cut makes the evaluations of the wait without one, one by one,
as long as they begin by the cut (`run_reaches`). The last of those decides. Either it settles the wait in time, and the cut
comes too late; or the cut falls into it or into the pause behind it, and nothing that would come later happens
(`dropped_wait_begins_alike`). What comes at the very instant of the cut still happens.
-/

namespace PortRelease

open Evaluation

namespace Wait

variable {σ : Type} {probe : Probe σ} {schedule : Schedule} {deadline cut start : Int} {s : σ} {n m : Nat}
  {e : Evaluation σ}

/-! ## One turn of the loop with a cut -/

theorem cutBefore?_of_lt {t : Int} (h : cut < t) : cutBefore? (some cut) t = some cut :=
  Option.filter_some_pos (decide_eq_true h)

theorem cutBefore?_of_le {t : Int} (h : t ≤ cut) : cutBefore? (some cut) t = none :=
  Option.filter_some_neg (Bool.not_eq_true _ ▸ decide_eq_false (Int.not_lt.mpr h))

theorem ended_lt_next (pending : ¬ e.Settles probe deadline) :
    e.ended probe < (e.next probe schedule deadline).began :=
  schedule.lt_wake (not_settles probe pending).2

theorem loop_of_next_by_cut (pending : ¬ e.Settles probe deadline)
    (in_time : (e.next probe schedule deadline).began ≤ cut) (begun : List Int) :
    loop probe schedule deadline (some cut) e.began e.state begun =
      loop probe schedule deadline (some cut) (e.next probe schedule deadline).began
        (e.next probe schedule deadline).state (e.began :: begun) := by
  rw [loop_turn, cutBefore?_of_le ((ended_lt_next pending).le.trans in_time)]
  simp only [if_neg pending, cutBefore?_of_le in_time]

theorem loop_of_settles_by_cut (ends : e.Settles probe deadline) (in_time : e.ended probe ≤ cut) (begun : List Int) :
    loop probe schedule deadline (some cut) e.began e.state begun =
      ⟨e.ending probe, e.ended probe, (e.began :: begun).reverse, (e.answer probe).state⟩ := by
  rw [loop_turn, cutBefore?_of_le in_time]
  exact if_pos ends

theorem loop_of_cut_evaluation (late : cut < e.ended probe) (begun : List Int) :
    loop probe schedule deadline (some cut) e.began e.state begun =
      ⟨.cancelled, cut, (e.began :: begun).reverse, e.state⟩ := by
  rw [loop_turn, cutBefore?_of_lt late]

theorem loop_of_cut_pause (pending : ¬ e.Settles probe deadline) (in_time : e.ended probe ≤ cut)
    (late : cut < (e.next probe schedule deadline).began) (begun : List Int) :
    loop probe schedule deadline (some cut) e.began e.state begun =
      ⟨.cancelled, cut, (e.began :: begun).reverse, (e.next probe schedule deadline).state⟩ := by
  rw [loop_turn, cutBefore?_of_le in_time]
  simp only [if_neg pending, cutBefore?_of_lt late]
  rfl

/-! ## The evaluations that begin by the cut -/

/-- When the first evaluations of a wait begin. -/
def beginnings (probe : Probe σ) (schedule : Schedule) (start : Int) (s : σ) (count : Nat) : List Int :=
  (List.range count).map fun k => (evaluation probe schedule start s k).began

theorem reverse_beginnings_succ (probe : Probe σ) (schedule : Schedule) (start : Int) (s : σ) (m : Nat) :
    (beginnings probe schedule start s (m + 1)).reverse =
      (evaluation probe schedule start s m).began :: (beginnings probe schedule start s m).reverse := by
  rw [beginnings, List.range_succ, List.map_append, List.reverse_append]
  rfl

theorem beginnings_add (probe : Probe σ) (schedule : Schedule) (start : Int) (s : σ) (m later : Nat) :
    beginnings probe schedule start s (m + later) = beginnings probe schedule start s m ++
      (List.range later).map fun i => (evaluation probe schedule start s (m + i)).began := by
  rw [beginnings, List.range_add, List.map_append, List.map_map]
  rfl

/-- **A wait with a cut makes the evaluations of one without**, as long as they begin by the cut. -/
theorem run_reaches (pending : ∀ k < m, ¬ (evaluation probe schedule start s k).Settles probe (schedule.deadline start))
    (in_time : ∀ k ≤ m, (evaluation probe schedule start s k).began ≤ cut) :
    run probe schedule (some cut) start s =
      loop probe schedule (schedule.deadline start) (some cut) (evaluation probe schedule start s m).began
        (evaluation probe schedule start s m).state (beginnings probe schedule start s m).reverse := by
  induction m with
  | zero => rfl
  | succ m ih =>
    have so_far := ih (fun k before => pending k (Nat.lt_succ_of_lt before)) fun k by_now =>
      in_time k (Nat.le_succ_of_le by_now)
    have next_in_time := in_time (m + 1) le_rfl
    rw [evaluation_succ] at next_in_time ⊢
    rw [so_far, loop_of_next_by_cut (pending m (Nat.lt_succ_self m)) next_in_time, reverse_beginnings_succ]

namespace SettledAt

variable (ends : SettledAt probe schedule start s n)

include ends

theorem ended_lt_began {k : Nat} (before : k < n) :
    (evaluation probe schedule start s k).ended probe < (evaluation probe schedule start s (k + 1)).began := by
  rw [evaluation_succ]
  exact ended_lt_next (ends.pending k before)

/-- Evaluations begin one after another. -/
theorem began_le_began {j k : Nat} (order : j ≤ k) (during : k ≤ n) :
    (evaluation probe schedule start s j).began ≤ (evaluation probe schedule start s k).began := by
  induction k, order using Nat.le_induction with
  | base => exact le_rfl
  | succ k _ ih =>
    have begins := (evaluation probe schedule start s k).began_le_ended probe
    exact (ih (Nat.le_of_succ_le during)).trans (begins.trans (ends.ended_lt_began during).le)

/-- An evaluation is over before any later one begins. -/
theorem ended_le_began {j k : Nat} (before : j < k) (during : k ≤ n) :
    (evaluation probe schedule start s j).ended probe ≤ (evaluation probe schedule start s k).began :=
  (ends.ended_lt_began (before.trans_le during)).le.trans (ends.began_le_began before during)

/-- Of the evaluations that a wait makes, those up to some number begin by the cut. -/
theorem exists_last_by (ahead : start ≤ cut) :
    ∃ m ≤ n, ∀ k ≤ n, (evaluation probe schedule start s k).began ≤ cut ↔ k ≤ m := by
  let last := Nat.findGreatest (fun k => (evaluation probe schedule start s k).began ≤ cut) n
  have during : last ≤ n := Nat.findGreatest_le n
  have by_cut : (evaluation probe schedule start s last).began ≤ cut :=
    Nat.findGreatest_spec (P := fun k => (evaluation probe schedule start s k).began ≤ cut) (Nat.zero_le n) ahead
  refine ⟨last, during, fun k h => ⟨fun begins => Nat.le_findGreatest h begins, fun before => ?_⟩⟩
  exact (ends.began_le_began before during).trans by_cut

/-- Their beginnings are those that the cut does not come before. -/
theorem filter_begun (during : m ≤ n) (by_cut : ∀ k ≤ n, (evaluation probe schedule start s k).began ≤ cut ↔ k ≤ m) :
    ((waitUntil probe schedule start s).begun.filter fun t => decide (t ≤ cut)) =
      beginnings probe schedule start s (m + 1) := by
  obtain ⟨later, rfl⟩ := Nat.exists_eq_add_of_le during
  have all : (waitUntil probe schedule start s).begun = beginnings probe schedule start s (m + 1 + later) := by
    rw [waitUntil_eq ends, Nat.add_right_comm]
    rfl
  have kept : ∀ t ∈ beginnings probe schedule start s (m + 1), decide (t ≤ cut) = true := by
    intro t mem
    obtain ⟨k, before, rfl⟩ := List.mem_map.mp mem
    have before := List.mem_range.mp before
    exact decide_eq_true ((by_cut k (by omega)).mpr (Nat.lt_succ_iff.mp before))
  have left_out : ∀ t ∈ (List.range later).map fun i => (evaluation probe schedule start s (m + 1 + i)).began,
      ¬decide (t ≤ cut) = true := by
    intro t mem
    obtain ⟨i, inside, rfl⟩ := List.mem_map.mp mem
    have inside := List.mem_range.mp inside
    rw [decide_eq_true_iff, by_cut (m + 1 + i) (by omega)]
    omega
  rw [all, beginnings_add, List.filter_append, List.filter_eq_self.mpr kept, List.filter_eq_nil_iff.mpr left_out,
    List.append_nil]

/-- **Where the cut falls**: behind the wait, or into the last evaluation that begins by it or the pause behind that. Then
some of the evaluations are over, and no more happens. -/
theorem run_cases (during : m ≤ n) (by_cut : ∀ k ≤ n, (evaluation probe schedule start s k).began ≤ cut ↔ k ≤ m) :
    (evaluation probe schedule start s n).ended probe ≤ cut ∧
        run probe schedule (some cut) start s = waitUntil probe schedule start s ∨
      ∃ whole, (∀ k ≤ n, (evaluation probe schedule start s k).ended probe ≤ cut ↔ k < whole) ∧
        cut < (evaluation probe schedule start s n).ended probe ∧
        run probe schedule (some cut) start s =
          ⟨.cancelled, cut, beginnings probe schedule start s (m + 1), (evaluation probe schedule start s whole).state⟩ := by
  have reached := run_reaches (fun k before => ends.pending k (before.trans_le during)) fun k before =>
    (by_cut k (before.trans during)).mpr before
  have told : ((evaluation probe schedule start s m).began :: (beginnings probe schedule start s m).reverse).reverse =
      beginnings probe schedule start s (m + 1) := by
    rw [← reverse_beginnings_succ, List.reverse_reverse]
  have over_before {k : Nat} (before : k < m) : (evaluation probe schedule start s k).ended probe ≤ cut :=
    (ends.ended_le_began before during).trans ((by_cut m during).mpr le_rfl)
  have begun_of_over {k : Nat} (h : k ≤ n) (past : (evaluation probe schedule start s k).ended probe ≤ cut) : k ≤ m :=
    (by_cut k h).mp ((began_le_ended ..).trans past)
  by_cases last_over : (evaluation probe schedule start s m).ended probe ≤ cut
  · rcases Nat.eq_or_lt_of_le during with rfl | further
    · left
      refine ⟨last_over, ?_⟩
      rw [reached, loop_of_settles_by_cut ends.settled last_over, told, waitUntil_eq ends]
      rfl
    · right
      have late : cut < (evaluation probe schedule start s (m + 1)).began :=
        not_le.mp fun in_time => Nat.not_succ_le_self m ((by_cut (m + 1) further).mp in_time)
      refine ⟨m + 1, fun k h => ⟨fun past => Nat.lt_succ_of_le (begun_of_over h past), fun before => ?_⟩, ?_, ?_⟩
      · rcases Nat.lt_succ_iff_lt_or_eq.mp before with before | rfl
        · exact over_before before
        · exact last_over
      · exact late.trans_le ((ends.began_le_began further le_rfl).trans (began_le_ended ..))
      · rw [evaluation_succ] at late ⊢
        rw [reached, loop_of_cut_pause (ends.pending m further) last_over late, told]
  · right
    refine ⟨m, fun k h => ⟨fun past => ?_, over_before⟩, not_le.mp fun past => ?_, ?_⟩
    · refine Nat.lt_of_le_of_ne (begun_of_over h past) ?_
      rintro rfl
      exact last_over past
    · obtain rfl := Nat.le_antisymm during (begun_of_over le_rfl past)
      exact last_over past
    · rw [reached, loop_of_cut_evaluation (not_le.mp last_over), told]

end SettledAt

end Wait

/-- **A wait that is cut off is a clean beginning of the wait left alone.** If the wait left alone is over by the cut,
nothing is different. Otherwise the wait ends with the cut, unanswered. It has then begun the same evaluations at the same
instants, those that begin by the cut; and what it has done to the state is what those of them did that were over by
then. -/
theorem dropped_wait_begins_alike {σ : Type} (probe : Probe σ) (schedule : Schedule) {start cut : Int} (s : σ)
    (ahead : start ≤ cut) :
    let evaluation := Wait.evaluation probe schedule start s
    let alone := waitUntil probe schedule start s
    let dropped := Wait.run probe schedule (some cut) start s
    (alone.finished ≤ cut → dropped = alone) ∧
    (cut < alone.finished →
      dropped.ending = .cancelled ∧ dropped.finished = cut ∧
      (dropped.begun = alone.begun.filter fun t => decide (t ≤ cut)) ∧
      ∃ whole, (∀ k < alone.begun.length, (evaluation k).ended probe ≤ cut ↔ k < whole) ∧
        dropped.state = (evaluation whole).state) := by
  intro evaluation alone dropped
  obtain ⟨n, -, ends⟩ := Wait.exists_settledAt probe schedule start s
  obtain ⟨m, during, by_cut⟩ := ends.exists_last_by ahead
  have begun := ends.filter_begun during by_cut
  have count : alone.begun.length = n + 1 := Wait.length_begun ends
  have finishes : alone.finished = (evaluation n).ended probe := congrArg Outcome.finished (Wait.waitUntil_eq ends)
  rw [finishes, count]
  rcases ends.run_cases during by_cut with ⟨in_time, same⟩ | ⟨whole, is_over, late, cut_off⟩
  · exact ⟨fun _ => same, fun late => absurd in_time (not_le.mpr late)⟩
  · refine ⟨fun in_time => absurd in_time (not_le.mpr late), fun _ => ?_⟩
    have cut_off : dropped = _ := cut_off
    rw [cut_off, begun]
    exact ⟨rfl, rfl, rfl, whole, fun k h => is_over k (Nat.lt_succ_iff.mp h), rfl⟩

/-- Pauses of 30 and evaluations of 7 that find nothing, for 100 milliseconds: they begin at 0, 37 and 74, and at the
deadline. A cut at 37 leaves the second of them just begun, one at 45 the third ahead, and one at 107 comes too late. -/
theorem fruitless_wait_dropped :
    let schedule : Schedule := ⟨30, 100, none⟩
    let never : Probe Nat := fun _ seen => ⟨false, 7, seen + 1⟩
    let dropped (cut : Int) : Outcome Nat := Wait.run never schedule (some cut) 0 0
    ((0 : Int) ≤ 37 ∧ (0 : Int) ≤ 45 ∧ (0 : Int) ≤ 107) ∧
    (waitUntil never schedule 0 0).begun = [0, 37, 74, 100] ∧ (waitUntil never schedule 0 0).finished = 107 ∧
    ((dropped 37).ending = .cancelled ∧ (dropped 37).finished = 37 ∧ (dropped 37).begun = [0, 37]) ∧
    ((dropped 45).ending = .cancelled ∧ (dropped 45).finished = 45 ∧ (dropped 45).begun = [0, 37]) ∧
    dropped 107 = waitUntil never schedule 0 0 := by
  intro schedule never dropped
  have ends : Wait.SettledAt never schedule 0 0 3 := ⟨by decide, by decide⟩
  have begun : (waitUntil never schedule 0 0).begun = [0, 37, 74, 100] := by
    rw [Wait.waitUntil_eq ends]
    decide
  have finished : (waitUntil never schedule 0 0).finished = 107 := by
    rw [Wait.waitUntil_eq ends]
    decide
  have cut_at {cut : Int} (ahead : 0 ≤ cut) (late : cut < 107) : (dropped cut).ending = .cancelled ∧
      (dropped cut).finished = cut ∧ (dropped cut).begun = [0, 37, 74, 100].filter fun t => decide (t ≤ cut) := by
    obtain ⟨ending, stops, so_far, -⟩ :=
      (dropped_wait_begins_alike never schedule 0 ahead).2 (late.trans_eq finished.symm)
    rw [begun] at so_far
    exact ⟨ending, stops, so_far⟩
  refine ⟨by decide, begun, finished, cut_at (by decide) (by decide), cut_at (by decide) (by decide), ?_⟩
  exact (dropped_wait_begins_alike never schedule 0 (by decide)).1 finished.le

end PortRelease
