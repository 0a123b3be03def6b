import PortRelease.Proofs.Wait.Evaluations
/-!
# When a wait ends

Two facts hold of every wait, whatever its condition answers and however long the answers take.

* `waitUntil_keeps_schedule`: the wait ends with the first evaluation that settles it, never gives up before its
  deadline, and overruns the deadline by no more than the evaluation under way.
* `waitUntil_meets_lasting`: a condition that holds from some instant on is not missed if an evaluation that
  begins before that instant is over by the deadline. Where evaluations take no time the end of the wait and the
  number of evaluations are known exactly.

The second rests on what an evaluation before the instant leaves room for (`value_of_lasting`), and, where
evaluations take no time, on the closed form of their beginnings (`began_of_instant`).
-/

namespace PortRelease

open Evaluation

namespace Wait

variable {σ : Type} {probe : Probe σ} {schedule : Schedule} {start : Int} {s : σ} {n : Nat}

/-! ## The schedule is kept -/

theorem SettledAt.value_eq_false (ends : SettledAt probe schedule start s n) {k : Nat} (h : k < n) :
    (evaluation probe schedule start s k).value probe = false :=
  (not_settles probe (ends.pending k h)).1

theorem SettledAt.eq_zero (ends : SettledAt probe schedule start s n) (late : schedule.deadline start ≤ start) :
    n = 0 := by
  by_contra more
  have early := (not_settles probe (ends.pending 0 (Nat.pos_of_ne_zero more))).2
  have begins := (evaluation probe schedule start s 0).began_le_ended probe
  exact absurd (lt_of_le_of_lt begins early) (Int.not_lt.mpr late)

end Wait

/-- **A wait keeps its schedule.** It ends, and its result is the answer of its last evaluation, the earlier ones
having found the condition unmet. It gives up at the deadline at the earliest; it begins no evaluation and
overruns by no more than the last one takes after the deadline or the start, whichever is later; and the
evaluations are no more than the pauses that fit between the two and one. -/
theorem waitUntil_keeps_schedule {σ : Type} (probe : Probe σ) (schedule : Schedule) (start : Int) (s : σ) :
    let deadline := schedule.deadline start
    let evaluation := Wait.evaluation probe schedule start s
    let outcome := waitUntil probe schedule start s
    ∃ n, outcome.begun = ((List.range (n + 1)).map fun k => (evaluation k).began) ∧
      outcome.ending ≠ .cancelled ∧
      outcome.converged = (evaluation n).value probe ∧
      (∀ k < n, (evaluation k).value probe = false) ∧
      outcome.finished = (evaluation n).ended probe ∧
      outcome.state = ((evaluation n).answer probe).state ∧
      (outcome.converged = false → deadline ≤ outcome.finished) ∧
      (∀ t ∈ outcome.begun, t ≤ max start deadline) ∧
      outcome.finished ≤ max start deadline + (evaluation n).cost probe ∧
      (start ≤ deadline →
        outcome.begun.length ≤ 1 + (deadline - start).toNat ⌈/⌉ max schedule.interval 1) ∧
      (deadline ≤ start → outcome.begun.length = 1) := by
  intro deadline evaluation outcome
  obtain ⟨n, few, ends⟩ := Wait.exists_settledAt probe schedule start s
  have converges : outcome.converged = (evaluation n).value probe := Wait.converged_eq ends
  have count : outcome.begun.length = n + 1 := Wait.length_begun ends
  have bounded := Wait.began_le probe schedule start s
  have form : outcome = ⟨(evaluation n).ending probe, (evaluation n).ended probe,
      (List.range (n + 1)).map fun k => (evaluation k).began, ((evaluation n).answer probe).state⟩ :=
    Wait.waitUntil_eq ends
  refine ⟨n, by rw [form], ?_, converges, fun k h => ends.value_eq_false h, by rw [form], by rw [form], ?_, ?_,
    ?_, ?_, ?_⟩
  · rw [form]
    exact ending_ne_cancelled probe _
  · intro unmet
    rw [converges] at unmet
    rw [form]
    exact ends.settled.resolve_left (Bool.eq_false_iff.mp unmet)
  · rw [form]
    intro t mem
    obtain ⟨k, _, rfl⟩ := List.mem_map.mp mem
    exact bounded k
  · rw [form]
    exact Int.add_le_add_right (bounded n) _
  · intro _
    rw [count, Nat.add_comm]
    exact Nat.add_le_add_left few 1
  · intro late
    rw [count, ends.eq_zero late]

namespace Wait

variable {σ : Type} {probe : Probe σ} {schedule : Schedule} {start : Int} {s : σ} {n : Nat} {T : Int}

/-! ## A condition that holds for good -/

section Lasting

variable {c : Nat} (ends : SettledAt probe schedule start s n)
  (cheap : ∀ k ≤ n, (evaluation probe schedule start s k).cost probe ≤ c)
  (lasting : ∀ k ≤ n, T ≤ (evaluation probe schedule start s k).began →
    (evaluation probe schedule start s k).value probe = true)

include ends cheap lasting

/-- The condition settles the wait if the last evaluation that may find it unmet ends before the deadline, or if
there is no such evaluation. -/
theorem value_of_lasting (ahead : start ≤ schedule.deadline start)
    (soon : T + c ≤ schedule.deadline start ∨ T = start) :
    (evaluation probe schedule start s n).value probe = true := by
  by_contra unmet
  have late : schedule.deadline start ≤ (evaluation probe schedule start s n).ended probe :=
    ends.settled.resolve_left unmet
  have early : (evaluation probe schedule start s n).began < T :=
    Int.not_le.mp fun h => unmet (lasting n le_rfl h)
  rcases soon with room | rfl
  · have cost := cheap n le_rfl
    rw [ended] at late
    omega
  · have begins := le_began probe schedule T s n
    have pauses := Int.natCast_nonneg (schedule.pause * n)
    push_cast at pauses
    omega

/-- The wait is settled at most a pause after the last evaluation that may find the condition unmet. -/
theorem began_le_of_lasting (due : start ≤ T) :
    (evaluation probe schedule start s n).began ≤ T + c + schedule.pause := by
  cases n with
  | zero =>
    show start ≤ _
    omega
  | succ k =>
    have unmet := ends.value_eq_false (Nat.lt_succ_self k)
    have early : (evaluation probe schedule start s k).began < T := by
      refine Int.not_le.mp fun h => ?_
      rw [lasting k (Nat.le_succ k) h] at unmet
      exact Bool.noConfusion unmet
    have cost := cheap k (Nat.le_succ k)
    rw [evaluation_succ, next, Schedule.wake, ended]
    show min _ _ ≤ _
    omega

end Lasting

/-! ## Evaluations that take no time -/

section Instant

variable (instant : ∀ k ≤ n, (evaluation probe schedule start s k).cost probe = 0)
  (ahead : start ≤ schedule.deadline start)

include instant ahead

/-- Then they begin a pause apart, and the last one possible at the deadline. -/
theorem began_of_instant {k : Nat} (h : k ≤ n) :
    (evaluation probe schedule start s k).began =
      min (start + schedule.pause * k) (schedule.deadline start) := by
  induction k with
  | zero =>
    show start = _
    rw [Nat.cast_zero, mul_zero, add_zero, min_eq_left ahead]
  | succ k ih =>
    have before := ih (Nat.le_of_succ_le h)
    have cost := instant k (Nat.le_of_succ_le h)
    rw [evaluation_succ, next, Schedule.wake, ended, cost]
    push_cast
    rw [mul_add]
    show min _ _ = _
    omega

variable (ends : SettledAt probe schedule start s n)
  (holds : ∀ k ≤ n, (evaluation probe schedule start s k).value probe =
    decide (T ≤ (evaluation probe schedule start s k).began))

include ends holds

/-- The number of the evaluation that settles the wait: as many pauses as reach the instant or the deadline. -/
theorem eq_ceilDiv_of_instant :
    n = (min T (schedule.deadline start) - start).toNat ⌈/⌉ schedule.pause := by
  -- an evaluation settles the wait if and only if so many pauses have passed
  have settles_iff : ∀ k ≤ n, (evaluation probe schedule start s k).Settles probe (schedule.deadline start) ↔
      (min T (schedule.deadline start) - start).toNat ⌈/⌉ schedule.pause ≤ k := by
    intro k h
    rw [ceilDiv_le_iff_le_mul schedule.pause_pos, Int.toNat_le, Settles, holds k h, decide_eq_true_iff,
      ended, instant k h, began_of_instant instant ahead h]
    push_cast
    omega
  apply le_antisymm
  · by_contra more
    have fewer := Nat.lt_of_not_le more
    exact ends.pending _ fewer ((settles_iff _ fewer.le).mpr le_rfl)
  · exact (settles_iff n le_rfl).mp ends.settled

theorem value_iff_of_instant :
    (evaluation probe schedule start s n).value probe = true ↔ T ≤ schedule.deadline start := by
  have begins := began_of_instant instant ahead le_rfl
  have settled := ends.settled
  rw [Settles, ended, instant n le_rfl] at settled
  rw [holds n le_rfl, decide_eq_true_iff] at settled ⊢
  omega

theorem ended_of_instant :
    (evaluation probe schedule start s n).ended probe =
      min (start + schedule.pause * ((T - start).toNat ⌈/⌉ schedule.pause : Nat)) (schedule.deadline start) := by
  rw [ended, instant n le_rfl, began_of_instant instant ahead le_rfl, Nat.cast_zero, add_zero]
  have count := eq_ceilDiv_of_instant instant ahead ends holds
  rcases le_or_gt T (schedule.deadline start) with met | missed
  · rw [min_eq_left met] at count
    rw [← count]
  · -- both so many pauses and as many as reach the instant lead past the deadline
    have reach := Int.toNat_le.mp ((ceilDiv_le_iff_le_mul schedule.pause_pos).mp count.ge)
    have beyond := Int.toNat_le.mp ((ceilDiv_le_iff_le_mul schedule.pause_pos).mp
      (le_refl ((T - start).toNat ⌈/⌉ schedule.pause)))
    push_cast at reach beyond
    omega

end Instant

end Wait

/-- **A lasting condition is not missed.** Let the condition hold in every evaluation that begins at `T` or
later. If evaluations take at most `c` and one that begins before `T` is over by the deadline, or if `T` is the
start, the wait converges, and that no later than a pause and an evaluation after `T + c`. If evaluations take no
time and the condition holds from `T` on only, the wait converges just when `T` is not after the deadline; it
ends a whole number of pauses after the start or at the deadline, whichever comes first after `T`. -/
theorem waitUntil_meets_lasting {σ : Type} (probe : Probe σ) (schedule : Schedule) {start : Int} (s : σ) {T : Int}
    (ahead : start ≤ schedule.deadline start) (due : start ≤ T) :
    let deadline := schedule.deadline start
    let evaluation := Wait.evaluation probe schedule start s
    let outcome := waitUntil probe schedule start s
    let pause := max schedule.interval 1
    (∀ c : Nat, (∀ k < outcome.begun.length, (evaluation k).cost probe ≤ c) →
      (∀ k < outcome.begun.length, T ≤ (evaluation k).began → (evaluation k).value probe = true) →
      (T + c ≤ deadline ∨ T = start) →
      outcome.converged = true ∧ outcome.finished ≤ min (T + c + pause) (max start deadline) + c) ∧
    ((∀ k < outcome.begun.length, (evaluation k).cost probe = 0) →
      (∀ k < outcome.begun.length, (evaluation k).value probe = decide (T ≤ (evaluation k).began)) →
      (outcome.converged = true ↔ T ≤ deadline) ∧
      outcome.finished = min (start + pause * ((T - start).toNat ⌈/⌉ pause : Nat)) deadline ∧
      (deadline < T → outcome.converged = false ∧ outcome.finished = deadline ∧
        outcome.begun.length = 1 + (deadline - start).toNat ⌈/⌉ pause)) := by
  intro deadline evaluation outcome pause
  obtain ⟨n, -, ends⟩ := Wait.exists_settledAt probe schedule start s
  have converges : outcome.converged = (evaluation n).value probe := Wait.converged_eq ends
  have count : outcome.begun.length = n + 1 := Wait.length_begun ends
  have finishes : outcome.finished = (evaluation n).ended probe := by
    show (waitUntil probe schedule start s).finished = _
    rw [Wait.waitUntil_eq ends]
  rw [count]
  simp only [Nat.lt_succ_iff]
  refine ⟨fun c cheap lasting soon => ⟨?_, ?_⟩, fun instant holds => ⟨?_, ?_, fun missed => ?_⟩⟩
  · rw [converges]
    exact Wait.value_of_lasting ends cheap lasting ahead soon
  · rw [finishes]
    exact Int.add_le_add (le_min (Wait.began_le_of_lasting ends cheap lasting due)
      (Wait.began_le probe schedule start s n)) (Int.ofNat_le.mpr (cheap n le_rfl))
  · rw [converges]
    exact Wait.value_iff_of_instant instant ahead ends holds
  · rw [finishes]
    exact Wait.ended_of_instant instant ahead ends holds
  · have unmet : (evaluation n).value probe = false := by
      refine Bool.eq_false_iff.mpr fun met => ?_
      exact Int.not_le.mpr missed ((Wait.value_iff_of_instant instant ahead ends holds).mp met)
    have late : deadline ≤ (evaluation n).ended probe := ends.settled.resolve_left (Bool.eq_false_iff.mp unmet)
    have punctual := (Wait.ended_of_instant instant ahead ends holds).le.trans (min_le_right ..)
    have number := Wait.eq_ceilDiv_of_instant instant ahead ends holds
    rw [min_eq_right missed.le] at number
    refine ⟨converges.trans unmet, finishes.trans (le_antisymm punctual late), ?_⟩
    rw [Nat.add_comm]
    exact congrArg (1 + ·) number

/-- Pauses of 30 and a deadline at 100: a condition that holds from 75 on is met at 90, and by 107 if it takes 7
to evaluate; one that holds from 120 on is given up at 100, in the fifth evaluation. -/
theorem lasting_condition_met_or_missed :
    let schedule : Schedule := ⟨30, 200, some 100⟩
    let holdsFrom (T : Int) (cost : Nat) : Probe Unit := fun now s => ⟨decide (T ≤ now), cost, s⟩
    (0 ≤ schedule.deadline 0 ∧ (0 : Int) ≤ 75 ∧ (0 : Int) ≤ 120) ∧
    ((waitUntil (holdsFrom 75 7) schedule 0 ()).converged = true ∧
      (waitUntil (holdsFrom 75 7) schedule 0 ()).finished ≤ 107) ∧
    (waitUntil (holdsFrom 75 0) schedule 0 ()).finished = 90 ∧
    (waitUntil (holdsFrom 120 0) schedule 0 ()).converged = false ∧
    (waitUntil (holdsFrom 120 0) schedule 0 ()).finished = 100 ∧
    (waitUntil (holdsFrom 120 0) schedule 0 ()).begun.length = 5 := by
  intro schedule holdsFrom
  have ahead : 0 ≤ schedule.deadline 0 := by decide
  have costly := (waitUntil_meets_lasting (holdsFrom 75 7) schedule () ahead (show (0 : Int) ≤ 75 by decide)).1 7
    (fun _ _ => le_rfl) (fun _ _ met => decide_eq_true met) (.inl (by decide))
  have met := (waitUntil_meets_lasting (holdsFrom 75 0) schedule () ahead (show (0 : Int) ≤ 75 by decide)).2
    (fun _ _ => rfl) (fun _ _ => rfl)
  have missed := (waitUntil_meets_lasting (holdsFrom 120 0) schedule () ahead (show (0 : Int) ≤ 120 by decide)).2
    (fun _ _ => rfl) (fun _ _ => rfl)
  obtain ⟨unmet, given_up, fifth⟩ := missed.2.2 (by decide)
  exact ⟨⟨ahead, by decide, by decide⟩, ⟨costly.1, costly.2.trans (by decide)⟩, met.2.1.trans (by decide),
    unmet, given_up.trans (by decide), fifth.trans (by decide)⟩

end PortRelease
