import Mathlib.Algebra.Order.Floor.Div
import PortRelease.Wait.Basic
/-!
# The evaluations of a wait

An evaluation begins at an instant and finds a state; what the condition answers fixes when it ends, which state
it leaves and, with the schedule, which evaluation comes next. So a wait nobody cuts off is known by its first
evaluation: the others follow from it one by one, until one settles the wait.

`waitUntil_eq` reads the outcome of a wait off the evaluation that settles it, and `exists_settledAt` finds that
evaluation: a pause lasts at least a millisecond, so the `k`-th evaluation begins `k` pauses after the start or
at the deadline (`le_began`), and the deadline settles the wait. What every answer keeps of the state, the wait
keeps (`waitUntil_keeps`). A wait in vain exceeds its timeout by one evaluation at most (`finished_of_expired`).
-/

namespace PortRelease

/-- An evaluation of a condition: when it begins, and the state it finds. -/
structure Evaluation (σ : Type) where
  began : Int
  state : σ

namespace Evaluation

variable {σ : Type} (probe : Probe σ)

/-- What the condition answers. -/
def answer (e : Evaluation σ) : Timed σ Bool := probe e.began e.state

def value (e : Evaluation σ) : Bool := (e.answer probe).value

def cost (e : Evaluation σ) : Nat := (e.answer probe).cost

def ended (e : Evaluation σ) : Int := e.began + e.cost probe

/-- The evaluation after the next pause. -/
def next (schedule : Schedule) (deadline : Int) (e : Evaluation σ) : Evaluation σ :=
  ⟨schedule.wake deadline (e.ended probe), (e.answer probe).state⟩

/-- The wait is over with this evaluation: the condition holds, or the deadline has come. -/
def Settles (deadline : Int) (e : Evaluation σ) : Prop := e.value probe = true ∨ deadline ≤ e.ended probe

instance (deadline : Int) : DecidablePred (Settles probe deadline) := fun e =>
  inferInstanceAs (Decidable (e.value probe = true ∨ deadline ≤ e.ended probe))

def ending (e : Evaluation σ) : Ending := if e.value probe then .converged else .expired

theorem ending_ne_cancelled (e : Evaluation σ) : e.ending probe ≠ .cancelled := by
  unfold ending
  split <;> exact Ending.noConfusion

theorem began_le_ended (e : Evaluation σ) : e.began ≤ e.ended probe := by
  unfold ended
  omega

theorem not_settles {deadline : Int} {e : Evaluation σ} (h : ¬ e.Settles probe deadline) :
    e.value probe = false ∧ e.ended probe < deadline := by
  obtain ⟨unmet, early⟩ := not_or.mp h
  exact ⟨Bool.eq_false_iff.mpr unmet, Int.not_le.mp early⟩

end Evaluation

theorem Schedule.pause_pos (schedule : Schedule) : 0 < schedule.pause := by
  unfold Schedule.pause
  omega

namespace Wait

open Evaluation

variable {σ : Type} {probe : Probe σ} {schedule : Schedule} {deadline : Int}

/-! ## One turn of the loop -/

/-- **One turn of the loop**: an evaluation, and a pause unless the evaluation settles the wait. A cut may fall into
either. -/
theorem loop_turn (probe : Probe σ) (schedule : Schedule) (deadline : Int) (cut : Option Int) (e : Evaluation σ)
    (begun : List Int) :
    loop probe schedule deadline cut e.began e.state begun =
      match cutBefore? cut (e.ended probe) with
      | some cut => ⟨.cancelled, cut, (e.began :: begun).reverse, e.state⟩
      | none =>
        if e.Settles probe deadline then
          ⟨e.ending probe, e.ended probe, (e.began :: begun).reverse, (e.answer probe).state⟩
        else
          match cutBefore? cut (e.next probe schedule deadline).began with
          | some cut => ⟨.cancelled, cut, (e.began :: begun).reverse, (e.answer probe).state⟩
          | none =>
            loop probe schedule deadline cut (e.next probe schedule deadline).began
              (e.next probe schedule deadline).state (e.began :: begun) := by
  conv_lhs => rw [loop]
  show (match cutBefore? cut (e.ended probe) with
    | some cut => _
    | none => if e.value probe = true then _ else if _late : deadline ≤ e.ended probe then _ else _) = _
  cases cutBefore? cut (e.ended probe) with
  | some cut => rfl
  | none =>
    by_cases met : e.value probe = true
    · rw [if_pos (show e.Settles probe deadline from .inl met)]
      simp only [if_pos met, ending]
      rfl
    · by_cases late : deadline ≤ e.ended probe
      · rw [if_pos (show e.Settles probe deadline from .inr late)]
        simp only [if_neg met, dif_pos late, ending]
        rfl
      · rw [if_neg (show ¬ e.Settles probe deadline from fun settles => settles.elim met late)]
        simp only [if_neg met, dif_neg late]
        rfl

theorem loop_of_settles {e : Evaluation σ} (ends : e.Settles probe deadline) (begun : List Int) :
    loop probe schedule deadline none e.began e.state begun =
      ⟨e.ending probe, e.ended probe, (e.began :: begun).reverse, (e.answer probe).state⟩ := by
  rw [loop_turn]
  exact if_pos ends

theorem loop_of_not_settles {e : Evaluation σ} (pending : ¬ e.Settles probe deadline) (begun : List Int) :
    loop probe schedule deadline none e.began e.state begun =
      loop probe schedule deadline none (e.next probe schedule deadline).began
        (e.next probe schedule deadline).state (e.began :: begun) := by
  rw [loop_turn]
  exact if_neg pending

/-! ## The whole loop -/

theorem loop_eq (schedule : Schedule) {n : Nat} : ∀ {e : Evaluation σ} (begun : List Int),
    (∀ k < n, ¬ ((next probe schedule deadline)^[k] e).Settles probe deadline) →
    ((next probe schedule deadline)^[n] e).Settles probe deadline →
    loop probe schedule deadline none e.began e.state begun =
      let last := (next probe schedule deadline)^[n] e
      ⟨last.ending probe, last.ended probe,
        begun.reverse ++ (List.range (n + 1)).map fun k => ((next probe schedule deadline)^[k] e).began,
        (last.answer probe).state⟩ := by
  induction n with
  | zero =>
    intro e begun _ ends
    have ends : e.Settles probe deadline := ends
    rw [loop_of_settles ends, List.reverse_cons]
    rfl
  | succ n ih =>
    intro e begun pending ends
    have later : ∀ k < n, ¬ ((next probe schedule deadline)^[k] (e.next probe schedule deadline)).Settles
        probe deadline := fun k hk => pending (k + 1) (Nat.succ_lt_succ hk)
    have first : ¬ e.Settles probe deadline := pending 0 (Nat.succ_pos n)
    rw [loop_of_not_settles first, ih _ later ends]
    rw [List.range_succ_eq_map (n := n + 1), List.map_cons, List.map_map, List.reverse_cons, List.append_assoc]
    rfl

/-- The `k`-th evaluation of a wait, counted from 0, if the wait goes on so long. -/
def evaluation (probe : Probe σ) (schedule : Schedule) (start : Int) (s : σ) (k : Nat) : Evaluation σ :=
  (next probe schedule (schedule.deadline start))^[k] ⟨start, s⟩

/-- The `n`-th evaluation settles the wait, and none before does. -/
structure SettledAt (probe : Probe σ) (schedule : Schedule) (start : Int) (s : σ) (n : Nat) : Prop where
  pending : ∀ k < n, ¬ (evaluation probe schedule start s k).Settles probe (schedule.deadline start)
  settled : (evaluation probe schedule start s n).Settles probe (schedule.deadline start)

variable {start : Int} {s : σ} {n : Nat}

/-- **The outcome of a wait** is what the evaluation that settles it gives. -/
theorem waitUntil_eq (ends : SettledAt probe schedule start s n) :
    waitUntil probe schedule start s =
      let last := evaluation probe schedule start s n
      ⟨last.ending probe, last.ended probe,
        (List.range (n + 1)).map fun k => (evaluation probe schedule start s k).began,
        (last.answer probe).state⟩ :=
  loop_eq schedule [] ends.pending ends.settled

theorem converged_eq (ends : SettledAt probe schedule start s n) :
    (waitUntil probe schedule start s).converged = (evaluation probe schedule start s n).value probe := by
  rw [waitUntil_eq ends, Outcome.converged]
  cases met : (evaluation probe schedule start s n).value probe <;> simp [ending, met]

theorem length_begun (ends : SettledAt probe schedule start s n) :
    (waitUntil probe schedule start s).begun.length = n + 1 := by
  rw [waitUntil_eq ends]
  simp only [List.length_map, List.length_range]

/-! ## When evaluations begin -/

theorem evaluation_succ (probe : Probe σ) (schedule : Schedule) (start : Int) (s : σ) (k : Nat) :
    evaluation probe schedule start s (k + 1) =
      (evaluation probe schedule start s k).next probe schedule (schedule.deadline start) :=
  Function.iterate_succ_apply' ..

/-- No evaluation begins after both the start and the deadline. -/
theorem began_le (probe : Probe σ) (schedule : Schedule) (start : Int) (s : σ) (k : Nat) :
    (evaluation probe schedule start s k).began ≤ max start (schedule.deadline start) := by
  cases k with
  | zero => exact le_max_left ..
  | succ k =>
    rw [evaluation_succ]
    exact le_trans (schedule.wake_le ..) (le_max_right ..)

/-- Every evaluation is a pause later than the one before, or at the deadline. -/
theorem le_began (probe : Probe σ) (schedule : Schedule) (start : Int) (s : σ) (k : Nat) :
    min (start + schedule.pause * k) (schedule.deadline start) ≤ (evaluation probe schedule start s k).began := by
  induction k with
  | zero => exact le_of_le_of_eq (min_le_left ..) (by simp [evaluation])
  | succ k ih =>
    have later := (evaluation probe schedule start s k).began_le_ended probe
    rw [evaluation_succ, next, Schedule.wake]
    push_cast
    rw [mul_add]
    omega

/-- No evaluation begins before the wait. -/
theorem SettledAt.start_le_began (ends : SettledAt probe schedule start s n) {k : Nat} (h : k ≤ n) :
    start ≤ (evaluation probe schedule start s k).began := by
  cases k with
  | zero => exact le_rfl
  | succ k =>
    have early := (not_settles probe (ends.pending 0 (Nat.lt_of_lt_of_le (Nat.succ_pos k) h))).2
    have begins := (evaluation probe schedule start s 0).began_le_ended probe
    have ahead : start < schedule.deadline start := lt_of_le_of_lt begins early
    have later := le_began probe schedule start s (k + 1)
    have pauses := Int.natCast_nonneg (schedule.pause * (k + 1))
    push_cast at later pauses
    omega

/-! ## What evaluations keep -/

/-- What every answer keeps of the state holds in every evaluation. -/
theorem evaluation_keeps {kept : σ → Prop} (keeps : ∀ now s, kept s → kept (probe now s).state) (first : kept s)
    (k : Nat) : kept (evaluation probe schedule start s k).state := by
  induction k with
  | zero => exact first
  | succ k ih =>
    rw [evaluation_succ]
    exact keeps _ _ ih

/-! ## The end -/

/-- **A wait comes to an end**: no pause is empty, so the deadline is reached. -/
theorem exists_settledAt (probe : Probe σ) (schedule : Schedule) (start : Int) (s : σ) :
    ∃ n ≤ (schedule.deadline start - start).toNat ⌈/⌉ schedule.pause, SettledAt probe schedule start s n := by
  let bound := (schedule.deadline start - start).toNat ⌈/⌉ schedule.pause
  have ends : (evaluation probe schedule start s bound).Settles probe (schedule.deadline start) := by
    have enough : schedule.deadline start - start ≤ (schedule.pause * bound : Nat) :=
      Int.toNat_le.mp ((ceilDiv_le_iff_le_mul schedule.pause_pos).mp le_rfl)
    have late := le_began probe schedule start s bound
    have ended := (evaluation probe schedule start s bound).began_le_ended probe
    push_cast at enough
    right
    omega
  have some_settles : ∃ n, (evaluation probe schedule start s n).Settles probe (schedule.deadline start) :=
    ⟨bound, ends⟩
  exact ⟨Nat.find some_settles, Nat.find_min' some_settles ends,
    fun _ before => Nat.find_min some_settles before, Nat.find_spec some_settles⟩

/-- Only the evaluation that settles a wait can have found the condition met. -/
theorem SettledAt.eq_of_value (ends : SettledAt probe schedule start s n) {k : Nat} (h : k ≤ n)
    (met : (evaluation probe schedule start s k).value probe = true) : k = n := by
  by_contra other
  exact ends.pending k (Nat.lt_of_le_of_ne h other) (.inl met)

/-- A wait converges just if one of its evaluations finds the condition met. -/
theorem converged_iff (probe : Probe σ) (schedule : Schedule) (start : Int) (s : σ) :
    let outcome := waitUntil probe schedule start s
    outcome.converged = true ↔
      ∃ k < outcome.begun.length, (evaluation probe schedule start s k).value probe = true := by
  intro outcome
  obtain ⟨n, -, ends⟩ := exists_settledAt probe schedule start s
  rw [converged_eq ends, length_begun ends]
  constructor
  · exact fun met => ⟨n, Nat.lt_succ_self n, met⟩
  · rintro ⟨k, during, met⟩
    exact ends.eq_of_value (Nat.lt_succ_iff.mp during) met ▸ met

/-- The evaluation that finds the condition met ends the wait. -/
theorem finished_of_value {k : Nat} (during : k < (waitUntil probe schedule start s).begun.length)
    (met : (evaluation probe schedule start s k).value probe = true) :
    (waitUntil probe schedule start s).finished = (evaluation probe schedule start s k).ended probe := by
  obtain ⟨n, -, ends⟩ := exists_settledAt probe schedule start s
  rw [length_begun ends] at during
  rw [waitUntil_eq ends, ends.eq_of_value (Nat.lt_succ_iff.mp during) met]

theorem start_le_finished (probe : Probe σ) (schedule : Schedule) (start : Int) (s : σ) :
    start ≤ (waitUntil probe schedule start s).finished := by
  obtain ⟨n, -, ends⟩ := exists_settledAt probe schedule start s
  rw [waitUntil_eq ends]
  exact (ends.start_le_began le_rfl).trans (began_le_ended ..)

/-- What every answer keeps of the state the wait keeps. -/
theorem waitUntil_keeps {kept : σ → Prop} (keeps : ∀ now s, kept s → kept (probe now s).state)
    (schedule : Schedule) (start : Int) (first : kept s) : kept (waitUntil probe schedule start s).state := by
  obtain ⟨n, -, ends⟩ := exists_settledAt probe schedule start s
  rw [waitUntil_eq ends]
  exact keeps _ _ (evaluation_keeps keeps first n)

/-- A wait in vain ends after its timeout, and exceeds it by one evaluation at most. -/
theorem finished_of_expired (free : schedule.cutoff = none) {bound : Nat}
    (brief : ∀ now s, (probe now s).value = false → (probe now s).cost ≤ bound)
    (expired : (waitUntil probe schedule start s).converged = false) :
    let finished := (waitUntil probe schedule start s).finished
    start + schedule.timeout ≤ finished ∧ finished ≤ start + schedule.timeout + bound := by
  intro finished
  obtain ⟨n, -, ends⟩ := exists_settledAt probe schedule start s
  have unmet : (evaluation probe schedule start s n).value probe = false := (converged_eq ends).symm.trans expired
  have deadline : schedule.deadline start = start + schedule.timeout := by rw [Schedule.deadline, free]
  have late : schedule.deadline start ≤ (evaluation probe schedule start s n).ended probe :=
    ends.settled.resolve_left (by rw [unmet]; exact Bool.false_ne_true)
  have begun := began_le probe schedule start s n
  have took : (evaluation probe schedule start s n).cost probe ≤ bound := brief _ _ unmet
  have form : finished = (evaluation probe schedule start s n).ended probe := by
    unfold finished
    rw [waitUntil_eq ends]
  rw [form]
  rw [Evaluation.ended] at late ⊢
  omega

/-- A wait ends with its last evaluation. -/
theorem waitUntil_last (probe : Probe σ) (schedule : Schedule) (start : Int) (s : σ) :
    let outcome := waitUntil probe schedule start s
    let last := evaluation probe schedule start s (outcome.begun.length - 1)
    outcome.converged = last.value probe ∧ outcome.finished = last.ended probe ∧
      outcome.state = (last.answer probe).state := by
  intro outcome last
  obtain ⟨n, -, ends⟩ := exists_settledAt probe schedule start s
  have is_last : last = evaluation probe schedule start s n := by
    unfold last
    rw [show outcome.begun.length = n + 1 from length_begun ends, Nat.add_sub_cancel]
  rw [is_last]
  refine ⟨converged_eq ends, ?_, ?_⟩
  · exact congrArg Outcome.finished (waitUntil_eq ends)
  · exact congrArg Outcome.state (waitUntil_eq ends)

/-- A wait whose deadline has come is one evaluation. -/
theorem waitUntil_of_late (late : schedule.deadline start ≤ start) :
    waitUntil probe schedule start s =
      let only : Evaluation σ := ⟨start, s⟩
      ⟨only.ending probe, only.ended probe, [start], (only.answer probe).state⟩ := by
  have ends : SettledAt probe schedule start s 0 :=
    ⟨fun k before => absurd before k.not_lt_zero, .inr (late.trans (Evaluation.began_le_ended ..))⟩
  exact waitUntil_eq ends

end Wait

end PortRelease
