import PortRelease.Proofs.Wait.Evaluations
/-!
# Two waits side by side

Two conditions are alike if in related states they give the same answer after the same time and leave related
states. Two waits for such conditions that start together go the same way, evaluation by evaluation, whatever the
states are (`waitUntil_alike`).
-/

namespace PortRelease

variable {σ τ : Type} {related : σ → τ → Prop} {probe : Probe σ} {probe' : Probe τ}

/-- In related states two conditions answer alike, and leave related states. -/
def Probe.Alike (related : σ → τ → Prop) (probe : Probe σ) (probe' : Probe τ) : Prop :=
  ∀ now s s', related s s' → (probe now s).value = (probe' now s').value ∧
    (probe now s).cost = (probe' now s').cost ∧ related (probe now s).state (probe' now s').state

/-- Two evaluations begin at one instant in related states. -/
structure Evaluation.Together (related : σ → τ → Prop) (e : Evaluation σ) (e' : Evaluation τ) : Prop where
  began_eq : e.began = e'.began
  states : related e.state e'.state

namespace Evaluation.Together

variable {e : Evaluation σ} {e' : Evaluation τ} (together : Together related e e')
  (alike : probe.Alike related probe')

include together alike

theorem value_eq : e.value probe = e'.value probe' := by
  rw [value, value, answer, answer, together.began_eq]
  exact (alike _ _ _ together.states).1

theorem ended_eq : e.ended probe = e'.ended probe' := by
  rw [ended, ended, cost, cost, answer, answer, together.began_eq]
  exact congrArg (fun cost : Nat => e'.began + (cost : Int)) (alike _ _ _ together.states).2.1

theorem states_answer : related (e.answer probe).state (e'.answer probe').state := by
  rw [answer, answer, together.began_eq]
  exact (alike _ _ _ together.states).2.2

theorem next (schedule : Schedule) (deadline : Int) :
    Together related (e.next probe schedule deadline) (e'.next probe' schedule deadline) where
  began_eq := congrArg (schedule.wake deadline) (together.ended_eq alike)
  states := together.states_answer alike

theorem settles_iff (deadline : Int) : e.Settles probe deadline ↔ e'.Settles probe' deadline := by
  rw [Settles, Settles, together.value_eq alike, together.ended_eq alike]

end Evaluation.Together

namespace Wait

variable {s : σ} {s' : τ}

theorem evaluation_together (alike : probe.Alike related probe') (first : related s s') (schedule : Schedule)
    (start : Int) (k : Nat) :
    Evaluation.Together related (evaluation probe schedule start s k) (evaluation probe' schedule start s' k) := by
  induction k with
  | zero => exact ⟨rfl, first⟩
  | succ k ih =>
    rw [evaluation_succ, evaluation_succ]
    exact ih.next alike schedule _

end Wait

/-- **Waits for conditions that are alike go the same way.** -/
theorem waitUntil_alike (alike : probe.Alike related probe') (schedule : Schedule) (start : Int) {s : σ} {s' : τ}
    (first : related s s') :
    let outcome := waitUntil probe schedule start s
    let outcome' := waitUntil probe' schedule start s'
    outcome.ending = outcome'.ending ∧ outcome.finished = outcome'.finished ∧ outcome.begun = outcome'.begun ∧
      related outcome.state outcome'.state := by
  intro outcome outcome'
  have together := Wait.evaluation_together alike first schedule start
  -- so one number settles both
  have settles_iff (k : Nat) := (together k).settles_iff alike (schedule.deadline start)
  obtain ⟨n, -, ends⟩ := Wait.exists_settledAt probe schedule start s
  have ends' : Wait.SettledAt probe' schedule start s' n :=
    ⟨fun k before settled => ends.pending k before ((settles_iff k).mpr settled), (settles_iff n).mp ends.settled⟩
  unfold outcome outcome'
  rw [Wait.waitUntil_eq ends, Wait.waitUntil_eq ends']
  refine ⟨?_, (together n).ended_eq alike, ?_, (together n).states_answer alike⟩
  · show Evaluation.ending probe _ = Evaluation.ending probe' _
    rw [Evaluation.ending, Evaluation.ending, (together n).value_eq alike]
  · exact List.map_congr_left fun k _ => (together k).began_eq

end PortRelease
