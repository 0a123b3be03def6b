/-!
# Waiting for a condition

A wait evaluates a condition at once, and again after a pause until the condition holds or the wait runs out.
It never sleeps past its deadline, so the last evaluation happens at the deadline itself; an evaluation that is
under way then is allowed to end, and its answer counts. A wait can be cut off from outside: then nothing that
would come later happens, and what would end at that very instant still does.

An instant is an integer, in milliseconds from an arbitrary origin, so a deadline may lie before the start;
then there is one evaluation. Only evaluations and pauses take time. A pause is at least one millisecond,
whatever is asked for, which is why the wait ends (`Schedule.lt_wake`).

How an evaluation answers, how long it takes and what it does to the state of things are up to the condition.
-/

namespace PortRelease

/-- What an action gives: a value, the milliseconds it took, and the state it leaves. -/
structure Timed (σ α : Type) where
  value : α
  cost : Nat
  state : σ

/-- A condition that can be evaluated at an instant, in a state. -/
abbrev Probe (σ : Type) := Int → σ → Timed σ Bool

/-- The opposite condition. -/
def Probe.not {σ : Type} (probe : Probe σ) : Probe σ := fun now s =>
  let answer := probe now s
  { answer with value := !answer.value }

/-- How often a condition is evaluated, and for how long. -/
structure Schedule where
  /-- The pause between evaluations, in milliseconds. -/
  interval : Nat
  /-- How long the wait goes on after its start, in milliseconds. -/
  timeout : Nat
  /-- An instant at which it stops in any case. -/
  cutoff : Option Int
  deriving DecidableEq

namespace Schedule

/-- Four times a second for half a minute. -/
def default : Schedule := ⟨250, 30000, none⟩

/-- When a wait gives up that starts at `start`. -/
def deadline (schedule : Schedule) (start : Int) : Int :=
  match schedule.cutoff with
  | some cutoff => min (start + schedule.timeout) cutoff
  | none => start + schedule.timeout

/-- The pause between evaluations. -/
def pause (schedule : Schedule) : Nat := max schedule.interval 1

/-- When the evaluation begins that follows one that ended at `ended`. -/
def wake (schedule : Schedule) (deadline ended : Int) : Int := min (ended + schedule.pause) deadline

theorem lt_wake (schedule : Schedule) {deadline ended : Int} (h : ended < deadline) :
    ended < schedule.wake deadline ended := by
  have : 0 < schedule.pause := Nat.lt_of_lt_of_le Nat.zero_lt_one (Nat.le_max_right ..)
  simp only [wake]
  omega

theorem wake_le (schedule : Schedule) (deadline ended : Int) :
    schedule.wake deadline ended ≤ deadline := by
  simp only [wake]
  omega

end Schedule

/-- How a wait ends. -/
inductive Ending where
  /-- The condition held. -/
  | converged
  /-- The deadline had come and the condition did not hold. -/
  | expired
  /-- The wait was cut off. -/
  | cancelled
  deriving DecidableEq

/-- What became of a wait. -/
structure Outcome (σ : Type) where
  ending : Ending
  /-- When it ended. -/
  finished : Int
  /-- When its evaluations began, in order. -/
  begun : List Int
  state : σ

namespace Outcome

/-- Whether the condition held. -/
def converged {σ : Type} (outcome : Outcome σ) : Bool := outcome.ending = .converged

end Outcome

namespace Wait

/-- The cut, if it comes before `t`. -/
def cutBefore? (cut : Option Int) (t : Int) : Option Int := cut.filter fun c => decide (c < t)

/-- A wait that is about to evaluate its condition at `now`; `begun` has the earlier evaluations, the last one
first. -/
def loop {σ : Type} (probe : Probe σ) (schedule : Schedule) (deadline : Int) (cut : Option Int)
    (now : Int) (s : σ) (begun : List Int) : Outcome σ :=
  let answer := probe now s
  let ended := now + answer.cost
  let begun := now :: begun
  match cutBefore? cut ended with
  | some cut => ⟨.cancelled, cut, begun.reverse, s⟩
  | none =>
    if answer.value then ⟨.converged, ended, begun.reverse, answer.state⟩
    else if _h : deadline ≤ ended then ⟨.expired, ended, begun.reverse, answer.state⟩
    else
      let wake := schedule.wake deadline ended
      match cutBefore? cut wake with
      | some cut => ⟨.cancelled, cut, begun.reverse, answer.state⟩
      | none => loop probe schedule deadline cut wake answer.state begun
termination_by (deadline - now).toNat
decreasing_by
  have early : now + ((probe now s).cost : Int) < deadline := Int.not_le.1 _h
  have later := schedule.lt_wake early
  have bounded := schedule.wake_le deadline (now + ((probe now s).cost : Int))
  show (deadline - schedule.wake deadline (now + ((probe now s).cost : Int))).toNat < (deadline - now).toNat
  omega

/-- **A wait that starts at `start`**, cut off at `cut` if that is given. -/
def run {σ : Type} (probe : Probe σ) (schedule : Schedule) (cut : Option Int) (start : Int) (s : σ) :
    Outcome σ :=
  loop probe schedule (schedule.deadline start) cut start s []

end Wait

/-- A wait that nobody cuts off. -/
def waitUntil {σ : Type} (probe : Probe σ) (schedule : Schedule) (start : Int) (s : σ) : Outcome σ :=
  Wait.run probe schedule none start s

end PortRelease
