import PortRelease.Proofs.Platform.Termination
/-!
# The root decides what ending a tree comes to

Of all the calls that end a tree only the one to the root is reported. `terminate_result` reads the result off what
that call came to, and `refusal_of_failed` goes the other way, so that a failure is known to have left everybody
alone. What the call comes to depends on the live processes of the root's number and nothing else
(`answer_of_targets`).

* `terminate_reports_root`: the result for each answer, and what a failure leaves behind.
-/

namespace PortRelease

namespace World

/-- Refusals alone decide what a call that sends a signal reports. -/
theorem refusalOf_congr {targets targets' : List ProcessState}
    (same : targets.map ProcessState.refusal = targets'.map ProcessState.refusal) :
    refusalOf targets = refusalOf targets' := by
  have by_refusals (ps : List ProcessState) : refusalOf ps =
      if (ps.map ProcessState.refusal).any Option.isNone then none
      else some (((ps.map ProcessState.refusal).head?.bind id).getD .noProcess) := by
    rw [refusalOf, List.any_map, List.head?_map, Option.bind_map]
    rfl
  rw [by_refusals, by_refusals, same]

end World

namespace Unix

open World

variable {root : ProcessId} {mode : Mode} {now : Int} {w : World}

/-! ## The answer -/

/-- What the signal to the root comes to. -/
def rootAnswer (root : ProcessId) (mode : Mode) (now : Int) (w : World) : Option Errno :=
  ((snapshot w).2.signal now root (Signal.ofMode mode)).1

theorem answer_of_targets (root : ProcessId) (mode : Mode) (now : Int) (w : World) :
    rootAnswer root mode now w = refusalOf (w.targets now (·.pid == root.number)) := by
  show refusalOf ((snapshot w).2.targets now _) = _
  rw [targets, processes_snapshot, targets]

theorem answer_of_absent (absent : ∀ p ∈ w.processes, p.pid = root.number → p.aliveAt now = false) :
    rootAnswer root mode now w = some .noProcess := by
  apply signal_of_absent
  rw [processes_snapshot]
  exact absent

/-! ## The result -/

/-- The result that an answer means. -/
def rootResult (root : ProcessId) : Option Errno → Except Failure Unit
  | none => .ok ()
  | some refusal => .error (rootFailure root refusal)

theorem terminate_result (root : ProcessId) (mode : Mode) (now : Int) (w : World) :
    (terminate root mode now w).1 = rootResult root (rootAnswer root mode now w) := by
  cases answer : rootAnswer root mode now w with
  | none => rw [terminate_of_taken answer, rootResult]
  | some refusal => rw [terminate_of_refused answer, rootResult]

theorem rootFailure_of_other {refusal : Errno} (not_absent : refusal ≠ .noProcess)
    (not_denied : refusal ≠ .notPermitted) :
    rootFailure root refusal = .killFailed root.number refusal.signalSentence := by
  rw [rootFailure, if_neg not_absent, if_neg not_denied]

theorem refusal_of_failed {failure : Failure} (failed : (terminate root mode now w).1 = .error failure) :
    ∃ refusal, rootAnswer root mode now w = some refusal ∧ failure = rootFailure root refusal := by
  rw [terminate_result] at failed
  cases answer : rootAnswer root mode now w with
  | none =>
    rw [answer] at failed
    cases failed
  | some refusal =>
    rw [answer] at failed
    exact ⟨refusal, rfl, (Except.error.inj failed).symm⟩

theorem answer_of_taken (taken : (terminate root mode now w).1 = .ok ()) : rootAnswer root mode now w = none := by
  rw [terminate_result] at taken
  cases answer : rootAnswer root mode now w with
  | none => rfl
  | some refusal =>
    rw [answer] at taken
    cases taken

theorem taken_of_target {p : ProcessState} (here : p ∈ w.processes) (alive : p.aliveAt now = true)
    (number : p.pid = root.number) (takes : p.refusal = none) : (terminate root mode now w).1 = .ok () := by
  have target : p ∈ w.targets now (·.pid == root.number) :=
    List.mem_filter.mpr ⟨here, by simp only [alive, number, beq_self_eq_true, Bool.and_self]⟩
  rw [terminate_result, answer_of_targets, refusalOf_eq_none.mpr ⟨p, target, takes⟩, rootResult]

/-! ## What is left behind -/

/-- After a success the root has met the signal, and whoever else has changed has met it too. -/
theorem processes_of_taken (taken : (terminate root mode now w).1 = .ok ()) :
    ∃ meant : (pid group : Nat) → Bool, (∀ group, meant root.number group = true) ∧
      (terminate root mode now w).2.processes = w.processes.map (ProcessState.meet now (Signal.ofMode mode) meant) := by
  have sent := (terminate_sent_of_taken (answer_of_taken taken)).processes_eq
  rw [processes_snapshot] at sent
  refine ⟨_, fun group => ?_, sent⟩
  rw [beq_self_eq_true, Bool.true_or]

/-- The signal to the root is the first that is sent, and if it is refused the last. -/
theorem terminate_first_signal (root : ProcessId) (mode : Mode) (now : Int) (w : World) :
    ∃ later, (terminate root mode now w).2.events = (snapshot w).2.events ++
        (.signalled root.number (Signal.ofMode mode) (rootAnswer root mode now w) :: later) ∧
      (rootAnswer root mode now w ≠ none → later = []) := by
  cases answer : rootAnswer root mode now w with
  | some refusal =>
    refine ⟨[], ?_, fun _ => rfl⟩
    rw [terminate_of_refused answer, ← answer]
    exact events_record ..
  | none =>
    have others := (signalLedGroup_sent now root (Signal.ofMode mode)
      ((snapshot w).2.signal now root (Signal.ofMode mode)).2).trans
        (signalEach_sent (descendantsIn root (snapshot w).1) _)
    obtain ⟨later, events, -⟩ := others.events_eq
    refine ⟨later, ?_, fun refused => absurd rfl refused⟩
    rw [terminate_of_taken answer, events, ← answer, List.append_cons]
    exact congrArg (· ++ later) (events_record ..)

/-- A failure has left every process alone. -/
theorem processes_of_failed {failure : Failure} (failed : (terminate root mode now w).1 = .error failure) :
    (terminate root mode now w).2.processes = w.processes := by
  obtain ⟨refusal, refused, -⟩ := refusal_of_failed failed
  rw [terminate_of_refused refused]
  exact (processes_signal_of_refused refused).trans (processes_snapshot w)

/-- **The root's fate is reported, and a failure changes nothing.** The first signal goes to the root, after nothing
but the snapshot, and what it comes to is the result, whatever comes of the snapshot and of the signals that follow:
worlds that agree in how the live processes of the root's number refuse signals agree in the result. If the result
is a failure, no other signal is sent and every process is as it was; if no live process has the root's number, the
failure says so. -/
theorem terminate_reports_root (root : ProcessId) (mode : Mode) (now : Int) (w : World) :
    let signal := Signal.ofMode mode
    let answer := ((snapshot w).2.signal now root signal).1
    let ended := terminate root mode now w
    (∃ shown later, ended.2.events = w.events ++ shown ++ (.signalled root.number signal answer :: later) ∧
      (∀ event ∈ shown, event = .ran "ps" ["-A", "-o", "pid=,ppid="]) ∧
      (ended.1 ≠ .ok () → later = [])) ∧
    (answer = none → ended.1 = .ok ()) ∧
    (answer = some .noProcess → ended.1 = .error (.processNotFound root.number)) ∧
    (answer = some .notPermitted → ended.1 = .error (.permissionDenied root.number)) ∧
    (∀ refusal, answer = some refusal → refusal ≠ .noProcess → refusal ≠ .notPermitted →
      ended.1 = .error (.killFailed root.number refusal.signalSentence)) ∧
    (∀ w' : World, (w'.targets now (·.pid == root.number)).map ProcessState.refusal =
        (w.targets now (·.pid == root.number)).map ProcessState.refusal →
      (terminate root mode now w').1 = ended.1) ∧
    (ended.1 ≠ .ok () → ended.2.processes = w.processes) ∧
    ((∀ p ∈ w.processes, p.pid = root.number → p.aliveAt now = false) →
      ended.1 = .error (.processNotFound root.number)) := by
  intro signal answer ended
  have result : ended.1 = rootResult root answer := terminate_result root mode now w
  refine ⟨?_, fun taken => ?_, fun absent => ?_, fun denied => ?_, fun refusal refused not_absent not_denied => ?_,
    fun w' same => ?_, fun failed => ?_, fun absent => ?_⟩
  · -- before the signal to the root there is at most one event, that of the snapshot
    obtain ⟨later, events, ends⟩ := terminate_first_signal root mode now w
    obtain ⟨shown, told, only⟩ := exists_events_snapshot w
    refine ⟨shown, later, events.trans (congrArg (· ++ _) told), only, fun failed => ends fun taken => ?_⟩
    exact failed (result.trans (congrArg (rootResult root) taken))
  · rw [result, taken, rootResult]
  · rw [result, absent, rootResult]
    rfl
  · rw [result, denied, rootResult]
    rfl
  · rw [result, refused, rootResult, rootFailure_of_other not_absent not_denied]
  · rw [result, terminate_result, answer_of_targets, refusalOf_congr same, ← answer_of_targets root mode]
    rfl
  · cases ended_eq : ended.1 with
    | ok _ => exact absurd ended_eq failed
    | error failure => exact processes_of_failed ended_eq
  · rw [result, show answer = some .noProcess from answer_of_absent absent, rootResult]
    rfl

/-- A root that may not be signalled, with a member in its group that could be: the tree is left alone. -/
example :
    let leader : ProcessState := ⟨100, 100, some .notPermitted, 0, [], [], none⟩
    let member : ProcessState := ⟨200, 100, none, 0, [], [], none⟩
    let ended := terminate ⟨100, by decide, by decide⟩ .forced 0 ⟨[], [leader, member], [], [], 1, [], []⟩
    ended.1 = .error (.permissionDenied 100) ∧ ended.2.processes = [leader, member] ∧
      ended.2.events = [.signalled 100 .kill (some .notPermitted)] := ⟨rfl, rfl, rfl⟩

end Unix

end PortRelease
