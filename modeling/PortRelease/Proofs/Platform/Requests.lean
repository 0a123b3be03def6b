import PortRelease.Proofs.Platform.Regular
import PortRelease.Proofs.Platform.RootFate
/-!
# Requests that are taken

Whoever takes the request to end has been asked once (`Controller.exists_request_of_taken`): on Unix the root is signalled by
its number once, since nothing shows it among its own descendants, and on Windows `taskkill` is run once. A request
that fails does so at once, and never because a wait ran out (`Controller.terminate_ne_notConverged`).
-/

namespace PortRelease

open World

/-- The event asks a process to end: a signal to its number, or a run of `taskkill`. -/
def Event.asksEnd (pid : ProcessId) : Event → Bool
  | .signalled number _ _ => number == pid.number
  | .ran tool _ => tool == "taskkill"
  | _ => false

namespace Unix

variable {root : ProcessId} {mode : Mode} {now : Int} {w : World}

/-- The call is for a process by its number. -/
def callsFor (root : ProcessId) : SignalCall → Bool
  | .toProcess pid _ => pid == root.number
  | .toGroup .. => false

/-- Of events that are signal calls, those that ask a process to end are the calls for it. -/
theorem countP_asksEnd {made : List Event} : ∀ {calls : List SignalCall},
    made.map Event.signalCall? = calls.map some → made.countP (Event.asksEnd root) = calls.countP (callsFor root) := by
  induction made with
  | nil =>
    intro calls told
    rw [List.map_eq_nil_iff.mp told.symm]
    rfl
  | cons event made ih =>
    intro calls told
    obtain ⟨call, rest, rfl, is_call, others⟩ := List.map_eq_cons_iff.mp told.symm
    have same : event.asksEnd root = callsFor root call := by
      cases event <;> cases is_call <;> rfl
    rw [List.countP_cons, List.countP_cons, ih others.symm, same]

theorem root_not_mem_descendantsIn (root : ProcessId) (run : ToolRun) : root.number ∉ descendantsIn root run := by
  by_cases printed : ∃ text, ToolRun.Prints run text
  · obtain ⟨text, prints⟩ := printed
    obtain ⟨table, -, breadth_first⟩ := descendantsIn_breadthFirst prints
    rw [breadth_first.mem_iff]
    exact fun below => below.1 rfl
  · rw [descendantsIn_of_not_prints fun text prints => printed ⟨text, prints⟩]
    exact List.not_mem_nil

theorem exists_request_of_taken (taken : (terminate root mode now w).1 = .ok ()) :
    ∃ requests, (terminate root mode now w).2.events = w.events ++ requests ∧
      requests.countP (Event.asksEnd root) = 1 := by
  obtain ⟨made, events, told⟩ := (terminate_sent_of_taken (answer_of_taken taken)).events_eq
  have others : ∀ pid ∈ signallable (descendantsIn root (snapshot w).1), pid ≠ root.number := by
    rintro _ mem rfl
    exact root_not_mem_descendantsIn root _ (List.mem_filter.mp mem).1
  have once : made.countP (Event.asksEnd root) = 1 := by
    rw [countP_asksEnd told]
    cases seenToLead root (Signal.ofMode mode) now w with
    | true => simpa [callsFor, List.countP_map, List.countP_eq_zero] using others
    | false => simpa [callsFor, List.countP_map, List.countP_eq_zero] using others
  obtain ⟨shown, ran, only⟩ := exists_events_snapshot w
  have not_asked : shown.countP (Event.asksEnd root) = 0 := List.countP_eq_zero.mpr fun event mem => by
    rw [only event mem]
    exact Bool.false_ne_true
  refine ⟨shown ++ made, ?_, ?_⟩
  · rw [events, ran, List.append_assoc]
  · rw [List.countP_append, not_asked, once, Nat.zero_add]

theorem rootFailure_ne_notConverged (root : ProcessId) (refusal : Errno) (waited : Span) (awaited : String) :
    rootFailure root refusal ≠ .notConverged waited awaited := by
  unfold rootFailure
  split
  · exact Failure.noConfusion
  · split <;> exact Failure.noConfusion

end Unix

namespace Windows

variable {root : ProcessId} {mode : Mode} {w : World}

theorem exists_request_of_taken (now : Int) (taken : (terminate root mode now w).1 = .ok ()) :
    ∃ requests, (terminate root mode now w).2.events = w.events ++ requests ∧
      requests.countP (Event.asksEnd root) = 1 := by
  rw [terminate_eq] at taken ⊢
  obtain ⟨-, ⟨output, -, events⟩ | ⟨e, unstarted, -⟩⟩ := launch_events "taskkill" (taskkillArguments root mode) w
  · exact ⟨_, events, rfl⟩
  · simp only [unstarted] at taken
    cases taken

theorem taskkillFailure_ne_notConverged (pid : Nat) (printed : Text) (waited : Span) (awaited : String) :
    taskkillFailure pid printed ≠ .notConverged waited awaited := by
  unfold taskkillFailure
  split
  · exact Failure.noConfusion
  · split <;> exact Failure.noConfusion

end Windows

namespace Controller

variable {controller : Controller} {pid : ProcessId} {mode : Mode} {now : Int} {w : World}

/-- **Whoever takes the request was asked once.** -/
theorem exists_request_of_taken (platform : controller = .unix ∨ controller = .windows)
    (taken : (controller.terminate pid mode now w).1 = .ok ()) :
    ∃ requests, (controller.terminate pid mode now w).2.events = w.events ++ requests ∧
      requests.countP (Event.asksEnd pid) = 1 := by
  rcases platform with rfl | rfl
  · exact Unix.exists_request_of_taken taken
  · exact Windows.exists_request_of_taken now taken

/-- A request that fails fails at once, not by waiting. -/
theorem terminate_ne_notConverged (platform : controller = .unix ∨ controller = .windows) (waited : Span)
    (awaited : String) : (controller.terminate pid mode now w).1 ≠ .error (.notConverged waited awaited) := by
  rcases platform with rfl | rfl
  · intro failed
    obtain ⟨refusal, -, failure⟩ := Unix.refusal_of_failed failed
    exact Unix.rootFailure_ne_notConverged pid refusal waited awaited failure.symm
  · show (Windows.terminate pid mode now w).1 ≠ _
    rw [Windows.terminate_eq]
    intro failed
    dsimp only at failed
    split at failed
    next output _ =>
      unfold Windows.taskkillAnswer at failed
      split at failed
      · cases failed
      · exact Windows.taskkillFailure_ne_notConverged _ _ _ _ (Except.error.inj failed)
    next => cases failed

end Controller

end PortRelease
