import PortRelease.World.Processes
/-!
# What signals do to the world

A call that sends a signal leaves one event, and of the processes it changes the live ones it is meant for, by
their number or by their group. `Sent` says this of a whole series of calls at one instant: which calls they
were, in order, and whom they met. `Sent.trans` joins two series. A process that both meet counts once, because
a process that has received a signal is not changed by receiving it again (`receive_receive`), and number and
group stay, so the first series does not change whom the second is meant for.

Whether a process outlasts the instant of a signal (`outlasts`) decides whether it is still there for a question
asked right afterwards (`groupOf?_signal`). Later on it can only be gone: nobody comes to life (`aliveAt_of_meet`).
A call that is refused has been refused by everybody it met, and has changed nobody
(`processes_signal_of_refused`).
-/

namespace PortRelease

/-- A call that sends a signal. -/
inductive SignalCall where
  | toProcess (pid : Nat) (signal : Signal)
  | toGroup (group : Nat) (signal : Signal)
  deriving DecidableEq

/-- The call that an event tells of, if it is one that sends a signal. -/
def Event.signalCall? : Event → Option SignalCall
  | .signalled pid signal _ => some (.toProcess pid signal)
  | .signalledGroup group signal _ => some (.toGroup group signal)
  | .ran .. => none
  | .connected .. => none
  | .bound .. => none
  | .accepted _ => none

namespace ProcessState

variable {now : Int} {signal : Signal} {p : ProcessState}

/-! ## One process -/

/-- A live process is still alive right after the signal: it refuses it, ignores it, is ending already or takes
its time. -/
def outlasts (signal : Signal) (p : ProcessState) : Bool :=
  p.refusal.isSome || p.ignores.contains signal || p.deadFrom.isSome || decide (0 < p.exitDelay)

@[simp] theorem pid_receive : (p.receive now signal).pid = p.pid := by
  unfold receive
  split <;> rfl

@[simp] theorem group_receive : (p.receive now signal).group = p.group := by
  unfold receive
  split <;> rfl

@[simp] theorem sockets_receive : (p.receive now signal).sockets = p.sockets := by
  unfold receive
  split <;> rfl

theorem receive_receive : (p.receive now signal).receive now signal = p.receive now signal := by
  by_cases spared : (p.refusal.isSome || p.ignores.contains signal || p.deadFrom.isSome) = true
  · have unchanged : p.receive now signal = p := if_pos spared
    rw [unchanged, unchanged]
  · have ending : p.receive now signal = { p with deadFrom := some (now + p.exitDelay) } := if_neg spared
    rw [ending]
    exact if_pos (Bool.or_true _)

theorem aliveAt_receive (alive : p.aliveAt now = true) : (p.receive now signal).aliveAt now = p.outlasts signal := by
  by_cases spared : (p.refusal.isSome || p.ignores.contains signal || p.deadFrom.isSome) = true
  · have unchanged : p.receive now signal = p := if_pos spared
    rw [unchanged, alive, outlasts, spared, Bool.true_or]
  · have ending : p.receive now signal = { p with deadFrom := some (now + p.exitDelay) } := if_neg spared
    rw [ending, outlasts, Bool.eq_false_iff.mpr spared, Bool.false_or]
    show decide (now < now + (p.exitDelay : Int)) = decide (0 < p.exitDelay)
    exact decide_eq_decide.mpr (by omega)

/-- The process after a signal that is meant for certain numbers and groups. -/
def meet (now : Int) (signal : Signal) (meant : (pid group : Nat) → Bool) (p : ProcessState) : ProcessState :=
  if p.aliveAt now && meant p.pid p.group then p.receive now signal else p

variable {meant meant' : (pid group : Nat) → Bool}

@[simp] theorem pid_meet : (p.meet now signal meant).pid = p.pid := by
  unfold meet
  split
  · exact pid_receive
  · rfl

@[simp] theorem group_meet : (p.meet now signal meant).group = p.group := by
  unfold meet
  split
  · exact group_receive
  · rfl

@[simp] theorem sockets_meet : (p.meet now signal meant).sockets = p.sockets := by
  unfold meet
  split
  · exact sockets_receive
  · rfl

theorem meet_of_dead (dead : p.aliveAt now = false) : p.meet now signal meant = p := by
  rw [meet, dead, Bool.false_and, if_neg Bool.false_ne_true]

theorem meet_of_meant (alive : p.aliveAt now = true) (h : meant p.pid p.group = true) :
    p.meet now signal meant = p.receive now signal := by
  rw [meet, alive, h]
  rfl

theorem meet_of_not_meant (h : meant p.pid p.group = false) : p.meet now signal meant = p := by
  rw [meet, h, Bool.and_false, if_neg Bool.false_ne_true]

/-- Who has met a signal and meets it again has met it once. -/
theorem meet_meet : (p.meet now signal meant).meet now signal meant' =
    p.meet now signal fun pid group => meant pid group || meant' pid group := by
  cases alive : p.aliveAt now with
  | false => rw [meet_of_dead alive, meet_of_dead alive, meet_of_dead alive]
  | true =>
    cases first : meant p.pid p.group with
    | false =>
      rw [meet_of_not_meant first, meet, meet, first, Bool.false_or]
    | true =>
      rw [meet_of_meant alive first, meet_of_meant alive (by rw [first, Bool.true_or]), meet]
      split
      · exact receive_receive
      · rfl

/-! ## Later -/

/-- The dead stay dead. -/
theorem aliveAt_of_later {later : Int} (h : now ≤ later) (alive : p.aliveAt later = true) :
    p.aliveAt now = true := by
  unfold aliveAt at alive ⊢
  split at alive
  next death _ => exact decide_eq_true (Int.lt_of_le_of_lt h (of_decide_eq_true alive))
  next => rfl

/-- Nobody comes to life by meeting a signal. -/
theorem aliveAt_of_meet {later : Int} (h : now ≤ later)
    (alive : (p.meet now signal meant).aliveAt later = true) : p.aliveAt now = true := by
  cases before : p.aliveAt now with
  | true => rfl
  | false =>
    rw [meet_of_dead before] at alive
    exact before.symm.trans (aliveAt_of_later h alive)

/-- A process that a signal ends is alive for its delay and no longer. -/
theorem aliveAt_receive_of_ending {later : Int} (takes : p.refusal = none) (heeds : signal ∉ p.ignores)
    (running : p.deadFrom = none) :
    (p.receive now signal).aliveAt later = decide (later < now + p.exitDelay) := by
  have struck : (p.refusal.isSome || p.ignores.contains signal || p.deadFrom.isSome) = false := by
    rw [takes, running, List.contains_eq_mem, decide_eq_false heeds]
    rfl
  rw [receive, struck]
  rfl

end ProcessState

namespace World

variable {now : Int} {signal : Signal} {w : World}

/-! ## One call -/

@[simp] theorem events_record (w : World) (event : Event) : (w.record event).events = w.events ++ [event] :=
  List.reverse_cons

/-- A tool that is run leaves the processes alone, and an event if it could be started. -/
theorem launch_events (tool : String) (arguments : List String) (w : World) :
    (w.launch tool arguments).2.processes = w.processes ∧
      ((∃ output, (w.launch tool arguments).1 = .ok output ∧
          (w.launch tool arguments).2.events = w.events ++ [.ran tool arguments]) ∨
        (∃ e, (w.launch tool arguments).1 = .error e ∧ (w.launch tool arguments).2.events = w.events)) := by
  unfold launch
  split
  next => exact ⟨rfl, .inr ⟨.noEntry, rfl, rfl⟩⟩
  next e _ => exact ⟨rfl, .inr ⟨e, rfl, rfl⟩⟩
  next output _ => exact ⟨rfl, .inl ⟨output, rfl, events_record ..⟩⟩

/-- A series of calls that send a signal at one instant: whom they met, and which calls they were. -/
structure Sent (now : Int) (signal : Signal) (meant : (pid group : Nat) → Bool) (calls : List SignalCall)
    (w after : World) : Prop where
  processes_eq : after.processes = w.processes.map (ProcessState.meet now signal meant)
  events_eq : ∃ made, after.events = w.events ++ made ∧ made.map Event.signalCall? = calls.map some

/-- A call for a group means its members. -/
@[simp] theorem groupMeans_self (group : Nat) : groupMeans group group = true := by
  rw [groupMeans, beq_self_eq_true, Bool.or_true]

/-- A call for group 1 means everyone. -/
@[simp] theorem groupMeans_one (group : Nat) : groupMeans 1 group = true := rfl

/-- A call for another group means nobody else. -/
theorem groupMeans_of_ne_one {called : Nat} (h : called ≠ 1) (group : Nat) :
    groupMeans called group = (group == called) := by
  rw [groupMeans, beq_false_of_ne h, Bool.false_or]

theorem signal_sent (pid : ProcessId) :
    Sent now signal (fun number _ => number == pid.number) [.toProcess pid.number signal] w
      (w.signal now pid signal).2 where
  processes_eq := rfl
  events_eq := ⟨[_], events_record .., rfl⟩

theorem signalGroup_sent (group : ProcessId) :
    Sent now signal (fun _ number => groupMeans group.number number) [.toGroup group.number signal] w
      (w.signalGroup now group signal).2 where
  processes_eq := rfl
  events_eq := ⟨[_], events_record .., rfl⟩

namespace Sent

variable {meant meant' : (pid group : Nat) → Bool} {calls calls' : List SignalCall} {after last : World}

theorem none : Sent now signal (fun _ _ => false) [] w w where
  processes_eq := by
    have unmet : ∀ p ∈ w.processes, p.meet now signal (fun _ _ => false) = id p :=
      fun p _ => ProcessState.meet_of_not_meant rfl
    exact ((List.map_congr_left unmet).trans (List.map_id _)).symm
  events_eq := ⟨[], (List.append_nil _).symm, rfl⟩

theorem trans (first : Sent now signal meant calls w after) (second : Sent now signal meant' calls' after last) :
    Sent now signal (fun pid group => meant pid group || meant' pid group) (calls ++ calls') w last where
  processes_eq := by
    rw [second.processes_eq, first.processes_eq, List.map_map]
    exact List.map_congr_left fun p _ => ProcessState.meet_meet
  events_eq := by
    obtain ⟨made, events, told⟩ := first.events_eq
    obtain ⟨made', events', told'⟩ := second.events_eq
    refine ⟨made ++ made', ?_, ?_⟩
    · rw [events', events, List.append_assoc]
    · rw [List.map_append, told, told', List.map_append]

theorem congr (sent : Sent now signal meant calls w after) (same : ∀ pid group, meant pid group = meant' pid group) :
    Sent now signal meant' calls w after := by
  have same : meant = meant' := funext fun pid => funext fun group => same pid group
  exact same ▸ sent

theorem getElem?_processes (sent : Sent now signal meant calls w after) {i : Nat} {p : ProcessState}
    (here : w.processes[i]? = some p) : after.processes[i]? = some (p.meet now signal meant) := by
  rw [sent.processes_eq, List.getElem?_map, here, Option.map_some]

end Sent

/-! ## A refused signal -/

theorem refusalOf_eq_none {targets : List ProcessState} :
    refusalOf targets = .none ↔ ∃ p ∈ targets, p.refusal = .none := by
  unfold refusalOf
  split
  next taken =>
    obtain ⟨p, mem, takes⟩ := List.any_eq_true.mp taken
    exact ⟨fun _ => ⟨p, mem, Option.isNone_iff_eq_none.mp takes⟩, fun _ => rfl⟩
  next refused =>
    refine ⟨fun h => absurd h (Option.some_ne_none _), fun ⟨p, mem, takes⟩ => ?_⟩
    exact absurd (List.any_eq_true.mpr ⟨p, mem, Option.isNone_iff_eq_none.mpr takes⟩) refused

/-- A signal that is refused was refused by everybody whom it met, so it changed nobody. -/
theorem processes_signal_of_refused {pid : ProcessId} {refusal : Errno}
    (refused : (w.signal now pid signal).1 = some refusal) : (w.signal now pid signal).2.processes = w.processes := by
  have unchanged : ∀ p ∈ w.processes, p.meet now signal (fun number _ => number == pid.number) = id p := by
    intro p here
    rw [ProcessState.meet]
    split
    next met =>
      have target : p ∈ w.targets now (·.pid == pid.number) := List.mem_filter.mpr ⟨here, met⟩
      have refuses : p.refusal ≠ .none := fun takes => by
        have taken : (w.signal now pid signal).1 = .none := refusalOf_eq_none.mpr ⟨p, target, takes⟩
        rw [taken] at refused
        cases refused
      rw [ProcessState.receive, Option.isSome_iff_ne_none.mpr refuses, Bool.true_or, Bool.true_or, if_pos rfl]
      rfl
    next => rfl
  exact ((signal_sent pid).processes_eq.trans (List.map_congr_left unchanged)).trans (List.map_id _)

/-- Nobody is there to be signalled. -/
theorem signal_of_absent {pid : ProcessId}
    (absent : ∀ p ∈ w.processes, p.pid = pid.number → p.aliveAt now = false) :
    (w.signal now pid signal).1 = some .noProcess := by
  have nobody : w.targets now (·.pid == pid.number) = [] := by
    refine List.filter_eq_nil_iff.mpr fun p here met => ?_
    obtain ⟨alive, number⟩ := Bool.and_eq_true_iff.mp met
    rw [absent p here (beq_iff_eq.mp number)] at alive
    exact Bool.false_ne_true alive
  exact congrArg refusalOf nobody

/-! ## A question right after a signal -/

/-- Right after a process was signalled its group is that of the first live process of that number that outlasts
the signal. -/
theorem groupOf?_signal (pid : ProcessId) :
    (w.signal now pid signal).2.groupOf? now pid =
      (w.processes.find? fun p => p.aliveAt now && p.pid == pid.number && p.outlasts signal).map
        ProcessState.group := by
  have same (p : ProcessState) :
      ((p.meet now signal fun number _ => number == pid.number).aliveAt now &&
        (p.meet now signal fun number _ => number == pid.number).pid == pid.number) =
      (p.aliveAt now && p.pid == pid.number && p.outlasts signal) := by
    rw [ProcessState.pid_meet]
    cases alive : p.aliveAt now with
    | false => rw [ProcessState.meet_of_dead alive, alive, Bool.false_and, Bool.false_and]
    | true =>
      cases meant : p.pid == pid.number with
      | false => rw [Bool.and_false, Bool.and_false, Bool.false_and]
      | true => rw [ProcessState.meet_of_meant alive meant, ProcessState.aliveAt_receive alive, Bool.and_true,
          Bool.true_and, Bool.true_and]
  rw [groupOf?, targets, List.head?_filter, (signal_sent pid).processes_eq, List.find?_map, Option.map_map]
  congr 1
  · exact funext fun p => ProcessState.group_meet
  · exact congrArg (w.processes.find? ·) (funext same)

end World

end PortRelease
