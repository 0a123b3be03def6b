import PortRelease.Platform.Unix
import PortRelease.Proofs.Listing.Processes
import PortRelease.Proofs.Process.Tree
import PortRelease.Proofs.Text.Utf8
import PortRelease.Proofs.World.Signals
/-!
# Which signals end a process tree

Ending a tree makes a fixed series of calls (`terminate_of_refused`, `terminate_of_taken`), each of which is a
series of its own in the sense of `World.Sent`: one to the root, one to the group if the root still leads it, one
to each process of the snapshot that can have a process id. Together they are the series of a termination
(`terminate_sent`), from which the rest is read off: which calls there are (`calls`) and for whom (`isMeant`).

* `terminate_signals_tree`: these are all the calls there are, they come after the snapshot and in this order,
  and exactly the live processes that they are meant for receive the signal. The call for group 1 is meant for
  everyone, so nobody else is spared then (`stranger_ended_with_group_one`).
* `group_signalled_iff_root_outlasts`: whether the root leads its group is asked when it has been signalled
  already, so the group is signalled if and only if the root outlasts that instant.
-/

namespace PortRelease

/-- A run prints a text: it was started, reported success and wrote the octets of the text. -/
def ToolRun.Prints (run : ToolRun) (text : Text) : Prop :=
  ∃ output, run = .ok output ∧ output.exit = .code 0 ∧ output.stdout = Utf8.encode text

namespace Unix

open World

variable {root : ProcessId} {mode : Mode} {now : Int} {w : World} {signal : Signal}

/-! ## The snapshot -/

/-- The run of `ps` that shows who is whose child. -/
def snapshot (w : World) : ToolRun × World := w.launch "ps" ["-A", "-o", "pid=,ppid="]

theorem processes_snapshot (w : World) : (snapshot w).2.processes = w.processes := (launch_events ..).1

/-- The snapshot leaves its own event behind, if any. -/
theorem exists_events_snapshot (w : World) : ∃ shown, (snapshot w).2.events = w.events ++ shown ∧
    ∀ event ∈ shown, event = .ran "ps" ["-A", "-o", "pid=,ppid="] := by
  obtain ⟨-, ⟨output, -, events⟩ | ⟨e, -, events⟩⟩ := launch_events "ps" ["-A", "-o", "pid=,ppid="] w
  · exact ⟨[_], events, fun event mem => List.mem_singleton.mp mem⟩
  · exact ⟨[], events.trans (List.append_nil _).symm, fun event mem => absurd mem List.not_mem_nil⟩

theorem descendantsIn_of_prints {run : ToolRun} {text : Text} (prints : ToolRun.Prints run text) :
    descendantsIn root run = (Listing.processTable text).descendants root.number := by
  obtain ⟨output, rfl, success, printed⟩ := prints
  have succeeded : output.succeeded = true := decide_eq_true success
  simp only [descendantsIn, succeeded, if_true, printed, Utf8.decode_encode]

theorem descendantsIn_of_not_prints {run : ToolRun} (no_text : ∀ text, ¬ ToolRun.Prints run text) :
    descendantsIn root run = [] := by
  cases run with
  | error e => rfl
  | ok output =>
    rw [descendantsIn]
    split
    next succeeded =>
      cases readable : Utf8.decode output.stdout with
      | error fault => rfl
      | ok text =>
        exact absurd ⟨output, rfl, of_decide_eq_true succeeded, Utf8.decode_eq_ok_iff.mp readable⟩ (no_text text)
    next => rfl

/-- **The snapshot is the tree below the root** in the table that is printed, or nobody. -/
theorem descendantsIn_breadthFirst {run : ToolRun} {text : Text} (prints : ToolRun.Prints run text) : ∃ table,
    Listing.PrintsTable table text ∧ table.BreadthFirst root.number (descendantsIn root run) := by
  refine ⟨Listing.processTable text, Listing.printsTable_iff.mpr rfl, ?_⟩
  rw [descendantsIn_of_prints prints]
  exact (Listing.processTable text).descendants_breadthFirst root.number

/-! ## The calls -/

theorem terminate_eq : terminate root mode now w =
    match (snapshot w).2.signal now root (Signal.ofMode mode) with
    | (some refusal, struck) => (.error (rootFailure root refusal), struck)
    | (none, struck) => (.ok (), signalEach now (Signal.ofMode mode) (descendantsIn root (snapshot w).1)
        (signalLedGroup now root (Signal.ofMode mode) struck)) := rfl

theorem terminate_of_refused {refusal : Errno}
    (refused : ((snapshot w).2.signal now root (Signal.ofMode mode)).1 = some refusal) :
    terminate root mode now w =
      (.error (rootFailure root refusal), ((snapshot w).2.signal now root (Signal.ofMode mode)).2) := by
  have answer : (snapshot w).2.signal now root (Signal.ofMode mode) = (some refusal, _) := Prod.ext refused rfl
  rw [terminate_eq, answer]

theorem terminate_of_taken (taken : ((snapshot w).2.signal now root (Signal.ofMode mode)).1 = none) :
    terminate root mode now w =
      (.ok (), signalEach now (Signal.ofMode mode) (descendantsIn root (snapshot w).1)
        (signalLedGroup now root (Signal.ofMode mode)
          ((snapshot w).2.signal now root (Signal.ofMode mode)).2)) := by
  have answer : (snapshot w).2.signal now root (Signal.ofMode mode) = (none, _) := Prod.ext taken rfl
  rw [terminate_eq, answer]

theorem signalLedGroup_sent (now : Int) (leader : ProcessId) (signal : Signal) (w : World) :
    let leads := decide (w.groupOf? now leader = some leader.number)
    Sent now signal (fun _ group => leads && groupMeans leader.number group)
      (if leads then [.toGroup leader.number signal] else []) w (signalLedGroup now leader signal w) := by
  intro leads
  rw [signalLedGroup]
  by_cases led : w.groupOf? now leader = some leader.number
  · have leads_eq : leads = true := decide_eq_true led
    rw [if_pos led, leads_eq]
    exact (signalGroup_sent leader).congr fun _ _ => (Bool.true_and _).symm
  · have leads_eq : leads = false := decide_eq_false led
    rw [if_neg led, leads_eq]
    exact Sent.none.congr fun _ _ => (Bool.false_and _).symm

/-- The numbers of a list that processes can have. -/
def signallable (pids : List Nat) : List Nat := pids.filter fun pid => decide (1 ≤ pid ∧ pid ≤ 2147483647)

theorem signallable_of_possible (pid : ProcessId) (rest : List Nat) :
    signallable (pid.number :: rest) = pid.number :: signallable rest :=
  List.filter_cons_of_pos (decide_eq_true ⟨pid.number_pos, pid.number_le⟩)

theorem signallable_of_impossible {n : Nat} (h : ProcessId.ofNat? n = none) (rest : List Nat) :
    signallable (n :: rest) = signallable rest := by
  refine List.filter_cons_of_neg fun possible => ?_
  have outside := ProcessId.ofNat?_eq_none_iff.mp h
  have inside := of_decide_eq_true possible
  omega

theorem signalEach_sent (pids : List Nat) : ∀ w : World,
    Sent now signal (fun pid _ => (signallable pids).contains pid)
      ((signallable pids).map fun pid => .toProcess pid signal) w (signalEach now signal pids w) := by
  induction pids with
  | nil => exact fun w => Sent.none
  | cons n rest ih =>
    intro w
    rw [signalEach]
    cases h : ProcessId.ofNat? n with
    | some pid =>
      obtain rfl := ProcessId.number_of_ofNat? h
      rw [signallable_of_possible, List.map_cons]
      exact ((signal_sent pid).trans (ih _)).congr fun number _ => List.contains_cons.symm
    | none =>
      rw [signallable_of_impossible h]
      exact ih w

/-- Whether the root is seen to lead its group right after it was signalled. -/
def seenToLead (root : ProcessId) (signal : Signal) (now : Int) (w : World) : Bool :=
  decide (((snapshot w).2.signal now root signal).2.groupOf? now root = some root.number)

/-- The calls that end a tree whose root takes the signal, and whom they meet. -/
theorem terminate_sent_of_taken (taken : ((snapshot w).2.signal now root (Signal.ofMode mode)).1 = none) :
    Sent now (Signal.ofMode mode)
      (fun pid group => pid == root.number ||
        (seenToLead root (Signal.ofMode mode) now w && groupMeans root.number group ||
          (signallable (descendantsIn root (snapshot w).1)).contains pid))
      (.toProcess root.number (Signal.ofMode mode) ::
        ((if seenToLead root (Signal.ofMode mode) now w then [.toGroup root.number (Signal.ofMode mode)] else []) ++
          (signallable (descendantsIn root (snapshot w).1)).map fun pid => .toProcess pid (Signal.ofMode mode)))
      (snapshot w).2 (terminate root mode now w).2 := by
  rw [terminate_of_taken taken]
  exact (signal_sent root).trans ((signalLedGroup_sent now root _ _).trans (signalEach_sent _ _))

/-- The calls that end the tree below a root, whether or not the root takes the signal. -/
def calls (root : ProcessId) (mode : Mode) (now : Int) (w : World) : List SignalCall :=
  let signal := Signal.ofMode mode
  .toProcess root.number signal ::
    if ((snapshot w).2.signal now root signal).1 = none then
      (if seenToLead root signal now w then [.toGroup root.number signal] else []) ++
        (signallable (descendantsIn root (snapshot w).1)).map fun pid => .toProcess pid signal
    else []

/-- Whether those calls are meant for a process. -/
def isMeant (root : ProcessId) (mode : Mode) (now : Int) (w : World) (pid group : Nat) : Bool :=
  let signal := Signal.ofMode mode
  pid == root.number || decide (((snapshot w).2.signal now root signal).1 = none) &&
    (seenToLead root signal now w && groupMeans root.number group ||
      (signallable (descendantsIn root (snapshot w).1)).contains pid)

theorem calls_of_refused {refusal : Errno}
    (refused : ((snapshot w).2.signal now root (Signal.ofMode mode)).1 = some refusal) :
    calls root mode now w = [.toProcess root.number (Signal.ofMode mode)] := by
  rw [calls, refused]
  rfl

theorem calls_of_taken (taken : ((snapshot w).2.signal now root (Signal.ofMode mode)).1 = none) :
    calls root mode now w = .toProcess root.number (Signal.ofMode mode) ::
      ((if seenToLead root (Signal.ofMode mode) now w then [.toGroup root.number (Signal.ofMode mode)] else []) ++
        (signallable (descendantsIn root (snapshot w).1)).map fun pid => .toProcess pid (Signal.ofMode mode)) := by
  rw [calls, if_pos taken]

/-- **The calls of a termination**, and whom they meet. -/
theorem terminate_sent (root : ProcessId) (mode : Mode) (now : Int) (w : World) :
    Sent now (Signal.ofMode mode) (isMeant root mode now w) (calls root mode now w) (snapshot w).2
      (terminate root mode now w).2 := by
  cases answer : ((snapshot w).2.signal now root (Signal.ofMode mode)).1 with
  | some refusal =>
    rw [terminate_of_refused answer, calls_of_refused answer]
    refine (signal_sent root).congr fun pid group => ?_
    rw [isMeant, answer]
    exact (Bool.or_false _).symm
  | none =>
    rw [calls_of_taken answer]
    refine (terminate_sent_of_taken answer).congr fun pid group => ?_
    rw [isMeant, answer]
    rfl

/-- Each process has met the signal, if it was meant. -/
theorem getElem?_processes_terminate {i : Nat} {p : ProcessState} (here : w.processes[i]? = some p) :
    (terminate root mode now w).2.processes[i]? =
      some (p.meet now (Signal.ofMode mode) (isMeant root mode now w)) := by
  rw [← processes_snapshot w] at here
  exact (terminate_sent root mode now w).getElem?_processes here

/-- Outside the root, its group and the processes below it the calls are meant for nobody, unless group 1 is called. -/
theorem isMeant_eq_false {pid group : Nat} (other : pid ≠ root.number) (outside : group ≠ root.number)
    (not_below : pid ∉ signallable (descendantsIn root (snapshot w).1))
    (confined : ¬(root.number = 1 ∧ ((snapshot w).2.signal now root (Signal.ofMode mode)).1 = none ∧
      seenToLead root (Signal.ofMode mode) now w = true)) : isMeant root mode now w pid group = false := by
  rw [isMeant, beq_false_of_ne other, List.contains_eq_mem, decide_eq_false not_below, Bool.or_false, Bool.false_or]
  refine Bool.eq_false_iff.mpr fun called => ?_
  simp only [Bool.and_eq_true, decide_eq_true_eq] at called
  obtain ⟨taken, led, means⟩ := called
  have particular : root.number ≠ 1 := fun first => confined ⟨first, taken, led⟩
  rw [groupMeans_of_ne_one particular] at means
  exact outside (beq_iff_eq.mp means)

/-- When group 1 is called the call is meant for everyone. -/
theorem isMeant_of_first (first : root.number = 1)
    (taken : ((snapshot w).2.signal now root (Signal.ofMode mode)).1 = none)
    (led : seenToLead root (Signal.ofMode mode) now w = true) (pid group : Nat) :
    isMeant root mode now w pid group = true := by
  simp only [isMeant, first, taken, led, groupMeans_one, decide_true, Bool.true_or, Bool.and_self, Bool.or_true]

/-- **A tree is ended by these signals and no others.** After the snapshot the root is signalled; only if it takes
the signal, then its group, just if the root is seen to lead it at that point, and each process below the root
in the table that `ps` prints, breadth first. The live processes that those calls are meant for receive the signal,
and nobody else: nobody outside the root, its group and the processes below it, unless the group is group 1. The
call for that one is for everyone, and so everyone who is alive receives the signal. -/
theorem terminate_signals_tree (root : ProcessId) (mode : Mode) (now : Int) (w : World) :
    let signal := Signal.ofMode mode
    let shown := (snapshot w).1
    let before := (snapshot w).2
    let struck := before.signal now root signal
    let leads := decide (struck.2.groupOf? now root = some root.number)
    let after := (terminate root mode now w).2
    ((∃ output, shown = .ok output ∧ before.events = w.events ++ [.ran "ps" ["-A", "-o", "pid=,ppid="]]) ∨
      (∃ e, shown = .error e ∧ before.events = w.events)) ∧
    ∃ tree : List Nat,
      (∀ text, ToolRun.Prints shown text → ∃ table,
        Listing.PrintsTable table text ∧ table.BreadthFirst root.number tree) ∧
      ((∀ text, ¬ ToolRun.Prints shown text) → tree = []) ∧
      let below := tree.filter fun pid => decide (1 ≤ pid ∧ pid ≤ 2147483647)
      let calls := SignalCall.toProcess root.number signal ::
        if struck.1 = none then
          (if leads then [SignalCall.toGroup root.number signal] else []) ++
            below.map fun pid => SignalCall.toProcess pid signal
        else []
      (∃ made, after.events = before.events ++ made ∧ made.map Event.signalCall? = calls.map some) ∧
      (after.processes = w.processes.map fun p =>
        if p.aliveAt now && (p.pid == root.number ||
            decide (struck.1 = none) && (leads && groupMeans root.number p.group || below.contains p.pid)) then
          p.receive now signal
        else p) ∧
      let everyone := root.number = 1 ∧ struck.1 = none ∧ leads = true
      (¬ everyone → ∀ (i : Nat) (p : ProcessState), w.processes[i]? = some p → p.pid ≠ root.number →
        p.group ≠ root.number → p.pid ∉ below → after.processes[i]? = some p) ∧
      (everyone → ∀ (i : Nat) (p : ProcessState), w.processes[i]? = some p → p.aliveAt now = true →
        after.processes[i]? = some (p.receive now signal)) := by
  intro signal shown before struck leads after
  have sent := terminate_sent root mode now w
  refine ⟨(launch_events "ps" ["-A", "-o", "pid=,ppid="] w).2, descendantsIn root shown,
    fun text => descendantsIn_breadthFirst, descendantsIn_of_not_prints, sent.events_eq,
    sent.processes_eq.trans (congrArg (List.map _) (processes_snapshot w)), ?_, ?_⟩
  · intro confined i p here other outside not_below
    rw [getElem?_processes_terminate here, ProcessState.meet_of_not_meant]
    exact isMeant_eq_false other outside not_below confined
  · rintro ⟨first, taken, led⟩ i p here alive
    rw [getElem?_processes_terminate here, ProcessState.meet_of_meant alive]
    exact isMeant_of_first first taken led p.pid p.group

/-- A tree with a child and a grandchild in groups of their own, a member of the root's group that is not below the root,
and a process that is neither: all but the last receive the signal. -/
theorem everyone_in_tree_or_group_signalled :
    let leader : ProcessState := ⟨100, 100, none, 50, [], [], none⟩
    let child : ProcessState := ⟨101, 101, none, 0, [], [], none⟩
    let grandchild : ProcessState := ⟨102, 102, none, 0, [], [], none⟩
    let member : ProcessState := ⟨200, 100, none, 0, [], [], none⟩
    let stranger : ProcessState := ⟨300, 300, none, 0, [], [], none⟩
    let text := "  PID  PPID\n  102   101\n  101   100\n  200     1\n  300     1\n".toList
    let w : World := ⟨[("ps", [.ok ⟨.code 0, Utf8.encode text, []⟩])], [leader, child, grandchild, member, stranger],
      [], [], 1, [], []⟩
    let after := (terminate ⟨100, by decide, by decide⟩ .graceful 0 w).2
    Listing.PrintsTable [⟨102, 101⟩, ⟨101, 100⟩, ⟨200, 1⟩, ⟨300, 1⟩] text ∧
      after.processes[1]? = some { child with deadFrom := some 0 } ∧
      after.processes[2]? = some { grandchild with deadFrom := some 0 } ∧
      after.processes[3]? = some { member with deadFrom := some 0 } ∧
      after.processes[4]? = some stranger := by
  intro leader child grandchild member stranger text w after
  have printed : Listing.PrintsTable [⟨102, 101⟩, ⟨101, 100⟩, ⟨200, 1⟩, ⟨300, 1⟩] text :=
    Listing.printsTable_iff.mpr (by decide +kernel)
  obtain ⟨-, tree, shown, -, -, processes, confined, -⟩ :=
    terminate_signals_tree ⟨100, by decide, by decide⟩ .graceful 0 w
  obtain ⟨table, prints, breadth_first⟩ := shown text ⟨_, rfl, rfl, rfl⟩
  obtain rfl : table = _ := (Listing.printsTable_iff.mp prints).symm.trans (Listing.printsTable_iff.mp printed)
  have members (pid : Nat) : pid ∈ tree ↔ pid ∈ [101, 102] :=
    (breadth_first.mem_iff pid).trans ((ProcessTable.descendants_breadthFirst _ _).mem_iff pid).symm
  have not_below : stranger.pid ∉ tree.filter fun pid => decide (1 ≤ pid ∧ pid ≤ 2147483647) := fun mem =>
    absurd ((members 300).mp (List.mem_filter.mp mem).1) (by decide)
  have below_eq (pid : Nat) : (tree.filter fun pid => decide (1 ≤ pid ∧ pid ≤ 2147483647)).contains pid =
      [101, 102].contains pid := by
    simp only [List.contains_eq_mem, List.mem_filter, members, decide_eq_decide]
    simp only [List.mem_cons, List.not_mem_nil, or_false, and_iff_left_iff_imp, decide_eq_true_eq]
    omega
  simp only [below_eq] at processes
  have struck : after.processes = _ := processes
  refine ⟨printed, ?_, ?_, ?_, confined (fun everyone => absurd everyone.1 (by decide)) 4 stranger rfl (by decide)
    (by decide) not_below⟩
  · rw [struck]
    rfl
  · rw [struck]
    rfl
  · rw [struck]
    rfl

/-- **Nobody is outside group 1.** In the table that `ps` prints process 200 is not below process 1, and it is in a group of
its own. Yet process 1 takes the signal and leads group 1, and process 200 receives the signal for that group. -/
theorem stranger_ended_with_group_one :
    let first : ProcessState := ⟨1, 1, none, 10, [], [], none⟩
    let stranger : ProcessState := ⟨200, 200, none, 0, [], [], none⟩
    let text := "1 0\n200 0\n".toList
    let w : World := ⟨[("ps", [.ok ⟨.code 0, Utf8.encode text, []⟩])], [first, stranger], [], [], 1, [], []⟩
    let root : ProcessId := ⟨1, by decide, by decide⟩
    ToolRun.Prints (snapshot w).1 text ∧ Listing.PrintsTable [⟨1, 0⟩, ⟨200, 0⟩] text ∧
      ¬ Relation.TransGen (ProcessTable.IsChild [⟨1, 0⟩, ⟨200, 0⟩]) 1 200 ∧
      (terminate root .graceful 0 w).2.processes[1]? = some { stranger with deadFrom := some 0 } := by
  intro first stranger text w root
  refine ⟨⟨_, rfl, rfl, rfl⟩, Listing.printsTable_iff.mpr (by decide +kernel), fun below => ?_, by decide +kernel⟩
  have mem := ((ProcessTable.descendants_breadthFirst _ 1).mem_iff 200).mpr ⟨by decide, below⟩
  exact List.not_mem_nil mem

/-! ## The group -/

/-- The question is answered for the first live process of the root's number that outlasts the signal. -/
theorem seenToLead_iff : seenToLead root signal now w = true ↔
    (w.processes.find? fun p => p.aliveAt now && p.pid == root.number && p.outlasts signal).map
      ProcessState.group = some root.number := by
  rw [seenToLead, decide_eq_true_iff, groupOf?_signal, processes_snapshot]

/-- **The group is signalled if and only if the root outlasts its own signal.** Let the root take the signal, whether
or not it led its group before. The group is signalled just if the first live process of that number that is
still alive right afterwards leads it; if so every live member receives the signal, else members outside the
snapshot are not reached. A root that is alone in having its number must outlast the signal: it ignores it, is
ending already, or takes time to end. -/
theorem group_signalled_iff_root_outlasts (root : ProcessId) (mode : Mode) (now : Int) (w : World)
    (taken : (terminate root mode now w).1 = .ok ()) :
    let signal := Signal.ofMode mode
    let after := (terminate root mode now w).2
    let survivor := w.processes.find? fun p => p.aliveAt now && p.pid == root.number && p.outlasts signal
    let led := survivor.map ProcessState.group = some root.number
    (∃ made, after.events = (snapshot w).2.events ++ made ∧
      (some (SignalCall.toGroup root.number signal) ∈ made.map Event.signalCall? ↔ led)) ∧
    (led → ∀ (i : Nat) (p : ProcessState), w.processes[i]? = some p → p.aliveAt now = true →
      p.group = root.number → after.processes[i]? = some (p.receive now signal)) ∧
    (¬ led → ∀ (i : Nat) (p : ProcessState), w.processes[i]? = some p → p.pid ≠ root.number →
      p.pid ∉ descendantsIn root (snapshot w).1 → after.processes[i]? = some p) ∧
    (∀ p, w.targets now (·.pid == root.number) = [p] → p.group = root.number →
      (led ↔ p.outlasts signal = true)) := by
  intro signal after survivor led
  have answer : ((snapshot w).2.signal now root signal).1 = none := by
    cases answer : ((snapshot w).2.signal now root signal).1 with
    | none => rfl
    | some refusal =>
      rw [terminate_of_refused answer] at taken
      cases taken
  refine ⟨?_, fun leads i p here alive member => ?_, fun lost i p here other outside => ?_, fun p only leads => ?_⟩
  · obtain ⟨made, events, told⟩ := (terminate_sent root mode now w).events_eq
    refine ⟨made, events, ?_⟩
    rw [told, calls_of_taken answer, show led ↔ seenToLead root signal now w = true from seenToLead_iff.symm]
    cases seenToLead root signal now w <;> simp [signal]
  · rw [getElem?_processes_terminate here, ProcessState.meet_of_meant alive]
    rw [isMeant, answer, seenToLead_iff.mpr leads, member]
    simp
  · rw [getElem?_processes_terminate here, ProcessState.meet_of_not_meant]
    have not_below : p.pid ∉ signallable (descendantsIn root (snapshot w).1) :=
      fun mem => outside (List.mem_filter.mp mem).1
    rw [isMeant, beq_false_of_ne other, Bool.eq_false_iff.mpr fun seen => lost (seenToLead_iff.mp seen),
      Bool.false_and, List.contains_eq_mem, decide_eq_false not_below, Bool.or_false, Bool.and_false, Bool.or_false]
  · have alone : survivor = [p].find? (·.outlasts signal) := by
      rw [← only, World.targets, List.find?_filter]
      simp only [survivor, Bool.decide_and, Bool.decide_eq_true, Bool.and_assoc]
    unfold led
    rw [alone, List.find?_singleton]
    split
    next lasts => simp only [Option.map_some, leads, lasts]
    next gone => simp only [Option.map_none, gone, reduceCtorEq]

/-- A leader that takes 50 milliseconds to end, and a member of its group that no snapshot shows: the member
receives the signal. -/
theorem group_reached_through_slow_leader :
    let leader : ProcessState := ⟨100, 100, none, 50, [], [], none⟩
    let member : ProcessState := ⟨200, 100, none, 50, [], [], none⟩
    let w : World := ⟨[], [leader, member], [], [], 1, [], []⟩
    let root : ProcessId := ⟨100, by decide, by decide⟩
    (terminate root .graceful 0 w).1 = .ok () ∧
      (terminate root .graceful 0 w).2.processes[1]? = some { member with deadFrom := some 50 } := by
  intro leader member w root
  have ⟨_, reached, _⟩ := group_signalled_iff_root_outlasts root .graceful 0 w rfl
  exact ⟨rfl, reached rfl 1 member rfl rfl rfl⟩

/-- **A group is lost to a leader that ends at once.** The leader is live and leads its group, and takes the signal;
the group is not signalled, and its live member goes on. -/
theorem group_lost_to_instant_leader :
    let leader : ProcessState := ⟨100, 100, none, 0, [], [], none⟩
    let member : ProcessState := ⟨200, 100, none, 0, [], [], none⟩
    let w : World := ⟨[], [leader, member], [], [], 1, [], []⟩
    let root : ProcessId := ⟨100, by decide, by decide⟩
    w.groupOf? 0 root = some root.number ∧ (terminate root .graceful 0 w).1 = .ok () ∧
      (terminate root .graceful 0 w).2.events = [.signalled 100 .terminate none] ∧
      (terminate root .graceful 0 w).2.processes[1]? = some member := by
  intro leader member w root
  exact ⟨rfl, rfl, rfl, rfl⟩

end Unix

end PortRelease
