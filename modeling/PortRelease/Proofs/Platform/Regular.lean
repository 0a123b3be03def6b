import PortRelease.Platform.Controller
import PortRelease.Proofs.Platform.Termination
import PortRelease.Proofs.World.Conduct
/-!
# What controllers leave behind

A controller is regular if its search for a listener only asks questions, its ending of a tree only makes requests,
and the search does not get in the way of the ending: a tree is ended after a search just as it is ended without
one. The controllers of both platforms are (`Unix.regular`, `Windows.regular`), because no tool serves for both.
-/

namespace PortRelease

open World

/-- A controller keeps searching and ending apart. -/
structure Controller.Regular (controller : Controller) : Prop where
  lookup_observed : ∀ port w, Observed Event.isQuestion w (controller.lookup port w).2
  terminate_did : ∀ pid mode now w, Did Event.isRequest w (controller.terminate pid mode now w).2
  terminate_after_lookup : ∀ port pid mode now w,
    let searched := (controller.lookup port w).2
    (controller.terminate pid mode now searched).1 = (controller.terminate pid mode now w).1 ∧
      InStep searched w (controller.terminate pid mode now searched).2 (controller.terminate pid mode now w).2

variable {w after a b a' b' : World}

/-! ## Searches -/

/-- A tool that can answer a question: how it is run, and what its output or a failure to start it means. -/
structure Query where
  tool : String
  arguments : List String
  read : ToolOutput → Except Failure Lookup
  unstarted : Errno → Failure

/-- Asks a tool. -/
def Query.ask (query : Query) (w : World) : Except Failure Lookup × World :=
  match w.launch query.tool query.arguments with
  | (.ok output, w) => (query.read output, w)
  | (.error e, w) => (.error (query.unstarted e), w)

/-- Asks a tool, or another one if the first does not exist. -/
def search (first second : Query) (w : World) : Except Failure Lookup × World :=
  match w.launch first.tool first.arguments with
  | (.ok output, w) => (first.read output, w)
  | (.error e, w) => if e = .noEntry then second.ask w else (.error (first.unstarted e), w)

theorem Query.ask_world (query : Query) (w : World) : (query.ask w).2 = (w.launch query.tool query.arguments).2 := by
  unfold ask
  split
  next ran => exact (congrArg Prod.snd ran).symm
  next ran => exact (congrArg Prod.snd ran).symm

theorem search_world (first second : Query) (w : World) :
    (search first second w).2 = (first.ask w).2 ∨ (search first second w).2 = (second.ask (first.ask w).2).2 := by
  rw [first.ask_world]
  unfold search
  split
  next ran => exact .inl (congrArg Prod.snd ran).symm
  next ran =>
    rw [ran]
    split
    next => exact .inr rfl
    next => exact .inl rfl

/-- A search only asks the questions of its tools. -/
theorem search_observed {first second : Query} {kind : Event → Bool}
    (of_first : kind (.ran first.tool first.arguments) = true)
    (of_second : kind (.ran second.tool second.arguments) = true) (w : World) :
    Observed kind w (search first second w).2 := by
  rcases search_world first second w with one | both
  · rw [one, first.ask_world]
    exact .launch of_first
  · rw [both, second.ask_world, first.ask_world]
    exact (Observed.launch of_first).trans (.launch of_second)

/-- The scripts of other tools are as they were. -/
theorem lookup_tools_search {first second : Query} {tool : String} (not_first : tool ≠ first.tool)
    (not_second : tool ≠ second.tool) (w : World) :
    (search first second w).2.tools.lookup tool = w.tools.lookup tool := by
  rcases search_world first second w with one | both
  · rw [one, first.ask_world]
    exact lookup_tools_launch not_first _ w
  · rw [both, second.ask_world, first.ask_world]
    exact (lookup_tools_launch not_second _ _).trans (lookup_tools_launch not_first _ w)

/-! ## Unix -/

namespace Unix

def ssQuery (port : Port) : Query :=
  ⟨"ss", ["-Htlnp", "sport", "=", s!":{port}"], socketAnswer port, .cannotRun "ss"⟩

def lsofQuery (port : Port) : Query :=
  ⟨"lsof", ["-nP", "-t", s!"-iTCP:{port}", "-sTCP:LISTEN"], openFileAnswer port, .cannotRun "lsof"⟩

theorem lookup_eq (port : Port) (w : World) : lookup port w = search (ssQuery port) (lsofQuery port) w := rfl

/-- `ss` or `lsof` was asked. -/
def isQuestion : Event → Bool
  | .ran tool _ => ["ss", "lsof"].contains tool
  | _ => false

/-- The table of processes was asked for, or a signal was sent. -/
def isRequest : Event → Bool
  | .ran tool _ => tool == "ps"
  | event => event.isSignal

theorem isQuestion_of {event : Event} (asked : isQuestion event = true) : event.isQuestion = true := by
  cases event with
  | ran tool arguments =>
    have mem : tool ∈ ["ss", "lsof"] := List.contains_iff_mem.mp asked
    exact List.contains_iff_mem.mpr (List.mem_append_left ["powershell", "netstat"] mem)
  | _ => cases asked

theorem isRequest_of_isSignal {event : Event} (signal : event.isSignal = true) : isRequest event = true := by
  cases event with
  | ran => cases signal
  | _ => exact signal

theorem isRequest_of {event : Event} (asked : isRequest event = true) : event.isRequest = true := by
  cases event with
  | ran tool arguments =>
    obtain rfl : tool = "ps" := eq_of_beq asked
    rfl
  | signalled | signalledGroup => rfl
  | _ => cases asked

theorem lookup_observed (port : Port) (w : World) : Observed isQuestion w (lookup port w).2 := by
  rw [lookup_eq]
  exact search_observed rfl rfl w

theorem lookup_tools_lookup (port : Port) (w : World) :
    (lookup port w).2.tools.lookup "ps" = w.tools.lookup "ps" := by
  rw [lookup_eq]
  exact lookup_tools_search (show "ps" ≠ "ss" by decide) (show "ps" ≠ "lsof" by decide) w

theorem did_signalLedGroup (now : Int) (leader : ProcessId) (signal : Signal) (w : World) :
    Did Event.isSignal w (signalLedGroup now leader signal w) := by
  unfold signalLedGroup
  split
  · exact did_signalGroup now leader signal
  · exact .nothing w

theorem did_signalEach (now : Int) (signal : Signal) (pids : List Nat) : ∀ w : World,
    Did Event.isSignal w (signalEach now signal pids w) := by
  induction pids with
  | nil => exact .nothing
  | cons n rest ih =>
    intro w
    rw [signalEach]
    cases ProcessId.ofNat? n with
    | some pid => exact (did_signal now pid signal).trans (ih _)
    | none => exact ih w

theorem did_terminate (root : ProcessId) (mode : Mode) (now : Int) (w : World) :
    Did isRequest w (terminate root mode now w).2 := by
  have sent {w after : World} (did : Did Event.isSignal w after) : Did isRequest w after :=
    did.mono fun _ => isRequest_of_isSignal
  have shown : Did isRequest w (snapshot w).2 := (Observed.launch rfl).toDid
  have struck := shown.trans (sent (did_signal now root (Signal.ofMode mode)))
  cases answer : ((snapshot w).2.signal now root (Signal.ofMode mode)).1 with
  | some refusal =>
    rw [terminate_of_refused answer]
    exact struck
  | none =>
    rw [terminate_of_taken answer]
    exact struck.trans (sent ((did_signalLedGroup ..).trans (did_signalEach ..)))

theorem inStep_signalLedGroup (so_far : InStep a b a' b') (now : Int) (leader : ProcessId) (signal : Signal) :
    InStep a b (signalLedGroup now leader signal a') (signalLedGroup now leader signal b') := by
  unfold signalLedGroup
  rw [so_far.groupOf? now leader]
  split
  · exact so_far.signalGroup now leader signal
  · exact so_far

theorem inStep_signalEach (now : Int) (signal : Signal) (pids : List Nat) : ∀ {a' b' : World}, InStep a b a' b' →
    InStep a b (signalEach now signal pids a') (signalEach now signal pids b') := by
  induction pids with
  | nil => exact id
  | cons n rest ih =>
    intro a' b' so_far
    rw [signalEach, signalEach]
    cases ProcessId.ofNat? n with
    | some pid => exact ih (so_far.signal now pid signal).2
    | none => exact ih so_far

theorem inStep_terminate (so_far : InStep a b a' b') (script : a'.tools.lookup "ps" = b'.tools.lookup "ps")
    (root : ProcessId) (mode : Mode) (now : Int) :
    (terminate root mode now a').1 = (terminate root mode now b').1 ∧
      InStep a b (terminate root mode now a').2 (terminate root mode now b').2 := by
  obtain ⟨same_table, shown⟩ := so_far.launch script ["-A", "-o", "pid=,ppid="]
  obtain ⟨same_answer, struck⟩ := shown.signal now root (Signal.ofMode mode)
  cases answer : ((snapshot b').2.signal now root (Signal.ofMode mode)).1 with
  | some refusal =>
    rw [terminate_of_refused answer, terminate_of_refused (same_answer.trans answer)]
    exact ⟨rfl, struck⟩
  | none =>
    rw [terminate_of_taken answer, terminate_of_taken (same_answer.trans answer)]
    rw [show (snapshot a').1 = (snapshot b').1 from same_table]
    exact ⟨rfl, inStep_signalEach now _ _ (inStep_signalLedGroup struck now root _)⟩

theorem regular : Controller.unix.Regular where
  lookup_observed port w := (lookup_observed port w).mono fun _ => isQuestion_of
  terminate_did root mode now w := (did_terminate root mode now w).mono fun _ => isRequest_of
  terminate_after_lookup port pid mode now w :=
    inStep_terminate (.start (lookup_observed port w)) (lookup_tools_lookup port w) pid mode now

end Unix

/-! ## Windows -/

namespace Windows

def powershellQuery (port : Port) : Query :=
  ⟨"powershell", ["-NoProfile", "-NonInteractive", "-Command", listenQuery port], queryAnswer port,
    .cannotRun "powershell"⟩

def netstatQuery (port : Port) : Query :=
  ⟨"netstat", ["-ano"], connectionAnswer port, fun e => .commandFailed s!"netstat -ano: {e.message}"⟩

theorem lookup_eq (port : Port) (w : World) :
    lookup port w = search (powershellQuery port) (netstatQuery port) w := rfl

theorem lookup_observed (port : Port) (w : World) : Observed Event.isQuestion w (lookup port w).2 := by
  rw [lookup_eq]
  exact search_observed rfl rfl w

theorem lookup_tools_lookup (port : Port) (w : World) :
    (lookup port w).2.tools.lookup "taskkill" = w.tools.lookup "taskkill" := by
  rw [lookup_eq]
  exact lookup_tools_search (show "taskkill" ≠ "powershell" by decide) (show "taskkill" ≠ "netstat" by decide) w

/-- A tree is ended by one run of `taskkill`, and what comes of it depends on that run alone. -/
theorem terminate_eq (root : ProcessId) (mode : Mode) (now : Int) (w : World) :
    terminate root mode now w =
      let killed := w.launch "taskkill" (taskkillArguments root mode)
      (match killed.1 with
        | .ok output => taskkillAnswer root output
        | .error e => .error (.cannotRun "taskkill" e), killed.2) := by
  unfold terminate
  split
  next ran => rw [ran]
  next ran => rw [ran]

theorem inStep_terminate (so_far : InStep a b a' b')
    (script : a'.tools.lookup "taskkill" = b'.tools.lookup "taskkill") (root : ProcessId) (mode : Mode) (now : Int) :
    (terminate root mode now a').1 = (terminate root mode now b').1 ∧
      InStep a b (terminate root mode now a').2 (terminate root mode now b').2 := by
  obtain ⟨same_run, killed⟩ := so_far.launch script (taskkillArguments root mode)
  rw [terminate_eq, terminate_eq]
  refine ⟨?_, killed⟩
  simp only [same_run]

theorem regular : Controller.windows.Regular where
  lookup_observed := lookup_observed
  terminate_did root mode now w := by
    show Did _ w (terminate root mode now w).2
    rw [terminate_eq]
    exact (Observed.launch rfl).toDid
  terminate_after_lookup port pid mode now w :=
    inStep_terminate (.start (lookup_observed port w)) (lookup_tools_lookup port w) pid mode now

end Windows

/-! ## Asked by the rest of the library -/

namespace Controller

variable {controller : Controller} {port : Port}

/-- What a Unix machine and a Windows machine offer is regular. -/
theorem regular_of_platform (platform : controller = .unix ∨ controller = .windows) : controller.Regular := by
  rcases platform with rfl | rfl
  · exact Unix.regular
  · exact Windows.regular

theorem resolve_of_answer {lookup : Lookup} (answer : (controller.resolve port w).1 = .ok lookup) :
    controller.resolve port w = controller.lookup port w := by
  unfold resolve at answer ⊢
  split
  next zero =>
    rw [if_pos zero] at answer
    cases answer
  next => rfl

/-- Refusing port 0 asks nothing. -/
theorem Regular.resolve_observed (regular : controller.Regular) (port : Port) (w : World) :
    Observed Event.isQuestion w (controller.resolve port w).2 := by
  unfold resolve
  split
  · exact .nothing w
  · exact regular.lookup_observed port w

end Controller

end PortRelease
