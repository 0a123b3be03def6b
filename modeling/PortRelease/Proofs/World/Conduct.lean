import PortRelease.Proofs.World.Signals
import PortRelease.World.Network
/-!
# What actions leave behind

Whatever the library does to a world leaves events of a few kinds and never touches the network or the names of
hosts. `Did` says this of an action; an action that also leaves the processes alone only looks at the world
(`Observed`). Both join like the actions themselves.

Nothing that the world answers depends on its events, so two runs that begin in worlds alike in everything else
do the same, and leave the same events behind (`InStep`). Running a tool is the exception: what comes of it
depends on the script of that tool, and on no other tool's (`InStep.launch`).
-/

namespace PortRelease

namespace Event

/-- A tool was asked who listens. -/
def isQuestion : Event → Bool
  | .ran tool _ => ["ss", "lsof", "powershell", "netstat"].contains tool
  | _ => false

/-- A process or a group was signalled. -/
def isSignal : Event → Bool
  | .signalled .. => true
  | .signalledGroup .. => true
  | _ => false

/-- Processes were asked for, or asked to end. -/
def isRequest : Event → Bool
  | .ran tool _ => ["ps", "taskkill"].contains tool
  | .signalled .. => true
  | .signalledGroup .. => true
  | _ => false

/-- A connection was tried. -/
def isAttempt : Event → Bool
  | .connected .. => true
  | _ => false

end Event

namespace World

/-! ## One run -/

/-- An action that leaves events of one kind behind, and network and hosts as they were. -/
structure Did (kind : Event → Bool) (w after : World) : Prop where
  network_eq : after.network = w.network
  hosts_eq : after.hosts = w.hosts
  events_eq : ∃ made, after.events = w.events ++ made ∧ ∀ event ∈ made, kind event = true

/-- An action that does not change the processes either. -/
structure Observed (kind : Event → Bool) (w after : World) : Prop extends Did kind w after where
  processes_eq : after.processes = w.processes

variable {kind wider : Event → Bool} {w after last : World}

namespace Did

theorem nothing (w : World) : Did kind w w where
  network_eq := rfl
  hosts_eq := rfl
  events_eq := ⟨[], (List.append_nil _).symm, fun _ mem => absurd mem List.not_mem_nil⟩

theorem trans (first : Did kind w after) (second : Did kind after last) : Did kind w last where
  network_eq := second.network_eq.trans first.network_eq
  hosts_eq := second.hosts_eq.trans first.hosts_eq
  events_eq := by
    obtain ⟨made, events, kinds⟩ := first.events_eq
    obtain ⟨made', events', kinds'⟩ := second.events_eq
    refine ⟨made ++ made', ?_, fun event mem => ?_⟩
    · rw [events', events, List.append_assoc]
    · exact (List.mem_append.mp mem).elim (kinds event) (kinds' event)

theorem mono (included : ∀ event, kind event = true → wider event = true) (did : Did kind w after) :
    Did wider w after where
  network_eq := did.network_eq
  hosts_eq := did.hosts_eq
  events_eq := by
    obtain ⟨made, events, kinds⟩ := did.events_eq
    exact ⟨made, events, fun event mem => included event (kinds event mem)⟩

/-- An action that leaves one event. -/
theorem once {event : Event} (network : after.network = w.network) (hosts : after.hosts = w.hosts)
    (events : after.events = w.events ++ [event]) (is_kind : kind event = true) : Did kind w after where
  network_eq := network
  hosts_eq := hosts
  events_eq := by
    refine ⟨[event], events, fun other mem => ?_⟩
    obtain rfl := List.mem_singleton.mp mem
    exact is_kind

end Did

namespace Observed

theorem nothing (w : World) : Observed kind w w := ⟨.nothing w, rfl⟩

theorem trans (first : Observed kind w after) (second : Observed kind after last) : Observed kind w last :=
  ⟨first.toDid.trans second.toDid, second.processes_eq.trans first.processes_eq⟩

theorem mono (included : ∀ event, kind event = true → wider event = true) (looked : Observed kind w after) :
    Observed wider w after :=
  ⟨looked.toDid.mono included, looked.processes_eq⟩

theorem record {event : Event} (is_kind : kind event = true) : Observed kind w (w.record event) :=
  ⟨.once rfl rfl (events_record ..) is_kind, rfl⟩

/-- Whether a tool can be started or not, running it only looks at the world. -/
theorem launch {tool : String} {arguments : List String} (is_kind : kind (.ran tool arguments) = true) :
    Observed kind w (w.launch tool arguments).2 := by
  unfold World.launch
  split
  next => exact .nothing w
  next => exact ⟨⟨rfl, rfl, (Did.nothing w).events_eq⟩, rfl⟩
  next => exact ⟨.once rfl rfl (events_record ..) is_kind, rfl⟩

end Observed

theorem did_signal (now : Int) (pid : ProcessId) (signal : Signal) :
    Did Event.isSignal w (w.signal now pid signal).2 :=
  .once rfl rfl (events_record ..) rfl

theorem did_signalGroup (now : Int) (group : ProcessId) (signal : Signal) :
    Did Event.isSignal w (w.signalGroup now group signal).2 :=
  .once rfl rfl (events_record ..) rfl

/-! ## The scripts of other tools -/

theorem lookup_spend_ne {name tool : String} (other : name ≠ tool) (tools : List (String × List ToolRun)) :
    (spend tool tools).lookup name = tools.lookup name := by
  fun_induction spend tool tools with
  | case1 => rfl
  | case2 rest _ next later =>
    rw [List.lookup_cons, List.lookup_cons, beq_false_of_ne other]
  | case3 rest runs _ => rfl
  | case4 name' runs rest differs ih =>
    rw [List.lookup_cons, List.lookup_cons, ih]

theorem lookup_tools_launch {name tool : String} (other : name ≠ tool) (arguments : List String) (w : World) :
    (w.launch tool arguments).2.tools.lookup name = w.tools.lookup name := by
  unfold launch
  split
  next => rfl
  next => exact lookup_spend_ne other _
  next => exact lookup_spend_ne other _

/-! ## Two runs -/

/-- Two runs that began in `a` and in `b` have come to `a'` and `b'`, and have done the same. -/
structure InStep (a b a' b' : World) : Prop where
  processes_eq : a'.processes = b'.processes
  network_eq : a'.network = b'.network
  hosts_eq : a'.hosts = b'.hosts
  events_eq : ∃ made, a'.events = a.events ++ made ∧ b'.events = b.events ++ made

namespace InStep

variable {a b a' b' : World}

/-- What a world was only looked at for can be looked for again. -/
theorem start (looked : Observed kind w after) : InStep after w after w where
  processes_eq := looked.processes_eq
  network_eq := looked.network_eq
  hosts_eq := looked.hosts_eq
  events_eq := ⟨[], (List.append_nil _).symm, (List.append_nil _).symm⟩

theorem record (so_far : InStep a b a' b') {event event' : Event} (same : event = event') :
    InStep a b (a'.record event) (b'.record event') where
  processes_eq := so_far.processes_eq
  network_eq := so_far.network_eq
  hosts_eq := so_far.hosts_eq
  events_eq := by
    obtain ⟨made, of_a, of_b⟩ := so_far.events_eq
    subst same
    refine ⟨made ++ [event], ?_, ?_⟩
    · rw [events_record, of_a, List.append_assoc]
    · rw [events_record, of_b, List.append_assoc]

theorem launch (so_far : InStep a b a' b') {tool : String} (script : a'.tools.lookup tool = b'.tools.lookup tool)
    (arguments : List String) :
    (a'.launch tool arguments).1 = (b'.launch tool arguments).1 ∧
      InStep a b (a'.launch tool arguments).2 (b'.launch tool arguments).2 := by
  unfold World.launch
  rw [script]
  split
  next => exact ⟨rfl, so_far⟩
  next => exact ⟨rfl, so_far.processes_eq, so_far.network_eq, so_far.hosts_eq, so_far.events_eq⟩
  next =>
    have recorded := so_far.record (Eq.refl (Event.ran tool arguments))
    exact ⟨rfl, recorded.processes_eq, recorded.network_eq, recorded.hosts_eq, recorded.events_eq⟩

/-- The processes that a signal meets are the same, and so are they afterwards. -/
theorem deliver (so_far : InStep a b a' b') (now : Int) (sig : Signal) (chosen : ProcessState → Bool) :
    a'.targets now chosen = b'.targets now chosen ∧
      InStep a b (a'.deliver now sig chosen) (b'.deliver now sig chosen) := by
  refine ⟨congrArg (List.filter _) so_far.processes_eq, ?_, so_far.network_eq, so_far.hosts_eq, so_far.events_eq⟩
  exact congrArg (List.map _) so_far.processes_eq

theorem signal (so_far : InStep a b a' b') (now : Int) (pid : ProcessId) (sig : Signal) :
    (a'.signal now pid sig).1 = (b'.signal now pid sig).1 ∧
      InStep a b (a'.signal now pid sig).2 (b'.signal now pid sig).2 := by
  obtain ⟨same, delivered⟩ := so_far.deliver now sig fun p => p.pid == pid.number
  have same_answer := congrArg refusalOf same
  exact ⟨same_answer, delivered.record (congrArg (Event.signalled pid.number sig) same_answer)⟩

theorem signalGroup (so_far : InStep a b a' b') (now : Int) (group : ProcessId) (sig : Signal) :
    InStep a b (a'.signalGroup now group sig).2 (b'.signalGroup now group sig).2 := by
  obtain ⟨same, delivered⟩ := so_far.deliver now sig fun p => World.groupMeans group.number p.group
  exact delivered.record (congrArg (Event.signalledGroup group.number sig) (congrArg refusalOf same))

theorem groupOf? (so_far : InStep a b a' b') (now : Int) (pid : ProcessId) : a'.groupOf? now pid = b'.groupOf? now pid := by
  unfold World.groupOf? World.targets
  rw [so_far.processes_eq]

end InStep

end World

end PortRelease
