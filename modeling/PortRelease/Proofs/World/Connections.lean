import PortRelease.Proofs.World.Conduct
/-!
# What connections find

A connection tries the endpoints of a host in order, up to the first that is open or does not answer (`tried`). It
is accepted just if one of those is open (`connectFirst_value`), and takes time only if one does not answer. The
ports of a host are tried one after another until a connection is accepted, so they are found closed just if no
connection was (`portsClosed_attempted`).

Connections only look at the world: they leave events behind and nothing else (`Attempted`). What an endpoint
answers depends on the processes and the network alone, so looking does not change it (`Observed.reach_eq`).
-/

namespace PortRelease

/-- After such an answer the next endpoint is tried. -/
def Reachability.passes : Reachability → Bool
  | .open => false
  | .hang => false
  | .refused => true
  | .failing _ => true

theorem Reachability.open_or_hang_or_passes (met : Reachability) :
    met = .open ∨ met = .hang ∨ met.passes = true := by
  cases met with
  | «open» => exact .inl rfl
  | hang => exact .inr (.inl rfl)
  | refused => exact .inr (.inr rfl)
  | failing error => exact .inr (.inr rfl)

theorem Reachability.ne_open_of_passes {met : Reachability} (passes : met.passes = true) : met ≠ .open := by
  rintro rfl
  cases passes

theorem Reachability.ne_hang_of_passes {met : Reachability} (passes : met.passes = true) : met ≠ .hang := by
  rintro rfl
  cases passes

namespace World

variable {kind : Event → Bool} {w after last : World} {now : Int} {limit : Nat} {endpoint : Endpoint}

/-! ## What an endpoint answers -/

theorem reach_eq (processes : after.processes = w.processes) (network : after.network = w.network)
    (now : Int) (endpoint : Endpoint) : after.reach now endpoint = w.reach now endpoint := by
  unfold reach
  rw [processes, network]

theorem Observed.reach_eq (looked : Observed kind w after) (now : Int) (endpoint : Endpoint) :
    after.reach now endpoint = w.reach now endpoint :=
  World.reach_eq looked.processes_eq looked.network_eq now endpoint

theorem endpoints?_eq (hosts : after.hosts = w.hosts) (host : String) (port : Port) :
    after.endpoints? host port = w.endpoints? host port := by
  unfold endpoints? known?
  rw [hosts]

/-- Where a live process listens, connections are accepted. -/
theorem reach_of_held {p : ProcessState} (here : p ∈ w.processes) (alive : p.aliveAt now = true)
    (holds : endpoint ∈ p.sockets) : w.reach now endpoint = .open := by
  refine if_pos (List.any_eq_true.mpr ⟨p, here, ?_⟩)
  rw [alive, List.contains_eq_mem, decide_eq_true holds]
  rfl

/-- Where no connection is accepted nobody listens, then or later. -/
theorem unheld_of_shut {later : Int} (shut : w.reach now endpoint ≠ .open) (h : now ≤ later) :
    ∀ p ∈ w.processes, p.aliveAt later = true → endpoint ∉ p.sockets :=
  fun _ here alive holds => shut (reach_of_held here (ProcessState.aliveAt_of_later h alive) holds)

/-- Where nobody listens, the network alone decides. -/
theorem reach_of_unheld (free : ∀ p ∈ w.processes, p.aliveAt now = true → endpoint ∉ p.sockets) :
    w.reach now endpoint = ((w.network.lookup endpoint).bind (Timeline.at? now)).getD .refused := by
  refine if_neg fun held => ?_
  obtain ⟨p, here, holds⟩ := List.any_eq_true.mp held
  obtain ⟨alive, member⟩ := Bool.and_eq_true_iff.mp holds
  exact free p here alive (List.contains_iff_mem.mp member)

/-- Where nobody listens and the network says nothing, connections are refused. -/
theorem reach_of_free (free : ∀ p ∈ w.processes, p.aliveAt now = true → endpoint ∉ p.sockets)
    (silent : w.network.lookup endpoint = none) : w.reach now endpoint = .refused := by
  rw [reach_of_unheld free, silent]
  rfl

/-! ## The endpoints that are tried -/

/-- The endpoints that a connection tries at an instant: those up to the first that is open or does not answer. -/
def tried (now : Int) (w : World) : List Endpoint → List Endpoint
  | [] => []
  | endpoint :: rest => if (w.reach now endpoint).passes then endpoint :: tried now w rest else [endpoint]

theorem tried_of_passes (passes : (w.reach now endpoint).passes = true) (rest : List Endpoint) :
    w.tried now (endpoint :: rest) = endpoint :: w.tried now rest := if_pos passes

theorem mem_tried_head (endpoint : Endpoint) (rest : List Endpoint) : endpoint ∈ w.tried now (endpoint :: rest) := by
  rw [tried]
  split <;> exact List.mem_cons_self

theorem mem_of_mem_tried {endpoints : List Endpoint} (mem : endpoint ∈ w.tried now endpoints) :
    endpoint ∈ endpoints := by
  induction endpoints with
  | nil => exact mem
  | cons first rest ih =>
    rw [tried] at mem
    split at mem
    · rcases List.mem_cons.mp mem with rfl | further
      · exact List.mem_cons_self
      · exact List.mem_cons_of_mem _ (ih further)
    · exact List.mem_singleton.mp mem ▸ List.mem_cons_self

theorem tried_eq (processes : after.processes = w.processes) (network : after.network = w.network)
    (now : Int) (endpoints : List Endpoint) : after.tried now endpoints = w.tried now endpoints := by
  induction endpoints with
  | nil => rfl
  | cons endpoint rest ih => rw [tried, tried, ih, World.reach_eq processes network]

theorem tried_record (event : Event) (endpoints : List Endpoint) :
    (w.record event).tried now endpoints = w.tried now endpoints := by
  apply tried_eq
  · rfl
  · rfl

theorem connectFirst_of_open (met : w.reach now endpoint = .open) (rest : List Endpoint) :
    connectFirst limit now (endpoint :: rest) w = ⟨true, 0, w.record (.connected endpoint now .open)⟩ := by
  rw [connectFirst]
  simp only [met]

theorem connectFirst_of_hang (met : w.reach now endpoint = .hang) (rest : List Endpoint) :
    connectFirst limit now (endpoint :: rest) w = ⟨false, limit, w.record (.connected endpoint now .hang)⟩ := by
  rw [connectFirst]
  simp only [met]

theorem connectFirst_of_passes {answer : Reachability} (met : w.reach now endpoint = answer)
    (passes : answer.passes = true) (rest : List Endpoint) :
    connectFirst limit now (endpoint :: rest) w =
      connectFirst limit now rest (w.record (.connected endpoint now answer)) := by
  rw [connectFirst]
  simp only [met]
  cases answer with
  | «open» => exact absurd passes Bool.false_ne_true
  | hang => exact absurd passes Bool.false_ne_true
  | refused => rfl
  | failing error => rfl

/-- A connection is accepted by an open endpoint among those that it tries. -/
theorem connectFirst_value (limit : Nat) (endpoints : List Endpoint) : ∀ w : World,
    (connectFirst limit now endpoints w).value = true ↔
      ∃ endpoint ∈ w.tried now endpoints, w.reach now endpoint = .open := by
  induction endpoints with
  | nil =>
    intro w
    exact ⟨fun h => absurd h Bool.false_ne_true, fun ⟨_, mem, _⟩ => absurd mem List.not_mem_nil⟩
  | cons endpoint rest ih =>
    intro w
    rcases (w.reach now endpoint).open_or_hang_or_passes with met | met | passes
    · rw [connectFirst_of_open met]
      exact ⟨fun _ => ⟨endpoint, mem_tried_head endpoint rest, met⟩, fun _ => rfl⟩
    · -- nobody answers: no later endpoint is tried, and this one is not open
      rw [connectFirst_of_hang met, tried, if_neg (by rw [met]; exact Bool.false_ne_true)]
      refine ⟨fun h => absurd h Bool.false_ne_true, fun ⟨other, mem, is_open⟩ => ?_⟩
      rw [List.mem_singleton.mp mem, met] at is_open
      cases is_open
    · rw [connectFirst_of_passes rfl passes, ih, tried_record, tried_of_passes passes]
      have shut := Reachability.ne_open_of_passes passes
      constructor
      · rintro ⟨other, mem, is_open⟩
        exact ⟨other, List.mem_cons_of_mem _ mem, is_open⟩
      · rintro ⟨other, mem, is_open⟩
        rcases List.mem_cons.mp mem with rfl | further
        · exact absurd is_open shut
        · exact ⟨other, further, is_open⟩

/-- A connection that is answered takes no time. -/
theorem connectFirst_cost (limit : Nat) (endpoints : List Endpoint) : ∀ w : World,
    (∀ endpoint ∈ w.tried now endpoints, w.reach now endpoint ≠ .hang) →
      (connectFirst limit now endpoints w).cost = 0 := by
  induction endpoints with
  | nil => exact fun _ _ => rfl
  | cons endpoint rest ih =>
    intro w answered
    rcases (w.reach now endpoint).open_or_hang_or_passes with met | met | passes
    · rw [connectFirst_of_open met]
    · exact absurd met (answered endpoint (mem_tried_head endpoint rest))
    · rw [connectFirst_of_passes rfl passes]
      rw [tried_of_passes passes] at answered
      refine ih _ fun other mem => ?_
      rw [tried_record] at mem
      exact answered other (List.mem_cons_of_mem _ mem)

/-! ## Runs of connections -/

/-- A run of connections; `accepted` tells whether one of them was accepted. -/
structure Attempted (accepted : Bool) (w after : World) : Prop where
  unchanged : after = { w with log := after.log }
  events_eq : ∃ made, after.events = w.events ++ made ∧ (∀ event ∈ made, event.isAttempt = true) ∧
    (accepted = true ↔ ∃ endpoint time, Event.connected endpoint time .open ∈ made)

namespace Attempted

variable {accepted accepted' : Bool}

theorem observed (attempted : Attempted accepted w after) : Observed Event.isAttempt w after where
  network_eq := by rw [attempted.unchanged]
  hosts_eq := by rw [attempted.unchanged]
  processes_eq := by rw [attempted.unchanged]
  events_eq := by
    obtain ⟨made, events, kinds, -⟩ := attempted.events_eq
    exact ⟨made, events, kinds⟩

theorem nothing (w : World) : Attempted false w w where
  unchanged := rfl
  events_eq := by
    refine ⟨[], (List.append_nil _).symm, fun _ mem => absurd mem List.not_mem_nil, ?_⟩
    exact ⟨fun h => absurd h Bool.false_ne_true, fun ⟨_, _, mem⟩ => absurd mem List.not_mem_nil⟩

theorem once (w : World) (endpoint : Endpoint) (now : Int) (met : Reachability) :
    Attempted (decide (met = .open)) w (w.record (.connected endpoint now met)) where
  unchanged := rfl
  events_eq := by
    refine ⟨[.connected endpoint now met], events_record .., fun event mem => ?_, ?_⟩
    · rw [List.mem_singleton.mp mem]
      rfl
    · rw [decide_eq_true_iff]
      constructor
      · rintro rfl
        exact ⟨endpoint, now, List.mem_cons_self⟩
      · rintro ⟨_, _, mem⟩
        exact ((Event.connected.injEq ..).mp (List.mem_singleton.mp mem)).2.2.symm

theorem trans (first : Attempted accepted w after) (second : Attempted accepted' after last) :
    Attempted (accepted || accepted') w last where
  unchanged := by
    rw [second.unchanged, first.unchanged]
  events_eq := by
    obtain ⟨made, events, kinds, one⟩ := first.events_eq
    obtain ⟨made', events', kinds', one'⟩ := second.events_eq
    refine ⟨made ++ made', ?_, fun event mem => ?_, ?_⟩
    · rw [events', events, List.append_assoc]
    · exact (List.mem_append.mp mem).elim (kinds event) (kinds' event)
    · rw [Bool.or_eq_true_iff, one, one']
      simp only [List.mem_append, exists_or]

end Attempted

theorem connectFirst_attempted (limit : Nat) (now : Int) (endpoints : List Endpoint) : ∀ w : World,
    Attempted (connectFirst limit now endpoints w).value w (connectFirst limit now endpoints w).state := by
  induction endpoints with
  | nil => exact .nothing
  | cons endpoint rest ih =>
    intro w
    rcases (w.reach now endpoint).open_or_hang_or_passes with met | met | passes
    · rw [connectFirst_of_open met]
      exact .once w endpoint now .open
    · rw [connectFirst_of_hang met]
      exact .once w endpoint now .hang
    · rw [connectFirst_of_passes rfl passes]
      have first := Attempted.once w endpoint now (w.reach now endpoint)
      have shut := decide_eq_false (Reachability.ne_open_of_passes passes)
      rw [shut] at first
      exact first.trans (ih _)

/-! ## The ports of a host -/

theorem portsClosed_of_accepted {host : String} {port : Port} (rest : List Port)
    (accepted : (w.connect limit now (w.endpoints? host port)).value = true) :
    portsClosed host limit (port :: rest) now w =
      ⟨false, (w.connect limit now (w.endpoints? host port)).cost,
        (w.connect limit now (w.endpoints? host port)).state⟩ := by
  rw [portsClosed]
  simp only [accepted, if_true]

theorem portsClosed_of_not_accepted {host : String} {port : Port} (rest : List Port)
    (shut : (w.connect limit now (w.endpoints? host port)).value = false) :
    portsClosed host limit (port :: rest) now w =
      let tried := w.connect limit now (w.endpoints? host port)
      let later := portsClosed host limit rest (now + tried.cost) tried.state
      { later with cost := tried.cost + later.cost } := by
  rw [portsClosed]
  simp only [shut, Bool.false_eq_true, if_false]

/-- Ports are found closed just if no connection to them was accepted. -/
theorem portsClosed_attempted (host : String) (limit : Nat) (ports : List Port) : ∀ (now : Int) (w : World),
    Attempted (!(portsClosed host limit ports now w).value) w (portsClosed host limit ports now w).state := by
  induction ports with
  | nil => exact fun _ => .nothing
  | cons port rest ih =>
    intro now w
    have first : Attempted (w.connect limit now (w.endpoints? host port)).value w
        (w.connect limit now (w.endpoints? host port)).state := connectFirst_attempted ..
    cases accepted : (w.connect limit now (w.endpoints? host port)).value with
    | true =>
      rw [portsClosed_of_accepted rest accepted]
      rw [accepted] at first
      exact first
    | false =>
      rw [portsClosed_of_not_accepted rest accepted]
      rw [accepted] at first
      exact first.trans (ih _ _)

/-- One port is found closed just if the connection to it is not accepted, and that takes as long. -/
theorem portsClosed_singleton (host : String) (limit : Nat) (port : Port) (now : Int) (w : World) :
    (portsClosed host limit [port] now w).value = !(w.connect limit now (w.endpoints? host port)).value ∧
      (portsClosed host limit [port] now w).cost = (w.connect limit now (w.endpoints? host port)).cost := by
  cases accepted : (w.connect limit now (w.endpoints? host port)).value with
  | true =>
    rw [portsClosed_of_accepted [] accepted]
    exact ⟨rfl, rfl⟩
  | false =>
    rw [portsClosed_of_not_accepted [] accepted]
    exact ⟨rfl, rfl⟩

/-! ## Two runs -/

namespace InStep

variable {a b a' b' : World}

theorem connectFirst (limit : Nat) (now : Int) (endpoints : List Endpoint) : ∀ {a' b' : World}, InStep a b a' b' →
    let of_a := a'.connectFirst limit now endpoints
    let of_b := b'.connectFirst limit now endpoints
    of_a.value = of_b.value ∧ of_a.cost = of_b.cost ∧ InStep a b of_a.state of_b.state := by
  induction endpoints with
  | nil => exact fun so_far => ⟨rfl, rfl, so_far⟩
  | cons endpoint rest ih =>
    intro a' b' so_far
    have same := World.reach_eq so_far.processes_eq so_far.network_eq now endpoint
    rcases (b'.reach now endpoint).open_or_hang_or_passes with met | met | passes
    · rw [connectFirst_of_open met, connectFirst_of_open (same.trans met)]
      exact ⟨rfl, rfl, so_far.record rfl⟩
    · rw [connectFirst_of_hang met, connectFirst_of_hang (same.trans met)]
      exact ⟨rfl, rfl, so_far.record rfl⟩
    · rw [connectFirst_of_passes rfl passes, connectFirst_of_passes same passes]
      exact ih (so_far.record rfl)

theorem connect (so_far : InStep a b a' b') (limit : Nat) (now : Int) (host : String) (port : Port) :
    let of_a := a'.connect limit now (a'.endpoints? host port)
    let of_b := b'.connect limit now (b'.endpoints? host port)
    of_a.value = of_b.value ∧ of_a.cost = of_b.cost ∧ InStep a b of_a.state of_b.state := by
  rw [World.endpoints?_eq so_far.hosts_eq]
  exact InStep.connectFirst limit now _ so_far

theorem portsClosed (host : String) (limit : Nat) (ports : List Port) : ∀ (now : Int) {a' b' : World},
    InStep a b a' b' →
    let of_a := World.portsClosed host limit ports now a'
    let of_b := World.portsClosed host limit ports now b'
    of_a.value = of_b.value ∧ of_a.cost = of_b.cost ∧ InStep a b of_a.state of_b.state := by
  induction ports with
  | nil => exact fun _ _ _ so_far => ⟨rfl, rfl, so_far⟩
  | cons port rest ih =>
    intro now a' b' so_far
    obtain ⟨value, cost, tried⟩ := so_far.connect limit now host port
    cases accepted : (b'.connect limit now (b'.endpoints? host port)).value with
    | true =>
      rw [portsClosed_of_accepted rest accepted, portsClosed_of_accepted rest (value.trans accepted)]
      exact ⟨rfl, cost, tried⟩
    | false =>
      rw [portsClosed_of_not_accepted rest accepted, portsClosed_of_not_accepted rest (value.trans accepted)]
      obtain ⟨value', cost', later⟩ := ih (now + (b'.connect limit now (b'.endpoints? host port)).cost) tried
      simp only [cost]
      exact ⟨value', congrArg (_ + ·) cost', later⟩

end InStep

end World

end PortRelease
