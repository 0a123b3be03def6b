import PortRelease.Proofs.Platform.Regular
import PortRelease.Proofs.Wait.Parallel
import PortRelease.Proofs.World.Connections
import PortRelease.Release.Stop
/-!
# The stages of a stop

A stop goes through up to three stages, and a stage that fails ends it: the search for a listener, which only asks
questions; the request that ends the tree; and the wait, which only tries connections. `stopProcess_of_failed`,
`stopProcess_of_no_ports` and `stopProcess_of_ports` say where a stop of a process ends, `stopPort_of_failed`,
`stopPort_of_not_found` and `stopPort_of_found` where a stop of a port does.

Since the search only looks, what follows it is what would have happened without it (`stopProcess_after_lookup`).

* `stops_in_stages`: both entry points, with the events of each stage and the result of each way to end.
-/

namespace PortRelease

open World

variable {controller : Controller} {settings : Settings} {pid : ProcessId} {mode : Mode} {ports : List Port}
  {port : Port} {schedule : Schedule} {now : Int} {w : World}

/-! ## Stopping a process -/

theorem stopProcess_of_failed {failure : Failure} (failed : (controller.terminate pid mode now w).1 = .error failure) :
    stopProcess controller settings pid mode ports schedule now w =
      ⟨.error failure, now, (controller.terminate pid mode now w).2⟩ := by
  have requested : controller.terminate pid mode now w = (.error failure, _) := Prod.ext failed rfl
  rw [stopProcess, requested]
  rfl

theorem stopProcess_of_no_ports (taken : (controller.terminate pid mode now w).1 = .ok ()) :
    stopProcess controller settings pid mode [] schedule now w =
      ⟨.ok ⟨some pid, mode, [], 0⟩, now, (controller.terminate pid mode now w).2⟩ := by
  have requested : controller.terminate pid mode now w = (.ok (), _) := Prod.ext taken rfl
  rw [stopProcess, requested]
  rfl

theorem stopProcess_of_ports (taken : (controller.terminate pid mode now w).1 = .ok ()) (some_port : ports ≠ []) :
    stopProcess controller settings pid mode ports schedule now w =
      let outcome := awaitPortsClosed settings ports schedule now (controller.terminate pid mode now w).2
      let elapsed := (outcome.finished - now).toNat
      ⟨if outcome.converged then .ok ⟨some pid, mode, ports, elapsed⟩
        else .error (portsStillOpen settings pid ports elapsed), outcome.finished, outcome.state⟩ := by
  have requested : controller.terminate pid mode now w = (.ok (), _) := Prod.ext taken rfl
  rw [stopProcess, requested]
  exact if_neg some_port

/-- A wait that converges ends a stop with success, and one that expires with a failure. -/
theorem stopProcess_of_awaited (taken : (controller.terminate pid mode now w).1 = .ok ()) (some_port : ports ≠ [])
    {met : Bool} {elapsed : Nat}
    (converged : (awaitPortsClosed settings ports schedule now (controller.terminate pid mode now w).2).converged = met)
    (ends : (awaitPortsClosed settings ports schedule now (controller.terminate pid mode now w).2).finished =
      now + elapsed) :
    let stopped := stopProcess controller settings pid mode ports schedule now w
    stopped.result = (if met then .ok ⟨some pid, mode, ports, elapsed⟩
      else .error (portsStillOpen settings pid ports elapsed)) ∧ stopped.finished = now + elapsed := by
  intro stopped
  unfold stopped
  rw [stopProcess_of_ports taken some_port]
  simp only [converged, ends, add_sub_cancel_left, Int.toNat_natCast, and_self]

/-! A wait for ports only tries connections, up to each of its evaluations and up to its end. -/

theorem evaluation_observed (settings : Settings) (ports : List Port) (schedule : Schedule) (now : Int) (w : World)
    (k : Nat) : Observed Event.isAttempt w
      (Wait.evaluation (portsClosed settings.host settings.connectTimeout.toNat ports) schedule now w k).state :=
  Wait.evaluation_keeps (fun _ _ so_far => so_far.trans (portsClosed_attempted ..).observed) (.nothing w) k

theorem awaitPortsClosed_observed (settings : Settings) (ports : List Port) (schedule : Schedule) (now : Int)
    (w : World) : Observed Event.isAttempt w (awaitPortsClosed settings ports schedule now w).state :=
  Wait.waitUntil_keeps (fun _ _ so_far => so_far.trans (portsClosed_attempted ..).observed) schedule now (.nothing w)

theorem awaitPortsClosed_inStep {a b a' b' : World} (so_far : InStep a b a' b') (settings : Settings)
    (ports : List Port) (schedule : Schedule) (now : Int) :
    let of_a := awaitPortsClosed settings ports schedule now a'
    let of_b := awaitPortsClosed settings ports schedule now b'
    of_a.converged = of_b.converged ∧ of_a.finished = of_b.finished ∧ InStep a b of_a.state of_b.state := by
  intro of_a of_b
  have alike : Probe.Alike (InStep a b) (portsClosed settings.host settings.connectTimeout.toNat ports)
      (portsClosed settings.host settings.connectTimeout.toNat ports) :=
    fun now _ _ so_far => so_far.portsClosed _ _ ports now
  obtain ⟨ending, finished, -, states⟩ := waitUntil_alike alike schedule now so_far
  have converged : of_a.converged = of_b.converged := by
    show decide (of_a.ending = _) = decide (of_b.ending = _)
    rw [show of_a.ending = of_b.ending from ending]
  exact ⟨converged, finished, states⟩

/-- After the request a stop only tries connections. -/
theorem stopProcess_observed (controller : Controller) (settings : Settings) (pid : ProcessId) (mode : Mode)
    (ports : List Port) (schedule : Schedule) (now : Int) (w : World) :
    Observed Event.isAttempt (controller.terminate pid mode now w).2
      (stopProcess controller settings pid mode ports schedule now w).world := by
  cases answer : (controller.terminate pid mode now w).1 with
  | error failure =>
    rw [stopProcess_of_failed answer]
    exact .nothing _
  | ok _ =>
    by_cases no_port : ports = []
    · rw [no_port, stopProcess_of_no_ports answer]
      exact .nothing _
    · rw [stopProcess_of_ports answer no_port]
      exact awaitPortsClosed_observed ..

/-- **After a search a process is stopped just as without one.** -/
theorem stopProcess_after_lookup (regular : controller.Regular) (settings : Settings) (port : Port) (pid : ProcessId)
    (mode : Mode) (ports : List Port) (schedule : Schedule) (now : Int) (w : World) :
    let searched := (controller.lookup port w).2
    let later := stopProcess controller settings pid mode ports schedule now searched
    let alone := stopProcess controller settings pid mode ports schedule now w
    later.result = alone.result ∧ later.finished = alone.finished ∧ InStep searched w later.world alone.world := by
  intro searched later alone
  obtain ⟨same, requested⟩ := regular.terminate_after_lookup port pid mode now w
  unfold later alone
  cases answer : (controller.terminate pid mode now w).1 with
  | error failure =>
    rw [stopProcess_of_failed answer, stopProcess_of_failed (same.trans answer)]
    exact ⟨rfl, rfl, requested⟩
  | ok _ =>
    rcases ports with - | ⟨first, rest⟩
    · rw [stopProcess_of_no_ports answer, stopProcess_of_no_ports (same.trans answer)]
      exact ⟨rfl, rfl, requested⟩
    · have some_port := List.cons_ne_nil first rest
      rw [stopProcess_of_ports answer some_port, stopProcess_of_ports (same.trans answer) some_port]
      obtain ⟨converged, finished, states⟩ :=
        awaitPortsClosed_inStep requested settings (first :: rest) schedule now
      refine ⟨?_, finished, states⟩
      simp only [converged, finished]

/-! ## Stopping a port -/

theorem stopPort_of_failed {failure : Failure} (failed : (controller.resolve port w).1 = .error failure) :
    stopPort controller settings port mode schedule now w =
      ⟨.error failure, now, (controller.resolve port w).2⟩ := by
  have asked : controller.resolve port w = (.error failure, _) := Prod.ext failed rfl
  rw [stopPort, asked]
  rfl

theorem stopPort_of_not_found (nobody : (controller.resolve port w).1 = .ok .notFound) :
    stopPort controller settings port mode schedule now w =
      ⟨.ok ⟨none, mode, [port], 0⟩, now, (controller.resolve port w).2⟩ := by
  have asked : controller.resolve port w = (.ok .notFound, _) := Prod.ext nobody rfl
  rw [stopPort, asked]
  rfl

theorem stopPort_of_found {binding : Binding} (found : (controller.resolve port w).1 = .ok (.found binding)) :
    stopPort controller settings port mode schedule now w =
      stopProcess controller settings binding.pid mode [port] schedule now (controller.resolve port w).2 := by
  have asked : controller.resolve port w = (.ok (.found binding), _) := Prod.ext found rfl
  rw [stopPort, asked]

/-- After a search that finds somebody a stop of the port is a stop of that process, as if nobody had searched. -/
theorem stopPort_after_search (regular : controller.Regular) (settings : Settings) (mode : Mode) (schedule : Schedule)
    (now : Int) {binding : Binding} (found : (controller.resolve port w).1 = .ok (.found binding)) :
    let searched := (controller.resolve port w).2
    let stopped := stopPort controller settings port mode schedule now w
    let alone := stopProcess controller settings binding.pid mode [port] schedule now w
    stopped.result = alone.result ∧ stopped.finished = alone.finished ∧
      InStep searched w stopped.world alone.world := by
  intro searched stopped alone
  have looked : searched = (controller.lookup port w).2 := congrArg Prod.snd (Controller.resolve_of_answer found)
  have later : stopped = stopProcess controller settings binding.pid mode [port] schedule now searched :=
    stopPort_of_found found
  rw [later, looked]
  exact stopProcess_after_lookup regular settings port binding.pid mode [port] schedule now w

/-! ## All stages -/

/-- **A stop goes through its stages, and the first that fails ends it.**

A port: the search only asks who listens. Its failure is the failure of the stop, and an answer that nobody listens
is a success without a process, both at once. If somebody is found, the result, the end and the events after the
search are those of stopping that process with that port, had nobody searched.

A process: first comes the request that ends the tree, then connections and nothing else. A failed request is the
failure of the stop, without any connection. After the request the stop succeeds just if there are no ports or an
evaluation found all of them closed; it reports the time up to the end of that evaluation, and if there is none it
fails because the ports are still open. -/
theorem stops_in_stages {controller : Controller} (platform : controller = .unix ∨ controller = .windows)
    (settings : Settings) (mode : Mode) (schedule : Schedule) (now : Int) (w : World) :
    (∀ port : Port,
      let asked := controller.resolve port w
      let stopped := stopPort controller settings port mode schedule now w
      Observed Event.isQuestion w asked.2 ∧
      (∀ failure, asked.1 = .error failure → stopped = ⟨.error failure, now, asked.2⟩) ∧
      (asked.1 = .ok .notFound → stopped = ⟨.ok ⟨none, mode, [port], 0⟩, now, asked.2⟩) ∧
      (∀ binding, asked.1 = .ok (.found binding) →
        let alone := stopProcess controller settings binding.pid mode [port] schedule now w
        stopped.result = alone.result ∧ stopped.finished = alone.finished ∧
          ∃ made, stopped.world.events = asked.2.events ++ made ∧ alone.world.events = w.events ++ made)) ∧
    (∀ (pid : ProcessId) (ports : List Port),
      let requested := controller.terminate pid mode now w
      let stopped := stopProcess controller settings pid mode ports schedule now w
      let closed := portsClosed settings.host settings.connectTimeout.toNat ports
      let evaluation := Wait.evaluation closed schedule now requested.2
      let count := (awaitPortsClosed settings ports schedule now requested.2).begun.length
      let released := ports = [] ∨ ∃ k < count, (evaluation k).value closed = true
      let elapsed := (stopped.finished - now).toNat
      Did Event.isRequest w requested.2 ∧ Observed Event.isAttempt requested.2 stopped.world ∧
      (∀ failure, requested.1 = .error failure → stopped = ⟨.error failure, now, requested.2⟩) ∧
      (requested.1 = .ok () →
        (∀ report, stopped.result = .ok report ↔ report = ⟨some pid, mode, ports, elapsed⟩ ∧ released) ∧
        (¬ released → stopped.result = .error (portsStillOpen settings pid ports elapsed)) ∧
        now ≤ stopped.finished ∧
        (ports = [] → stopped.finished = now ∧ stopped.world = requested.2) ∧
        (ports ≠ [] → ∀ k < count, (evaluation k).value closed = true →
          stopped.finished = (evaluation k).ended closed))) := by
  have regular := Controller.regular_of_platform platform
  constructor
  · intro port asked stopped
    refine ⟨regular.resolve_observed port w, fun failure failed => stopPort_of_failed failed, stopPort_of_not_found,
      fun binding found => ?_⟩
    obtain ⟨result, finished, together⟩ := stopPort_after_search regular settings mode schedule now found
    exact ⟨result, finished, together.events_eq⟩
  · intro pid ports requested stopped closed evaluation count released elapsed
    refine ⟨regular.terminate_did pid mode now w, stopProcess_observed .., fun failure => stopProcess_of_failed,
      fun taken => ?_⟩
    -- without a port nothing is awaited; with one the wait decides
    by_cases no_port : ports = []
    · have form : stopped = ⟨.ok ⟨some pid, mode, ports, 0⟩, now, requested.2⟩ := by
        unfold stopped
        rw [no_port]
        exact stopProcess_of_no_ports taken
      have at_once : elapsed = 0 := by
        unfold elapsed
        rw [form, Int.sub_self]
        rfl
      have is_released : released := .inl no_port
      rw [at_once, form]
      refine ⟨fun report => ?_, fun lost => absurd is_released lost, le_rfl, fun _ => ⟨rfl, rfl⟩,
        fun some_port => absurd no_port some_port⟩
      rw [Except.ok.injEq, eq_comm, and_iff_left is_released]
    · have converges : (awaitPortsClosed settings ports schedule now requested.2).converged = true ↔ released :=
        (Wait.converged_iff ..).trans (or_iff_right no_port).symm
      have form : stopped = _ := stopProcess_of_ports taken no_port
      have finished : stopped.finished = (awaitPortsClosed settings ports schedule now requested.2).finished :=
        congrArg Stopped.finished form
      have result : stopped.result = if (awaitPortsClosed settings ports schedule now requested.2).converged then
          .ok ⟨some pid, mode, ports, elapsed⟩ else .error (portsStillOpen settings pid ports elapsed) := by
        unfold elapsed
        rw [finished]
        exact congrArg Stopped.result form
      refine ⟨fun report => ?_, fun lost => ?_, ?_, fun no_port' => absurd no_port' no_port, fun _ k during met => ?_⟩
      · rw [result, ← converges]
        split
        next converged => rw [Except.ok.injEq, eq_comm, and_iff_left converged]
        next expired => exact ⟨fun h => (nomatch h), fun h => absurd h.2 expired⟩
      · rw [result, if_neg fun converged => lost (converges.mp converged)]
      · rw [finished]
        exact Wait.start_le_finished ..
      · rw [finished]
        exact Wait.finished_of_value during met

/-- A listener on Windows whose port stays open for 300 milliseconds after it was ended: it is found and stopped as
if its number had been known, within two pauses. -/
theorem listener_stopped_like_known_process :
    let port : Port := ⟨8080, by decide⟩
    let pid : ProcessId := ⟨100, by decide, by decide⟩
    let shown : ToolOutput := ⟨.code 0, [49, 48, 48, 10], []⟩
    let w : World := ⟨[("powershell", [.ok shown]), ("taskkill", [.ok ⟨.code 0, [], []⟩])], [],
      [(.of (.v4 [127, 0, 0, 1]) port, [(0, .open), (300, .refused)])], [], 1, [], []⟩
    let stopped := stopPort .windows .default port .forced .default 0 w
    let alone := stopProcess .windows .default pid .forced [port] .default 0 w
    (Controller.windows = .unix ∨ Controller.windows = .windows) ∧
      stopped.result = alone.result ∧ stopped.finished = alone.finished ∧
      stopped.result = .ok ⟨some pid, .forced, [port], 500⟩ := by
  intro port pid shown w stopped alone
  have platform : Controller.windows = .unix ∨ Controller.windows = .windows := .inr rfl
  have found : (Controller.windows.resolve port w).1 = .ok (.found ⟨port, pid⟩) := by decide +kernel
  obtain ⟨result, finished, -⟩ := ((stops_in_stages platform .default .forced .default 0 w).1 port).2.2.2 _ found
  exact ⟨platform, result, finished, by decide +kernel⟩

end PortRelease
