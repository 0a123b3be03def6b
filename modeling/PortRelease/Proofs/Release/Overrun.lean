import PortRelease.Proofs.Platform.Requests
import PortRelease.Proofs.Release.Orchestration
import PortRelease.Proofs.World.PortChecks
/-!
# Stops that wait in vain

A stop whose ports stay open gives up after its timeout. It does so with the evaluation that begins at the timeout at the
latest, so what it takes in excess is the time of one evaluation (`Wait.finished_of_expired`). An evaluation that finds an
open port has spent the time limit on the ports before that one at most (`World.portsClosed_of_found`), so the excess is the
limit for each port but one.

However long it waits, the tree was asked to end once (`Controller.exists_request_of_taken`).

* `failed_stop_duration`: how long a stop in vain takes, what it did, and why it gave up.
-/

namespace PortRelease

open World

variable {controller : Controller} {settings : Settings} {pid : ProcessId} {mode : Mode} {ports : List Port}
  {schedule : Schedule} {now : Int} {w : World}

/-- A wait for ports in vain ends with a connection that one of them accepts. -/
theorem awaitPortsClosed_expired
    (expired : (awaitPortsClosed settings ports schedule now w).converged = false) :
    let closed := portsClosed settings.host settings.connectTimeout.toNat ports
    let outcome := awaitPortsClosed settings ports schedule now w
    let last := Wait.evaluation closed schedule now w (outcome.begun.length - 1)
    last.value closed = false ∧ last.ended closed = outcome.finished ∧
      ∃ port ∈ ports, ∃ endpoint ∈ (w.endpoints? settings.host port).getD [], ∃ earlier,
        outcome.state.events = last.state.events ++ earlier ++ [.connected endpoint outcome.finished .open] := by
  intro closed outcome last
  obtain ⟨value, finished, state⟩ := Wait.waitUntil_last closed schedule now w
  have unmet : last.value closed = false := value.symm.trans expired
  obtain ⟨-, port, mem, endpoint, of_host, earlier, events⟩ := portsClosed_of_found ports last.began last.state unmet
  have looked : Observed Event.isAttempt w last.state := evaluation_observed settings ports schedule now w _
  refine ⟨unmet, finished.symm, port, mem, endpoint, ?_, earlier, ?_⟩
  · rw [← endpoints?_eq looked.hosts_eq]
    exact of_host
  · rw [show outcome.finished = last.ended closed from finished,
      show outcome.state = (last.answer closed).state from state]
    exact events

/-- A wait for ports in vain takes its timeout, and longer by the limit for each port but one at most. -/
theorem finished_of_ports_expired (free : schedule.cutoff = none)
    (expired : (awaitPortsClosed settings ports schedule now w).converged = false) :
    let finished := (awaitPortsClosed settings ports schedule now w).finished
    now + schedule.timeout ≤ finished ∧
      finished ≤ now + schedule.timeout + ((ports.length - 1) * settings.connectTimeout.toNat : Nat) := by
  apply Wait.finished_of_expired free _ expired
  intro now w found
  rw [Nat.mul_comm]
  exact (portsClosed_of_found ports now w found).1

/-- A stop that has waited in vain has had its request taken, and its wait has expired. -/
theorem expired_of_notConverged (platform : controller = .unix ∨ controller = .windows) (some_port : ports ≠ [])
    {waited : Span} {awaited : String}
    (failed : (stopProcess controller settings pid mode ports schedule now w).result =
      .error (.notConverged waited awaited)) :
    let requested := controller.terminate pid mode now w
    let outcome := awaitPortsClosed settings ports schedule now requested.2
    requested.1 = .ok () ∧ outcome.converged = false ∧ waited = .ofMilliseconds (outcome.finished - now).toNat := by
  intro requested outcome
  cases answer : requested.1 with
  | error failure =>
    rw [stopProcess_of_failed answer] at failed
    rw [Except.error.inj failed] at answer
    exact absurd answer (Controller.terminate_ne_notConverged platform waited awaited)
  | ok _ =>
    rw [stopProcess_of_ports answer some_port] at failed
    dsimp only at failed
    split at failed
    next => cases failed
    next expired =>
      obtain ⟨waits, -⟩ := Failure.notConverged.inj (Except.error.inj failed)
      exact ⟨rfl, Bool.eq_false_iff.mpr expired, waits.symm⟩

/-- **How long a stop in vain takes.** Let a stop of a process with at least one port, without an outer deadline, report that it
has waited in vain. It has waited for its timeout, and longer by the connection limit for each port but one at most. Its
request was taken: the process was asked to end once, and after that the stop only tried connections. Its last evaluation
found a port open, and the last of all connections is the one that this port accepted, at the end. If an outer deadline has come
already when the stop starts, the ports are evaluated once. -/
theorem failed_stop_duration {controller : Controller} (platform : controller = .unix ∨ controller = .windows)
    (settings : Settings) (pid : ProcessId) (mode : Mode) {ports : List Port} (some_port : ports ≠ [])
    (schedule : Schedule) (now : Int) (w : World) :
    let limit := settings.connectTimeout.toNat
    let requested := controller.terminate pid mode now w
    let stopped := stopProcess controller settings pid mode ports schedule now w
    let closed := portsClosed settings.host limit ports
    let outcome := awaitPortsClosed settings ports schedule now requested.2
    (schedule.cutoff = none → ∀ waited awaited, stopped.result = .error (.notConverged waited awaited) →
      requested.1 = .ok () ∧
      (∃ elapsed, waited = .ofMilliseconds elapsed ∧
        schedule.timeout ≤ elapsed ∧ elapsed ≤ schedule.timeout + (ports.length - 1) * limit) ∧
      (∃ requests attempts, requested.2.events = w.events ++ requests ∧
        requests.countP (Event.asksEnd pid) = 1 ∧
        stopped.world.events = w.events ++ requests ++ attempts ∧ ∀ event ∈ attempts, event.isAttempt = true) ∧
      let last := Wait.evaluation closed schedule now requested.2 (outcome.begun.length - 1)
      last.value closed = false ∧ last.ended closed = stopped.finished ∧
      ∃ port ∈ ports, ∃ endpoint ∈ (w.endpoints? settings.host port).getD [], ∃ earlier,
        stopped.world.events = last.state.events ++ earlier ++ [.connected endpoint stopped.finished .open]) ∧
    (∀ cutoff, schedule.cutoff = some cutoff → cutoff ≤ now → requested.1 = .ok () →
      outcome.begun = [now] ∧ stopped.finished = now + (closed now requested.2).cost ∧
        stopped.world = (closed now requested.2).state) := by
  intro limit requested stopped closed outcome
  constructor
  · intro free waited awaited failed
    obtain ⟨taken, expired, waits⟩ := expired_of_notConverged platform some_port failed
    have form : stopped = _ := stopProcess_of_ports taken some_port
    have finished : stopped.finished = outcome.finished := congrArg Stopped.finished form
    have world : stopped.world = outcome.state := congrArg Stopped.world form
    obtain ⟨at_least, at_most⟩ : now + schedule.timeout ≤ outcome.finished ∧
        outcome.finished ≤ now + schedule.timeout + ((ports.length - 1) * limit : Nat) :=
      finished_of_ports_expired free expired
    refine ⟨taken, ⟨(outcome.finished - now).toNat, waits, by omega, by omega⟩, ?_, ?_⟩
    · obtain ⟨requests, asked, once⟩ := Controller.exists_request_of_taken platform taken
      obtain ⟨attempts, tried, kinds⟩ := (awaitPortsClosed_observed settings ports schedule now requested.2).events_eq
      refine ⟨requests, attempts, asked, once, ?_, kinds⟩
      rw [world, ← asked]
      exact tried
    · intro last
      obtain ⟨unmet, ended, port, mem, endpoint, of_host, earlier, events⟩ := awaitPortsClosed_expired expired
      have requests := (Controller.regular_of_platform platform).terminate_did pid mode now w
      rw [endpoints?_eq requests.hosts_eq] at of_host
      rw [finished, world]
      exact ⟨unmet, ended, port, mem, endpoint, of_host, earlier, events⟩
  · intro cutoff cut past taken
    have late : schedule.deadline now ≤ now := by
      rw [Schedule.deadline, cut]
      exact (min_le_right ..).trans past
    have once : outcome = _ := Wait.waitUntil_of_late late
    have form : stopped = _ := stopProcess_of_ports taken some_port
    refine ⟨congrArg Outcome.begun once, ?_, ?_⟩
    · exact (congrArg Stopped.finished form).trans (congrArg Outcome.finished once)
    · exact (congrArg Stopped.world form).trans (congrArg Outcome.state once)

/-- A listener that ignores the request, on a port behind one that does not answer. The last evaluation begins at the timeout
and takes the limit, so the stop takes as long as a stop of two ports can. With an outer deadline at its start it takes one
evaluation. -/
theorem longest_stop_of_two_ports :
    let silent : Port := ⟨80, by decide⟩
    let held : Port := ⟨81, by decide⟩
    let loopback : Ip := .v4 [127, 0, 0, 1]
    let pid : ProcessId := ⟨100, by decide, by decide⟩
    let listener : ProcessState := ⟨100, 100, none, 0, [.terminate], [.of loopback held], none⟩
    let w : World := ⟨[], [listener], [(.of loopback silent, [(0, .hang)])], [], 1, [], []⟩
    let stopped (cutoff : Option Int) :=
      stopProcess .unix .default pid .graceful [silent, held] ⟨2000, 700, cutoff⟩ 0 w
    (stopped none).result = .error (portsStillOpen .default pid [silent, held] (700 + 500)) ∧
      (∃ requests attempts, requests.countP (Event.asksEnd pid) = 1 ∧
        (stopped none).world.events = w.events ++ requests ++ attempts ∧ ∀ event ∈ attempts, event.isAttempt = true) ∧
      (∃ endpoint before, (stopped none).world.events = before ++ [.connected endpoint 1200 .open]) ∧
      (stopped (some 0)).finished = 500 := by
  intro silent held loopback pid listener w stopped
  have failed : (stopped none).result = .error (portsStillOpen .default pid [silent, held] (700 + 500)) := by
    decide +kernel
  have finished : (stopped none).finished = 1200 := by decide +kernel
  have some_port := List.cons_ne_nil silent [held]
  obtain ⟨in_vain, -⟩ := failed_stop_duration (.inl rfl) .default pid .graceful some_port ⟨2000, 700, none⟩ 0 w
  obtain ⟨-, once⟩ := failed_stop_duration (.inl rfl) .default pid .graceful some_port ⟨2000, 700, some 0⟩ 0 w
  obtain ⟨-, -, ⟨requests, attempts, -, one, events, kinds⟩, -, -, port, -, endpoint, -, earlier, ends⟩ :=
    in_vain rfl _ _ failed
  obtain ⟨-, at_end, -⟩ := once 0 rfl le_rfl (by decide +kernel)
  rw [show (stopProcess ..).finished = 1200 from finished] at ends
  exact ⟨failed, ⟨requests, attempts, one, events, kinds⟩, ⟨endpoint, _, ends⟩, at_end.trans (by decide +kernel)⟩

end PortRelease
