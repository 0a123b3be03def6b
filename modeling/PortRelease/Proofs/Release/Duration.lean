import PortRelease.Proofs.Platform.Listener
import PortRelease.Proofs.Platform.RootFate
import PortRelease.Proofs.Release.Orchestration
import PortRelease.Proofs.Wait.Timing
/-!
# How long a stop takes

Let one process hold the watched endpoint alone, and let the signal end it. From then on the endpoint is open for the
delay of that process and refused afterwards (`SoleHolder.reach_after`), so an evaluation takes no time and finds the
port closed just if the delay is over (`SoleHolder.portsClosed_after`). The wait then ends as a wait for an instant
does (`SoleHolder.await_after`).

* `stop_takes_exit_delay`: a stop of the port ends with the first evaluation after the delay, or at the timeout.
-/

namespace PortRelease

open World

/-- A process alone holds an endpoint of which the network says nothing, and a signal that it takes ends it. -/
structure SoleHolder (endpoint : Endpoint) (signal : Signal) (now : Int) (p : ProcessState) (w : World) : Prop where
  present : p ∈ w.processes
  holds : endpoint ∈ p.sockets
  alone : ∀ q ∈ w.processes, q.aliveAt now = true → endpoint ∈ q.sockets → q = p
  silent : w.network.lookup endpoint = none
  takes : p.refusal = none
  heeds : signal ∉ p.ignores
  running : p.deadFrom = none

variable {endpoint : Endpoint} {signal : Signal} {now time : Int} {p : ProcessState} {w after : World}

namespace SoleHolder

theorem alive (sole : SoleHolder endpoint signal now p w) : p.aliveAt now = true := by
  rw [ProcessState.aliveAt, sole.running]

/-! ## The endpoint -/

/-- However many others are signalled too, the endpoint is open for the delay of the process and then refused. -/
theorem reach_after (sole : SoleHolder endpoint signal now p w) {meant : (pid group : Nat) → Bool}
    (met : after.processes = w.processes.map (ProcessState.meet now signal meant))
    (network : after.network = w.network) (struck : meant p.pid p.group = true) (later : now ≤ time) :
    after.reach time endpoint = if time < now + p.exitDelay then .open else .refused := by
  have ending : (p.meet now signal meant).aliveAt time = decide (time < now + p.exitDelay) := by
    rw [ProcessState.meet_of_meant sole.alive struck,
      ProcessState.aliveAt_receive_of_ending sole.takes sole.heeds sole.running]
  split
  next before =>
    have here : p.meet now signal meant ∈ after.processes := met ▸ List.mem_map_of_mem sole.present
    refine reach_of_held here (ending.trans (decide_eq_true before)) ?_
    rw [ProcessState.sockets_meet]
    exact sole.holds
  next ended =>
    -- who is alive and holds the endpoint now was alive and held it before, so it is the process itself
    refine reach_of_free (fun q' here alive held => ?_) (by rw [network, sole.silent])
    rw [met] at here
    obtain ⟨q, present, rfl⟩ := List.mem_map.mp here
    rw [ProcessState.sockets_meet] at held
    obtain rfl := sole.alone q present (ProcessState.aliveAt_of_meet later alive) held
    rw [ending, decide_eq_true_iff] at alive
    exact ended alive

/-! ## The wait -/

section Wait

variable {settings : Settings} {port : Port} {ip : Ip} {schedule : Schedule} {meant : (pid group : Nat) → Bool}
  (sole : SoleHolder (.of ip port) signal now p w) (literal : Ip.read? settings.host.toList = some ip)
  (met : after.processes = w.processes.map (ProcessState.meet now signal meant))
  (network : after.network = w.network) (struck : meant p.pid p.group = true)

include sole literal met network struck

theorem portsClosed_after (limit : Nat) {seen : World} (looked : Observed Event.isAttempt after seen)
    (later : now ≤ time) :
    (portsClosed settings.host limit [port] time seen).value = decide (now + p.exitDelay ≤ time) ∧
      (portsClosed settings.host limit [port] time seen).cost = 0 := by
  obtain ⟨value, cost⟩ := portsClosed_singleton settings.host limit port time seen
  have endpoints : seen.endpoints? settings.host port = some [.of ip port] := by rw [endpoints?, literal]
  have reach := (looked.reach_eq time (.of ip port)).trans (sole.reach_after met network struck later)
  rw [value, cost, endpoints, connect, Option.getD_some]
  split at reach
  next before =>
    rw [connectFirst_of_open reach, decide_eq_false (by omega)]
    exact ⟨rfl, rfl⟩
  next ended =>
    rw [connectFirst_of_passes reach rfl, decide_eq_true (by omega)]
    exact ⟨rfl, rfl⟩

/-- The wait ends as many whole pauses after its start as cover the delay, if that is not after its timeout. -/
theorem await_after (free : schedule.cutoff = none) :
    let outcome := awaitPortsClosed settings [port] schedule now after
    outcome.converged = decide (p.exitDelay ≤ schedule.timeout) ∧
      outcome.finished = now + min (schedule.pause * (p.exitDelay ⌈/⌉ schedule.pause)) schedule.timeout := by
  intro outcome
  let closed := portsClosed settings.host settings.connectTimeout.toNat [port]
  have deadline : schedule.deadline now = now + schedule.timeout := by rw [Schedule.deadline, free]
  have ahead : now ≤ schedule.deadline now := by omega
  obtain ⟨n, -, ends⟩ := Wait.exists_settledAt closed schedule now after
  -- every evaluation begins after the request and finds the processes as the request left them
  have answers : ∀ k ≤ n, (Wait.evaluation closed schedule now after k).value closed =
      decide (now + p.exitDelay ≤ (Wait.evaluation closed schedule now after k).began) ∧
      (Wait.evaluation closed schedule now after k).cost closed = 0 :=
    fun k h => sole.portsClosed_after literal met network struck _ (evaluation_observed ..) (ends.start_le_began h)
  have instant := fun k h => (answers k h).2
  have holds := fun k h => (answers k h).1
  constructor
  · show (waitUntil closed schedule now after).converged = _
    rw [Wait.converged_eq ends, Bool.eq_iff_iff, Wait.value_iff_of_instant instant ahead ends holds, deadline,
      decide_eq_true_iff]
    omega
  · show (waitUntil closed schedule now after).finished = _
    rw [Wait.waitUntil_eq ends]
    show (Wait.evaluation closed schedule now after n).ended closed = _
    rw [Wait.ended_of_instant instant ahead ends holds, deadline, add_sub_cancel_left, Int.toNat_natCast]
    omega

end Wait

end SoleHolder

/-- **A stop takes as long as the process takes to exit.** Let `ss` report a process as the first owner of the port,
let it hold the port of the watched host, an address in its own right, alone, and let it take the signal and end after
a delay. Without an outer deadline the stop succeeds if the delay is within the timeout, with the first evaluation
after the delay or the one at the timeout; otherwise it fails at the timeout. Neither the process table, nor who else
is signalled, nor what the network says of other endpoints makes a difference. -/
theorem stop_takes_exit_delay {settings : Settings} {port : Port} {pid : ProcessId} {mode : Mode} {ip : Ip}
    {schedule : Schedule} {now : Int} {p : ProcessState} {w : World} (reported : Unix.Reports port pid w)
    (literal : Ip.read? settings.host.toList = some ip) (number : p.pid = pid.number)
    (sole : SoleHolder (.of ip port) (Signal.ofMode mode) now p w) (free : schedule.cutoff = none) :
    let pause := max schedule.interval 1
    let stopped := stopPort .unix settings port mode schedule now w
    (p.exitDelay ≤ schedule.timeout →
      let elapsed := min (pause * (p.exitDelay ⌈/⌉ pause)) schedule.timeout
      stopped.result = .ok ⟨some pid, mode, [port], elapsed⟩ ∧ stopped.finished = now + elapsed) ∧
    (schedule.timeout < p.exitDelay →
      stopped.result = .error (portsStillOpen settings pid [port] schedule.timeout) ∧
        stopped.finished = now + schedule.timeout) := by
  intro pause stopped
  obtain ⟨result, finished, -⟩ := stopPort_after_search Unix.regular settings mode schedule now
    (Unix.resolve_of_reported reported)
  have taken : (Controller.unix.terminate pid mode now w).1 = .ok () :=
    Unix.taken_of_target sole.present sole.alive number sole.takes
  obtain ⟨meant, root_meant, met⟩ := Unix.processes_of_taken taken
  have network := (Unix.did_terminate pid mode now w).network_eq
  obtain ⟨converged, ends⟩ := sole.await_after literal met network (number ▸ root_meant p.group) free
  have some_port := List.cons_ne_nil port []
  constructor
  · intro within
    obtain ⟨done, at_end⟩ := stopProcess_of_awaited taken some_port (converged.trans (decide_eq_true within)) ends
    exact ⟨result.trans done, finished.trans at_end⟩
  · intro beyond
    have covered : p.exitDelay ≤ schedule.pause * (p.exitDelay ⌈/⌉ schedule.pause) :=
      (ceilDiv_le_iff_le_mul schedule.pause_pos).mp le_rfl
    rw [min_eq_right (beyond.le.trans covered)] at ends
    obtain ⟨given_up, at_end⟩ := stopProcess_of_awaited taken some_port
      (converged.trans (decide_eq_false (Nat.not_le.mpr beyond))) ends
    exact ⟨result.trans given_up, finished.trans at_end⟩

/-- A process that takes 50 milliseconds to end, with a member in its group that stays: with pauses of 20 the stop
succeeds after 60, and with a timeout of 30 it fails then. -/
theorem slow_exit_met_or_missed :
    let port : Port := ⟨8080, by decide⟩
    let pid : ProcessId := ⟨100, by decide, by decide⟩
    let text := "LISTEN 0 128 127.0.0.1:8080 0.0.0.0:* users:((\"srv\",pid=100,fd=3))\n"
    let slow : ProcessState := ⟨100, 100, none, 50, [], [.of (.v4 [127, 0, 0, 1]) port], none⟩
    let member : ProcessState := ⟨200, 100, none, 50, [.terminate], [.of (.v4 [127, 0, 0, 1]) ⟨9090, by decide⟩], none⟩
    let w : World := ⟨[("ss", [.ok ⟨.code 0, text.toUTF8.toList, []⟩])], [slow, member], [], [], 1, [], []⟩
    let stopped (timeout : Nat) := stopPort .unix .default port .graceful ⟨20, timeout, none⟩ 0 w
    Unix.Reports port pid w ∧ SoleHolder (.of (.v4 [127, 0, 0, 1]) port) (.ofMode .graceful) 0 slow w ∧
      (stopped 100).result = .ok ⟨some pid, .graceful, [port], 60⟩ ∧
      (stopped 30).result = .error (portsStillOpen .default pid [port] 30) := by
  intro port pid text slow member w stopped
  have reported : Unix.Reports port pid w :=
    ⟨by decide, text.toList, ⟨⟨.code 0, text.toUTF8.toList, []⟩, by decide +kernel, rfl, by decide +kernel⟩,
      by decide +kernel⟩
  have literal : Ip.read? Settings.default.host.toList = some (.v4 [127, 0, 0, 1]) := by decide +kernel
  have sole : SoleHolder (.of (.v4 [127, 0, 0, 1]) port) (.ofMode .graceful) 0 slow w :=
    ⟨List.mem_cons_self, List.mem_cons_self, by decide +kernel, rfl, rfl, List.not_mem_nil, rfl⟩
  have free (timeout : Nat) : (Schedule.mk 20 timeout none).cutoff = none := rfl
  obtain ⟨met, -⟩ := stop_takes_exit_delay reported literal rfl sole (free 100)
  obtain ⟨-, missed⟩ := stop_takes_exit_delay reported literal rfl sole (free 30)
  exact ⟨reported, sole, (met (by decide)).1.trans (by decide +kernel), (missed (by decide)).1⟩

end PortRelease
