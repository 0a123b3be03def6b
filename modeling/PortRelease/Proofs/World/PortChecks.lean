import Mathlib.Data.List.Chain
import PortRelease.Proofs.World.Connections
/-!
# A check of ports, port by port

A port of a host is tried by trying its endpoints in order at one instant. The port is open if an open endpoint is met
before any that does not answer; if one that does not answer is met first, the try takes the whole time limit, and
otherwise no time (`connectFirst_eq`). A check tries one port after another, each when the one before it is over, up to
the first that is open (`tries`).

`portsClosed_eq` reads a check off its tries: the answer, the time, and the connections, which are all that it leaves
behind. What is left is about lists of tries.

* `portsClosed_port_by_port`: the meaning of a check, and of a check of more ports.
-/

namespace PortRelease

/-- Of answers in order, one of a first kind is met before any of a second kind. -/
def Reachability.MetBefore (first second : Reachability) (answers : List Reachability) : Prop :=
  ∃ before after, answers = before ++ first :: after ∧ second ∉ before

namespace Reachability.MetBefore

variable {first second answer : Reachability} {answers : List Reachability}

theorem cons_iff : MetBefore first second (answer :: answers) ↔
    answer = first ∨ answer ≠ second ∧ MetBefore first second answers := by
  constructor
  · rintro ⟨_ | ⟨other, before⟩, after, split, unmet⟩
    · exact .inl (List.cons.inj split).1
    · obtain ⟨rfl, rest⟩ := List.cons.inj split
      rw [List.mem_cons, not_or] at unmet
      exact .inr ⟨Ne.symm unmet.1, before, after, rest, unmet.2⟩
  · rintro (rfl | ⟨differs, before, after, rfl, unmet⟩)
    · exact ⟨[], answers, rfl, List.not_mem_nil⟩
    · exact ⟨answer :: before, after, rfl, List.not_mem_cons_of_ne_of_not_mem (Ne.symm differs) unmet⟩

theorem not_nil : ¬ MetBefore first second [] := by
  rintro ⟨before, after, split, -⟩
  simp at split

instance decidable (first second : Reachability) : DecidablePred (MetBefore first second)
  | [] => isFalse not_nil
  | _ :: answers =>
    have := decidable first second answers
    decidable_of_iff _ cons_iff.symm

/-- Only one of two kinds can be met before the other. -/
theorem not_symm (other : first ≠ second) (met : MetBefore first second answers) :
    ¬ MetBefore second first answers := by
  induction answers with
  | nil => exact not_nil
  | cons answer answers ih =>
    rw [cons_iff] at met ⊢
    grind

end Reachability.MetBefore

namespace World

open Reachability (MetBefore)

variable {w : World} {now : Int} {limit : Nat} {host : String} {port : Port} {endpoint : Endpoint}

/-! ## One port -/

/-- What connections to endpoints meet at an instant. -/
def answers (now : Int) (w : World) (endpoints : List Endpoint) : List Reachability :=
  endpoints.map fun endpoint => w.reach now endpoint

theorem answers_cons (rest : List Endpoint) :
    w.answers now (endpoint :: rest) = w.reach now endpoint :: w.answers now rest := rfl

/-- The connections that are tried to endpoints at an instant. -/
def connections (now : Int) (w : World) (endpoints : List Endpoint) : List Event :=
  (w.tried now endpoints).map fun endpoint => .connected endpoint now (w.reach now endpoint)

theorem connections_of_passes (passes : (w.reach now endpoint).passes = true) (rest : List Endpoint) :
    w.connections now (endpoint :: rest) =
      .connected endpoint now (w.reach now endpoint) :: w.connections now rest := by
  rw [connections, tried_of_passes passes, List.map_cons, connections]

theorem connections_of_not_passes (ends : (w.reach now endpoint).passes = false) (rest : List Endpoint) :
    w.connections now (endpoint :: rest) = [.connected endpoint now (w.reach now endpoint)] := by
  simp [connections, tried, ends]

theorem connections_log (log : List Event) (now : Int) (endpoints : List Endpoint) :
    { w with log := log }.connections now endpoints = w.connections now endpoints := by
  rw [connections, connections, tried_eq (w := w)]
  · rfl
  · rfl
  · rfl

/-- If an open endpoint is met first, the last connection is the one that it accepts. -/
theorem connections_of_open {endpoints : List Endpoint}
    (met : MetBefore .open .hang (w.answers now endpoints)) :
    ∃ endpoint ∈ endpoints, ∃ earlier, w.connections now endpoints = earlier ++ [.connected endpoint now .open] := by
  induction endpoints with
  | nil => exact absurd met MetBefore.not_nil
  | cons endpoint rest ih =>
    rw [answers_cons, MetBefore.cons_iff] at met
    by_cases accepted : w.reach now endpoint = .open
    · refine ⟨endpoint, List.mem_cons_self, [], ?_⟩
      rw [connections_of_not_passes (by rw [accepted]; rfl), accepted]
      rfl
    · obtain ⟨answered, later⟩ := met.resolve_left accepted
      have passes : (w.reach now endpoint).passes = true :=
        ((w.reach now endpoint).open_or_hang_or_passes.resolve_left accepted).resolve_left answered
      obtain ⟨other, mem, earlier, ends⟩ := ih later
      refine ⟨other, List.mem_cons_of_mem _ mem, .connected endpoint now (w.reach now endpoint) :: earlier, ?_⟩
      rw [connections_of_passes passes, ends]
      rfl

/-- **One try**: what it comes to, how long it takes, and the connections that it leaves behind. -/
theorem connectFirst_eq (limit : Nat) (now : Int) (endpoints : List Endpoint) (w : World) :
    connectFirst limit now endpoints w =
      ⟨decide (MetBefore .open .hang (w.answers now endpoints)),
        if MetBefore .hang .open (w.answers now endpoints) then limit else 0,
        { w with log := (w.connections now endpoints).reverse ++ w.log }⟩ := by
  induction endpoints generalizing w with
  | nil => simp [connectFirst, answers, connections, tried, MetBefore.not_nil]
  | cons endpoint rest ih =>
    simp only [answers_cons, MetBefore.cons_iff]
    rcases (w.reach now endpoint).open_or_hang_or_passes with met | met | passes
    · rw [connectFirst_of_open met, connections_of_not_passes (by rw [met]; rfl), met]
      simp [record]
    · rw [connectFirst_of_hang met, connections_of_not_passes (by rw [met]; rfl), met]
      simp [record]
    · have shut := Reachability.ne_open_of_passes passes
      have answered := Reachability.ne_hang_of_passes passes
      have same : (w.record (.connected endpoint now (w.reach now endpoint))).answers now rest = w.answers now rest := rfl
      rw [connectFirst_of_passes rfl passes, ih, same, record, connections_log, connections_of_passes passes]
      simp [shut, answered]

/-! ## The tries of a check -/

/-- A port that is tried, and when. -/
structure PortTry where
  port : Port
  began : Int
  deriving DecidableEq

namespace PortTry

variable (host : String) (limit : Nat) (w : World) (t : PortTry)

def endpoints : List Endpoint := (w.endpoints? host t.port).getD []

/-- The port is open: an open endpoint is met before any that does not answer. -/
def Opens : Prop := MetBefore .open .hang (w.answers t.began (t.endpoints host w))

/-- The try takes the whole limit: an endpoint that does not answer is met before any open one. -/
def Hangs : Prop := MetBefore .hang .open (w.answers t.began (t.endpoints host w))

instance : DecidablePred (Opens host w) := fun t =>
  inferInstanceAs (Decidable (MetBefore .open .hang (w.answers t.began (t.endpoints host w))))

instance : DecidablePred (Hangs host w) := fun t =>
  inferInstanceAs (Decidable (MetBefore .hang .open (w.answers t.began (t.endpoints host w))))

def cost : Nat := if t.Hangs host w then limit else 0

def connections : List Event := w.connections t.began (t.endpoints host w)

theorem not_hangs_of_opens {host : String} {w : World} {t : PortTry} (opens : t.Opens host w) : ¬ t.Hangs host w :=
  MetBefore.not_symm (by decide) opens

/-- What a try comes to. -/
theorem connect_eq : w.connect limit t.began (w.endpoints? host t.port) =
    ⟨decide (t.Opens host w), t.cost host limit w,
      { w with log := (t.connections host w).reverse ++ w.log }⟩ :=
  connectFirst_eq limit t.began _ w

end PortTry

/-- The tries of a check: each port after the one before it, up to the first that is open. -/
def tries (host : String) (limit : Nat) (w : World) : List Port → Int → List PortTry
  | [], _ => []
  | port :: rest, now =>
    let t : PortTry := ⟨port, now⟩
    t :: if t.Opens host w then [] else tries host limit w rest (now + t.cost host limit w)

theorem tries_of_opens (opens : PortTry.Opens host w ⟨port, now⟩) (rest : List Port) :
    w.tries host limit (port :: rest) now = [⟨port, now⟩] := by
  rw [tries, if_pos opens]

theorem tries_of_shut (shut : ¬ PortTry.Opens host w ⟨port, now⟩) (rest : List Port) :
    w.tries host limit (port :: rest) now =
      ⟨port, now⟩ :: w.tries host limit rest (now + PortTry.cost host limit w ⟨port, now⟩) := by
  rw [tries, if_neg shut]

theorem tries_log (log : List Event) (ports : List Port) : ∀ now : Int,
    { w with log := log }.tries host limit ports now = w.tries host limit ports now := by
  induction ports with
  | nil => exact fun _ => rfl
  | cons port rest ih =>
    intro now
    rw [tries, tries, ih]
    rfl

theorem PortTry.connections_log (log : List Event) (t : PortTry) :
    t.connections host { w with log := log } = t.connections host w :=
  World.connections_log log t.began _

/-- **A check is what its tries come to**: none was open, the limit for each that hung, and their connections. -/
theorem portsClosed_eq (host : String) (limit : Nat) (ports : List Port) : ∀ (now : Int) (w : World),
    portsClosed host limit ports now w =
      let tries := w.tries host limit ports now
      ⟨tries.all fun t => !decide (t.Opens host w), limit * tries.countP fun t => t.Hangs host w,
        { w with log := (tries.flatMap fun t => t.connections host w).reverse ++ w.log }⟩ := by
  induction ports with
  | nil => simp [portsClosed, tries]
  | cons port rest ih =>
    intro now w
    have tried := PortTry.connect_eq host limit w ⟨port, now⟩
    rw [tries]
    by_cases opens : PortTry.Opens host w ⟨port, now⟩
    · have no_time : ¬ PortTry.Hangs host w ⟨port, now⟩ := PortTry.not_hangs_of_opens opens
      rw [portsClosed_of_accepted rest (by rw [tried]; exact decide_eq_true opens), tried]
      simp [opens, no_time, PortTry.cost]
    · have time : PortTry.cost host limit w ⟨port, now⟩ =
          limit * if decide (PortTry.Hangs host w ⟨port, now⟩) = true then 1 else 0 := by
        by_cases hangs : PortTry.Hangs host w ⟨port, now⟩
        · simp [PortTry.cost, hangs]
        · simp [PortTry.cost, hangs]
      rw [portsClosed_of_not_accepted rest (by rw [tried]; exact decide_eq_false opens), tried]
      simp only [ih, tries_log, PortTry.connections_log, if_neg opens, List.all_cons, List.countP_cons,
        List.flatMap_cons, List.reverse_append, List.append_assoc, decide_eq_false opens, Bool.not_false,
        Bool.true_and, Nat.mul_add, ← time, Nat.add_comm]
      rfl

/-! ## What a check tries -/

theorem map_port_tries (ports : List Port) : ∀ now : Int,
    (w.tries host limit ports now).map PortTry.port <+: ports := by
  induction ports with
  | nil => exact fun _ => List.prefix_rfl
  | cons port rest ih =>
    intro now
    by_cases opens : PortTry.Opens host w ⟨port, now⟩
    · rw [tries_of_opens opens]
      exact ⟨rest, rfl⟩
    · rw [tries_of_shut opens]
      exact (List.prefix_cons_inj port).mpr (ih _)

theorem head?_tries (ports : List Port) (now : Int) :
    (w.tries host limit ports now).head? = ports.head?.map fun port => ⟨port, now⟩ := by
  cases ports with
  | nil => rfl
  | cons port rest => rfl

/-- After a try that is not open comes the next, as soon as it is over. -/
def PortTry.Leads (host : String) (limit : Nat) (w : World) (earlier later : PortTry) : Prop :=
  ¬ earlier.Opens host w ∧ later.began = earlier.began + if earlier.Hangs host w then limit else 0

theorem isChain_tries (ports : List Port) : ∀ now : Int,
    (w.tries host limit ports now).IsChain (PortTry.Leads host limit w) := by
  induction ports with
  | nil => exact fun _ => .nil
  | cons port rest ih =>
    intro now
    by_cases opens : PortTry.Opens host w ⟨port, now⟩
    · rw [tries_of_opens opens]
      exact .singleton _
    · rw [tries_of_shut opens, List.isChain_cons]
      refine ⟨fun next first => ?_, ih _⟩
      rw [head?_tries] at first
      obtain ⟨other, -, rfl⟩ := Option.map_eq_some_iff.mp first
      refine ⟨opens, ?_⟩
      simp [PortTry.cost]

/-- A check ends with an open port, or it has tried all ports. -/
theorem tries_end (ports : List Port) : ∀ now : Int,
    (∃ last ∈ (w.tries host limit ports now).getLast?, last.Opens host w) ∨
      (w.tries host limit ports now).map PortTry.port = ports ∧
        ∀ t ∈ w.tries host limit ports now, ¬ t.Opens host w := by
  induction ports with
  | nil => exact fun _ => .inr ⟨rfl, fun _ mem => absurd mem List.not_mem_nil⟩
  | cons port rest ih =>
    intro now
    by_cases opens : PortTry.Opens host w ⟨port, now⟩
    · rw [tries_of_opens opens]
      exact .inl ⟨_, rfl, opens⟩
    · rw [tries_of_shut opens]
      rcases ih (now + PortTry.cost host limit w ⟨port, now⟩) with ⟨last, ends, found⟩ | ⟨all, shut⟩
      · refine .inl ⟨last, ?_, found⟩
        rw [Option.mem_def] at ends ⊢
        rw [List.getLast?_cons, ends]
        rfl
      · refine .inr ⟨by rw [List.map_cons, all], ?_⟩
        simp only [List.mem_cons, forall_eq_or_imp]
        exact ⟨opens, shut⟩

theorem portsClosed_eq_false_iff : (portsClosed host limit ports now w).value = false ↔
    ∃ last ∈ (w.tries host limit ports now).getLast?, last.Opens host w := by
  rw [portsClosed_eq]
  constructor
  · intro found
    refine (tries_end ports now).resolve_right fun ⟨_, shut⟩ => ?_
    rw [List.all_eq_false] at found
    obtain ⟨t, tried, opens⟩ := found
    simp [shut t tried] at opens
  · rintro ⟨last, ends, opens⟩
    refine List.all_eq_false.mpr ⟨last, List.mem_of_getLast? ends, ?_⟩
    simp [opens]

theorem portsClosed_eq_true_iff : (portsClosed host limit ports now w).value = true ↔
    (w.tries host limit ports now).map PortTry.port = ports ∧
      ∀ t ∈ w.tries host limit ports now, ¬ t.Opens host w := by
  constructor
  · intro closed
    refine (tries_end ports now).resolve_left fun found => ?_
    rw [portsClosed_eq_false_iff.mpr found] at closed
    cases closed
  · rintro ⟨-, shut⟩
    rw [portsClosed_eq]
    refine List.all_eq_true.mpr fun t tried => ?_
    simp [shut t tried]

/-- A check that finds an open port ends with the connection that this port accepts. It has taken the limit for the ports before
at most. -/
theorem portsClosed_of_found (ports : List Port) : ∀ (now : Int) (w : World),
    let check := portsClosed host limit ports now w
    check.value = false →
      check.cost ≤ limit * (ports.length - 1) ∧
      ∃ port ∈ ports, ∃ endpoint ∈ (w.endpoints? host port).getD [], ∃ earlier,
        check.state.events = w.events ++ earlier ++ [.connected endpoint (now + check.cost) .open] := by
  induction ports with
  | nil =>
    intro now w check found
    cases found
  | cons port rest ih =>
    intro now w
    have tried := PortTry.connect_eq host limit w ⟨port, now⟩
    by_cases opens : PortTry.Opens host w ⟨port, now⟩
    · rw [portsClosed_of_accepted rest (by rw [tried]; exact decide_eq_true opens), tried]
      intro check _
      have no_time : check.cost = 0 := if_neg (PortTry.not_hangs_of_opens opens)
      obtain ⟨endpoint, mem, earlier, ends⟩ := connections_of_open opens
      refine ⟨by omega, port, List.mem_cons_self, endpoint, mem, earlier, ?_⟩
      rw [no_time]
      simp [check, events, PortTry.connections, ends]
    · rw [portsClosed_of_not_accepted rest (by rw [tried]; exact decide_eq_false opens), tried]
      intro check found
      obtain ⟨before, other, mem, endpoint, of_host, earlier, ends⟩ := ih _ _ found
      refine ⟨?_, other, List.mem_cons_of_mem _ mem, endpoint, of_host,
        PortTry.connections host w ⟨port, now⟩ ++ earlier, ?_⟩
      · obtain ⟨further, length⟩ := Nat.exists_eq_succ_of_ne_zero (List.length_pos_of_mem mem).ne'
        have one : PortTry.cost host limit w ⟨port, now⟩ ≤ limit := by
          rw [PortTry.cost]
          split <;> omega
        rw [length, Nat.succ_sub_one] at before
        rw [List.length_cons, Nat.add_sub_cancel, length, Nat.mul_succ]
        show PortTry.cost host limit w ⟨port, now⟩ + _ ≤ _
        omega
      · refine ends.trans ?_
        simp [check, events, Int.add_assoc]

/-! ## Ports of no host, and more ports -/

/-- Where there is nothing to connect to, no port is open. -/
theorem portsClosed_of_unknown (unknown : ∀ port, w.endpoints? host port = none) (ports : List Port) :
    ∀ now : Int, portsClosed host limit ports now w = ⟨true, 0, w⟩ := by
  induction ports with
  | nil => exact fun _ => rfl
  | cons port rest ih =>
    intro now
    have tried : w.connect limit now (w.endpoints? host port) = ⟨false, 0, w⟩ := by
      rw [unknown]
      rfl
    rw [portsClosed_of_not_accepted rest (by rw [tried]), tried]
    simp [ih]

/-- **A check of more ports goes on where the check of the first ended**, if that found them closed. -/
theorem portsClosed_append (ports more : List Port) : ∀ (now : Int) (w : World),
    portsClosed host limit (ports ++ more) now w =
      let first := portsClosed host limit ports now w
      if first.value then
        let further := portsClosed host limit more (now + first.cost) first.state
        { further with cost := first.cost + further.cost }
      else first := by
  induction ports with
  | nil => simp [portsClosed]
  | cons port rest ih =>
    intro now w
    rw [List.cons_append]
    cases accepted : (w.connect limit now (w.endpoints? host port)).value with
    | true =>
      rw [portsClosed_of_accepted _ accepted, portsClosed_of_accepted _ accepted]
      rfl
    | false =>
      rw [portsClosed_of_not_accepted _ accepted, portsClosed_of_not_accepted _ accepted]
      dsimp only
      rw [ih]
      dsimp only
      split
      · simp [Int.add_assoc, Nat.add_assoc]
      · rfl

/-! ## The meaning of a check -/

/-- **A check of ports, port by port.** It tries the ports in order, the first at once and each other as soon as the try before
it is over, which was of a port that is not open. It finds an open port just if the last that it tries is open, and none just if
it tries all and none is. It takes the whole limit for each try that hangs and no other time, and leaves the connections of its
tries behind and nothing else. For a host that stands for no address, or no ports, it finds none at once and tries no
connection. A check of more ports goes on where the check of the first ended, if that found none. -/
theorem portsClosed_port_by_port (host : String) (limit : Nat) (ports : List Port) (now : Int) (w : World) :
    let check := portsClosed host limit ports now w
    (∃ tries : List PortTry,
      tries.map PortTry.port <+: ports ∧
      (∀ first ∈ tries.head?, first.began = now) ∧
      tries.IsChain (PortTry.Leads host limit w) ∧
      (check.value = false ↔ ∃ last ∈ tries.getLast?, last.Opens host w) ∧
      (check.value = true ↔ tries.map PortTry.port = ports ∧ ∀ t ∈ tries, ¬ t.Opens host w) ∧
      check.cost = limit * tries.countP (fun t => t.Hangs host w) ∧
      check.state.events = w.events ++ tries.flatMap fun t => t.connections host w) ∧
    { check.state with log := w.log } = w ∧
    (Ip.read? host.toList = none → w.known? host = none → check = ⟨true, 0, w⟩) ∧
    (ports = [] → check = ⟨true, 0, w⟩) ∧
    ∀ more, portsClosed host limit (ports ++ more) now w =
      if check.value then
        let further := portsClosed host limit more (now + check.cost) check.state
        { further with cost := check.cost + further.cost }
      else check := by
  intro check
  have by_tries : check = _ := portsClosed_eq host limit ports now w
  refine ⟨⟨w.tries host limit ports now, map_port_tries ports now, ?_, isChain_tries ports now,
    portsClosed_eq_false_iff, portsClosed_eq_true_iff, ?_, ?_⟩, ?_, ?_, ?_,
    fun more => portsClosed_append ports more now w⟩
  · intro first begins
    rw [head?_tries] at begins
    obtain ⟨port, -, rfl⟩ := Option.map_eq_some_iff.mp begins
    rfl
  · rw [by_tries]
  · rw [by_tries]
    simp [events]
  · rw [by_tries]
  · intro numberless nameless
    refine portsClosed_of_unknown (fun port => ?_) ports now
    simp [endpoints?, numberless, nameless]
  · rintro rfl
    rfl

/-- Two addresses of a host: the first refuses, fails or holds a listener that is dead from 100 on, the second does not answer
on the first port. The check of three ports takes the limit for the first, passes the second, whose listener is dead by then, and
finds the third open; before that listener's end it would not come to the third. -/
theorem check_of_mixed_ports :
    let front : Ip := .v4 [10, 0, 0, 1]
    let back : Ip := .v4 [10, 0, 0, 2]
    let first : Port := ⟨80, by decide⟩
    let second : Port := ⟨81, by decide⟩
    let third : Port := ⟨82, by decide⟩
    let listener : ProcessState := ⟨7, 7, none, 0, [], [.of front second], some 100⟩
    let network := [(Endpoint.of front first, [(0, .failing .accessDenied)]), (.of back first, [(0, .hang)]),
      (.of back third, [(50, Reachability.open)])]
    let w : World := ⟨[], [listener], network, [("db", [front, back])], 1, [], []⟩
    let check := portsClosed "db" 100 [first, second, third] 0 w
    (check.value, check.cost) = (false, 100) ∧
    (∃ tries : List PortTry, check.state.events = tries.flatMap (fun t => t.connections "db" w) ∧
      tries.countP (fun t => t.Hangs "db" w) = 1 ∧ ∃ last ∈ tries.getLast?, last.Opens "db" w) ∧
    portsClosed "db" 99 ([first, second] ++ [third]) 0 w = portsClosed "db" 99 [first, second] 0 w ∧
    portsClosed "gone" 100 [first] 0 w = ⟨true, 0, w⟩ := by
  intro front back first second third listener network w check
  have answer : (check.value, check.cost) = (false, 100) := by decide +kernel
  obtain ⟨found, took⟩ := Prod.mk.inj answer
  obtain ⟨⟨tries, -, -, -, opened, -, time, attempts⟩, -⟩ :=
    portsClosed_port_by_port "db" 100 [first, second, third] 0 w
  obtain ⟨-, -, -, -, goes_on⟩ := portsClosed_port_by_port "db" 99 [first, second] 0 w
  obtain ⟨-, -, unknown, -⟩ := portsClosed_port_by_port "gone" 100 [first] 0 w
  refine ⟨answer, ⟨tries, attempts, ?_, opened.mp found⟩, ?_, unknown (by decide) (by decide)⟩
  · have one : 100 = 100 * tries.countP (fun t => t.Hangs "db" w) := took.symm.trans time
    omega
  · rw [goes_on [third], if_neg]
    decide +kernel

end World

end PortRelease
