import PortRelease.Proofs.Network.Address
import PortRelease.Proofs.Wait.Evaluations
import PortRelease.Proofs.World.Connections
/-!
# A host and a port, and the address that stands for them

A port of a host is named by the host and the port, or by one address that has both in it. The two are read apart: a host is
tried as an address of its own before it is taken for a name, and an address as an endpoint before the name in front of its
last colon is looked up. They come to the same endpoints in every world (`endpointsOf?_eq`).

So a check that the address is not healthy and a check that the port is closed are one condition
(`unhealthy_eq_portsClosed`), and the two ways to wait for a closed socket are one (`waits_for_closed_socket_agree`).
-/

namespace PortRelease

/-- **An address stands for a port of a host.** A host that is an address of version 6 stands in brackets. One of version 4
stands as it is, and so does a name, which has neither a colon nor an opening bracket. -/
inductive StandsFor (host : String) (port : Port) : String → Prop where
  | v4 {numbers : List Nat} (literal : Ip.read? host.toList = some (.v4 numbers)) : StandsFor host port s!"{host}:{port}"
  | v6 {groups : List Nat} (literal : Ip.read? host.toList = some (.v6 groups)) : StandsFor host port s!"[{host}]:{port}"
  | name (nonempty : host ≠ "") (no_colon : ':' ∉ host.toList) (no_bracket : '[' ∉ host.toList) :
    StandsFor host port s!"{host}:{port}"

namespace StandsFor

theorem toList_plain (host : String) (port : Port) :
    s!"{host}:{port}".toList = host.toList ++ ':' :: Numeral.render port.number := by
  simp [toString, Numeral.render]

theorem toList_bracketed (host : String) (port : Port) :
    s!"[{host}]:{port}".toList = '[' :: host.toList ++ ']' :: ':' :: Numeral.render port.number := by
  simp [toString, Numeral.render]

end StandsFor

namespace World

variable {host address : String} {port : Port}

theorem endpointsOf?_of_endpoint {endpoint : Endpoint} (reads : Endpoint.read? address.toList = some endpoint) (w : World) :
    w.endpointsOf? address = some [endpoint] := by
  rw [endpointsOf?, reads]

theorem endpoints?_of_literal {ip : Ip} (literal : Ip.read? host.toList = some ip) (w : World) :
    w.endpoints? host port = some [.of ip port] := by
  rw [endpoints?, literal]

/-- A name that the world is asked for, with a port behind it. -/
theorem endpointsOf?_of_name (name : Ip.read? host.toList = none) (no_colon : ':' ∉ host.toList)
    (no_bracket : '[' ∉ host.toList) (w : World) :
    w.endpointsOf? s!"{host}:{port}" = (w.known? host).map fun ips => ips.map (Endpoint.of · port) := by
  have parts : Text.splitLast ':' (host.toList ++ ':' :: Numeral.render port.number) =
      some (host.toList, Numeral.render port.number) :=
    Text.splitLast_append (Numeral.not_mem_render (by decide) _) _
  rw [endpointsOf?, StandsFor.toList_plain, Endpoint.read?_of_name name no_colon no_bracket]
  simp only [parts, Option.bind_eq_bind, Option.bind_some, Port.read?_render, String.ofList_toList]
  cases w.known? host with
  | none => rfl
  | some ips => rfl

/-- **An address leads where the host and the port lead that it stands for.** -/
theorem endpointsOf?_eq (stands : StandsFor host port address) (w : World) :
    w.endpointsOf? address = w.endpoints? host port := by
  have of_v4 {numbers : List Nat} (literal : Ip.read? host.toList = some (.v4 numbers)) :
      w.endpointsOf? s!"{host}:{port}" = w.endpoints? host port := by
    have reads : Endpoint.read? s!"{host}:{port}".toList = some (.of (.v4 numbers) port) := by
      rw [StandsFor.toList_plain, Endpoint.read?_v4 literal]
    rw [endpointsOf?_of_endpoint reads, endpoints?_of_literal literal]
  cases stands with
  | v4 literal => exact of_v4 literal
  | v6 literal =>
    rename_i groups
    have reads : Endpoint.read? s!"[{host}]:{port}".toList = some (.of (.v6 groups) port) := by
      rw [StandsFor.toList_bracketed, Endpoint.read?_v6 literal]
    rw [endpointsOf?_of_endpoint reads, endpoints?_of_literal literal]
  | name nonempty no_colon no_bracket =>
    cases reads : Ip.read? host.toList with
    | none => rw [endpointsOf?_of_name reads no_colon no_bracket, endpoints?, reads]
    | some ip =>
      cases ip with
      | v4 numbers => exact of_v4 reads
      | v6 groups =>
        have read_v6 := Ip.readV6_of_read? reads
        rw [Network.readV6_of_no_colon no_colon] at read_v6
        cases read_v6

/-- **An address is unhealthy just when the port is closed that it stands for**, in every state and at every instant: the
answers, the time they take and the connections they make are the same. -/
theorem unhealthy_eq_portsClosed (stands : StandsFor host port address) (limit : Nat) :
    Probe.unhealthy (tcpHealth limit) address = portsClosed host limit [port] := by
  funext now w
  have tried : tcpHealth limit address now w = w.connect limit now (w.endpoints? host port) := by
    rw [tcpHealth, endpointsOf?_eq stands]
  rw [Probe.unhealthy, Probe.not, tried]
  cases accepted : (w.connect limit now (w.endpoints? host port)).value with
  | true =>
    rw [portsClosed_of_accepted [] accepted]
    simp only [Bool.not_true]
  | false =>
    rw [portsClosed_of_not_accepted [] accepted]
    simp only [Bool.not_false]
    rfl

end World

/-- **The two ways to wait for a closed socket are one.** Let an address stand for a port of a host. To wait until the address
is unhealthy and to wait until the port is closed come to the same outcome from whatever state they start: the same answer, at
the same instant, after the same evaluations and with the same connections. One check finds the address healthy just when the
other finds the port open, and it takes the same time and makes the same connections. -/
theorem waits_for_closed_socket_agree {host address : String} {port : Port} (stands : StandsFor host port address)
    (limit : Nat) (schedule : Schedule) (now : Int) (w : World) :
    waitUntil (.unhealthy (World.tcpHealth limit) address) schedule now w =
        waitUntil (World.portsClosed host limit [port]) schedule now w ∧
      let health := World.tcpHealth limit address now w
      let closed := World.portsClosed host limit [port] now w
      (health.value = true ↔ closed.value = false) ∧ health.cost = closed.cost ∧ health.state = closed.state := by
  rw [← World.unhealthy_eq_portsClosed stands]
  refine ⟨rfl, ?_, rfl, rfl⟩
  show _ = true ↔ (!(World.tcpHealth limit address now w).value) = false
  rw [Bool.not_eq_false']

/-- A listener on the second address of a name that is dead from 50 on: by name and by its own address, both ways to wait see
its end at 60, and at once where it never was. -/
theorem dying_listener_seen_both_ways :
    let port : Port := ⟨8080, by decide⟩
    let loopback : Ip := .v6 [0, 0, 0, 0, 0, 0, 0, 1]
    let listener : ProcessState := ⟨100, 100, none, 0, [], [.of loopback port], some 50⟩
    let w : World := ⟨[], [listener], [], [("localhost", [.v4 [127, 0, 0, 1], loopback])], 1, [], []⟩
    let finished (address : String) : Int :=
      (waitUntil (.unhealthy (World.tcpHealth 500) address) ⟨20, 200, none⟩ 0 w).finished
    (StandsFor "localhost" port "localhost:8080" ∧ finished "localhost:8080" = 60) ∧
    (StandsFor "::1" port "[::1]:8080" ∧ finished "[::1]:8080" = 60) ∧
    (StandsFor "127.0.0.1" port "127.0.0.1:8080" ∧ finished "127.0.0.1:8080" = 0) := by
  intro port loopback listener w finished
  have spelled {host address address' : String} (same : address = address') (stands : StandsFor host port address) :
      StandsFor host port address' := same ▸ stands
  have by_name : StandsFor "localhost" port "localhost:8080" :=
    spelled (by decide) (.name (by decide) (by decide) (by decide))
  have by_v6 : StandsFor "::1" port "[::1]:8080" :=
    spelled (by decide) (.v6 (show Ip.read? "::1".toList = some loopback by decide))
  have by_v4 : StandsFor "127.0.0.1" port "127.0.0.1:8080" :=
    spelled (by decide) (.v4 (show Ip.read? "127.0.0.1".toList = some (.v4 [127, 0, 0, 1]) by decide))
  -- the wait for the port, evaluation by evaluation
  have closes {host address : String} (stands : StandsFor host port address) (n : Nat) {t : Int}
      (ends : Wait.SettledAt (World.portsClosed host 500 [port]) ⟨20, 200, none⟩ 0 w n)
      (last : (Wait.evaluation (World.portsClosed host 500 [port]) ⟨20, 200, none⟩ 0 w n).ended
        (World.portsClosed host 500 [port]) = t) : finished address = t := by
    obtain ⟨together, -⟩ := waits_for_closed_socket_agree stands 500 ⟨20, 200, none⟩ 0 w
    exact (congrArg Outcome.finished together).trans ((congrArg Outcome.finished (Wait.waitUntil_eq ends)).trans last)
  refine ⟨⟨by_name, closes by_name 3 ⟨?_, ?_⟩ ?_⟩, ⟨by_v6, closes by_v6 3 ⟨?_, ?_⟩ ?_⟩, by_v4, closes by_v4 0 ⟨?_, ?_⟩ ?_⟩
  all_goals decide +kernel

end PortRelease
