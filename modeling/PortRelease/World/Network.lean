import PortRelease.Failure
import PortRelease.Wait.Awaited
import PortRelease.World.Processes
/-!
# Connecting and listening

An endpoint that a live process listens on is open; any other answers by its timeline, and refuses where that
says nothing. Connecting tries the addresses of a host in order until one is open. All of them share one time
limit, and only an endpoint that does not answer takes time: the whole limit, so no later address is tried.

A host is an address in its own right or a name that the world knows.
-/

namespace PortRelease

namespace Timeline

/-- What holds at an instant: the last entry that has begun. -/
def at? (now : Int) (timeline : Timeline) : Option Reachability :=
  ((timeline.filter fun entry => decide (entry.1 ≤ now)).getLast?).map Prod.snd

end Timeline

namespace World

/-- What a connection to an endpoint meets at an instant. -/
def reach (now : Int) (endpoint : Endpoint) (w : World) : Reachability :=
  if w.processes.any fun p => p.aliveAt now && p.sockets.contains endpoint then .open
  else ((w.network.lookup endpoint).bind (Timeline.at? now)).getD .refused

/-- The addresses that the world knows by a name. -/
def known? (name : String) (w : World) : Option (List Ip) := w.hosts.lookup name

/-- The endpoints of a port on a host. -/
def endpoints? (host : String) (port : Port) (w : World) : Option (List Endpoint) :=
  match Ip.read? host.toList with
  | some ip => some [.of ip port]
  | none => (w.known? host).map fun ips => ips.map (Endpoint.of · port)

/-- The endpoints that an address stands for: itself if it is one, else those of the host before its last
colon, which must be a name. -/
def endpointsOf? (address : String) (w : World) : Option (List Endpoint) :=
  match Endpoint.read? address.toList with
  | some endpoint => some [endpoint]
  | none => do
    let (name, port) ← Text.splitLast ':' address.toList
    let port ← Port.read? port
    return (← w.known? (String.ofList name)).map (Endpoint.of · port)

/-- **Connects to the first open endpoint**, within `limit` milliseconds. -/
def connectFirst (limit : Nat) (now : Int) : List Endpoint → World → Timed World Bool
  | [], w => ⟨false, 0, w⟩
  | endpoint :: rest, w =>
    let met := w.reach now endpoint
    let after := w.record (.connected endpoint now met)
    match met with
    | .open => ⟨true, 0, after⟩
    | .hang => ⟨false, limit, after⟩
    | .refused => connectFirst limit now rest after
    | .failing _ => connectFirst limit now rest after

/-- Connects to the endpoints of a host that may have none. -/
def connect (limit : Nat) (now : Int) (endpoints? : Option (List Endpoint)) (w : World) : Timed World Bool :=
  connectFirst limit now (endpoints?.getD []) w

/-- An address is healthy if it accepts a connection within `limit` milliseconds. -/
def tcpHealth (limit : Nat) : HealthCheck World := fun address now w =>
  w.connect limit now (w.endpointsOf? address)

/-- **No port of a host accepts a connection.** The ports are tried in order, each for at most `limit`
milliseconds, until one does. -/
def portsClosed (host : String) (limit : Nat) : List Port → Probe World
  | [], _, w => ⟨true, 0, w⟩
  | port :: rest, now, w =>
    let tried := w.connect limit now (w.endpoints? host port)
    if tried.value then ⟨false, tried.cost, tried.state⟩
    else
      let later := portsClosed host limit rest (now + tried.cost) tried.state
      { later with cost := tried.cost + later.cost }

/-! ## Listening -/

/-- Why an endpoint cannot be listened on, if it cannot. -/
def bindRefusal (now : Int) (endpoint : Endpoint) (w : World) : Option Errno :=
  match w.reach now endpoint with
  | .refused => none
  | .failing error => some error
  | .open => some .addressInUse
  | .hang => some .addressInUse

/-- Listens on the first endpoint that allows it; `fault` is what is reported if none does. -/
def listenFirst (now : Int) (fault : IoFault) : List Endpoint → World → Except IoFault Endpoint × World
  | [], w => (.error fault, w)
  | endpoint :: rest, w =>
    let refusal := w.bindRefusal now endpoint
    let after := w.record (.bound endpoint refusal)
    match refusal with
    | none => (.ok endpoint, after)
    | some error => listenFirst now (.system error) rest after

/-- **Listens on a port of a host.** -/
def listen (now : Int) (host : String) (port : Port) (w : World) : Except IoFault Endpoint × World :=
  match w.endpoints? host port with
  | some endpoints => listenFirst now .noAddress endpoints w
  | none => (.error .unknownHost, w)

/-- Accepts connections until that fails, and why it fails; after the known arrivals there are too many open
files. -/
def acceptAll : List (Option Errno) → World → Errno × World
  | [], w => (.tooManyOpen, w.record (.accepted (some .tooManyOpen)))
  | some error :: _, w => (error, w.record (.accepted (some error)))
  | none :: rest, w => acceptAll rest (w.record (.accepted none))

end World

end PortRelease
