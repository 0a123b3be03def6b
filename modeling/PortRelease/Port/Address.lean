import PortRelease.Port.Basic
/-!
# Socket addresses in listings

Listings print a socket's address as a host, a colon and a port. A host in square brackets may itself hold
colons and ends at the first closing bracket, which the colon must follow; any other host ends at the last
colon. The port is a numeral below 65536. An empty host and `0.0.0.0` both mean every interface, and read as
`*`; nothing else about the host is checked.
-/

namespace PortRelease

/-- The address of a socket in a listing. -/
structure SocketAddress where
  host : Text
  port : Port
  deriving DecidableEq

namespace SocketAddress

/-- The host that means every interface. -/
def everyInterface : Text := ['*']

/-- The one spelling of a host. -/
def canonicalHost (host : Text) : Text :=
  if host = [] ∨ host = "0.0.0.0".toList then everyInterface else host

/-- Reads an address whose host stands in brackets, after the opening one. -/
def readBracketed? (s : Text) : Option SocketAddress :=
  match Text.splitFirst ']' s with
  | some (host, ':' :: port) => (Port.read? port).map fun port => ⟨'[' :: host ++ [']'], port⟩
  | _ => none

/-- Reads an address whose host has no brackets around it. -/
def readPlain? (s : Text) : Option SocketAddress :=
  match Text.splitLast ':' s with
  | some (host, port) => (Port.read? port).map fun port => ⟨canonicalHost host, port⟩
  | none => none

/-- **Reads a socket address.** -/
def read? : Text → Option SocketAddress
  | '[' :: rest => readBracketed? rest
  | s => readPlain? s

/-- Whether a text is a socket address with this port. -/
def hasPort (port : Port) (s : Text) : Bool := (read? s).any fun address => decide (address.port = port)

end SocketAddress

end PortRelease
