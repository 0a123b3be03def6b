import PortRelease.Listing.Connections
import PortRelease.Listing.Pids
import PortRelease.Platform.Tool
/-!
# Windows: `taskkill`, PowerShell and `netstat`

`taskkill` ends the tree by itself; when it fails, what it prints tells why. The listener on a port is asked of
PowerShell, or of `netstat` where there is no PowerShell. What the tools print may be in any encoding, so it is
decoded leniently.
-/

namespace PortRelease.Windows

/-! ## Ending a process tree -/

/-- The arguments with which `taskkill` ends a tree. -/
def taskkillArguments (pid : ProcessId) (mode : Mode) : List String :=
  ["/PID", toString pid.number] ++ (if mode = .forced then ["/F"] else []) ++ ["/T"]

/-- Whether a text has a phrase, in letters of either case. No character beside the ASCII letters has a
letter of such a phrase as its lower case. -/
def mentions (phrase : String) (s : Text) : Bool := Text.contains phrase.toList (s.map Char.toLower)

/-- **The failure that `taskkill` reports** in what it prints. -/
def taskkillFailure (pid : Nat) (printed : Text) : Failure :=
  if mentions "not found" printed || mentions "could not be found" printed then .processNotFound pid
  else if mentions "access is denied" printed || mentions "access denied" printed then .permissionDenied pid
  else .killFailed pid (String.ofList printed.trim)

/-- What a run of `taskkill` comes to. -/
def taskkillAnswer (pid : ProcessId) (output : ToolOutput) : Except Failure Unit :=
  if output.succeeded then .ok ()
  else
    .error (taskkillFailure pid.number
      (Utf8.decodeLenient output.stdout ++ ' ' :: Utf8.decodeLenient output.stderr))

/-- **Ends the process tree below `root`.** -/
def terminate (root : ProcessId) (mode : Mode) (_now : Int) (w : World) : Except Failure Unit × World :=
  match w.launch "taskkill" (taskkillArguments root mode) with
  | (.ok output, w) => (taskkillAnswer root output, w)
  | (.error e, w) => (.error (.cannotRun "taskkill" e), w)

/-! ## Finding a listener -/

/-- The query for the owners of the listeners on a port. -/
def listenQuery (port : Port) : String :=
  s!"Get-NetTCPConnection -LocalPort {port} -State Listen -ErrorAction SilentlyContinue " ++
    "| Select-Object -ExpandProperty OwningProcess"

/-- What an answer of PowerShell says about a port. -/
def queryAnswer (port : Port) (output : ToolOutput) : Except Failure Lookup :=
  if output.succeeded then
    .ok (Lookup.firstOf port (Listing.pids (Utf8.decodeLenient output.stdout)))
  else .error (.commandFailed s!"Get-NetTCPConnection failed: {output.complaint}")

/-- What an answer of `netstat` says about a port. -/
def connectionAnswer (port : Port) (output : ToolOutput) : Except Failure Lookup :=
  if output.succeeded then
    .ok (Lookup.firstOf port (Listing.connectionOwners port (Utf8.decodeLenient output.stdout)))
  else
    .error (.commandFailed
      ("netstat -ano failed: " ++ String.ofList (Utf8.decodeLenient output.stderr)))

/-- Asks `netstat` for the listener on a port. -/
def lookupByConnections (port : Port) (w : World) : Except Failure Lookup × World :=
  match w.launch "netstat" ["-ano"] with
  | (.ok output, w) => (connectionAnswer port output, w)
  | (.error e, w) => (.error (.commandFailed s!"netstat -ano: {e.message}"), w)

/-- **Finds the listener on a port.** -/
def lookup (port : Port) (w : World) : Except Failure Lookup × World :=
  match w.launch "powershell" ["-NoProfile", "-NonInteractive", "-Command", listenQuery port] with
  | (.ok output, w) => (queryAnswer port output, w)
  | (.error e, w) =>
    if e = .noEntry then lookupByConnections port w else (.error (.cannotRun "powershell" e), w)

end PortRelease.Windows
