import PortRelease.Main
import PortRelease.Proofs.Wait.Evaluations
import PortRelease.Proofs.Wait.Parallel
import PortRelease.Proofs.Wait.Timing
import PortRelease.Proofs.Platform.Termination
import PortRelease.Proofs.Platform.RootFate
import PortRelease.Proofs.Release.Orchestration
import PortRelease.Proofs.Release.Duration
import PortRelease.Proofs.Release.Confirmation
import PortRelease.Proofs.Platform.Search
import PortRelease.Proofs.Listing.Listening
import PortRelease.Proofs.Listing.Names
import PortRelease.Proofs.Text.Utf8
import PortRelease.Proofs.Listing.Connections
import PortRelease.Proofs.Platform.Windows
import PortRelease.Proofs.Json.Grammar
import PortRelease.Proofs.Disk.Calls
import PortRelease.Proofs.Json.Layout
import PortRelease.Proofs.Json.Fields
import PortRelease.Proofs.Settings.Reading
import PortRelease.Proofs.Settings.RoundTrip
import PortRelease.Proofs.Settings.Replacement
import PortRelease.Proofs.Settings.Residue
import PortRelease.Proofs.Disk.Directories
import PortRelease.Proofs.Settings.Possible
import PortRelease.Proofs.Settings.Interleaved
import PortRelease.Proofs.Settings.Changes
import PortRelease.Proofs.Command.Effects
import PortRelease.Proofs.Command.Initialisation
import PortRelease.Proofs.Wait.Cut
import PortRelease.Proofs.Network.Address
import PortRelease.Proofs.Platform.Addressees
import PortRelease.Proofs.World.Addresses
import PortRelease.Proofs.Command.ExitCode
import PortRelease.Proofs.Process.Walk
import PortRelease.Proofs.World.PortChecks
import PortRelease.Proofs.Distinct
import PortRelease.Proofs.Platform.Requests
import PortRelease.Proofs.Release.Overrun
import PortRelease.Proofs.Listing.LineByLine
import PortRelease.Proofs.Listing.Scopes
import PortRelease.Proofs.Wait.Removal
import PortRelease.Proofs.Json.Accepted
import PortRelease.Proofs.Json.Values
import PortRelease.Proofs.Command.Times
import PortRelease.Proofs.Command.Timing
