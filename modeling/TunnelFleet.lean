import TunnelFleet.Forwarding.Forwarder
import TunnelFleet.Main
import TunnelFleet.Ports.Label
import TunnelFleet.Ports.Run
import TunnelFleet.Proofs.Cli.Commuting
import TunnelFleet.Proofs.Cli.Framing
import TunnelFleet.Proofs.Files.Directories
import TunnelFleet.Proofs.Files.Making
import TunnelFleet.Proofs.Files.Writing
import TunnelFleet.Proofs.Forwarding.Lifecycle
import TunnelFleet.Proofs.Forwarding.Silence
import TunnelFleet.Proofs.Json.RoundTrip
import TunnelFleet.Proofs.Ports.Draws
import TunnelFleet.Proofs.Ports.Grants
import TunnelFleet.Proofs.Ports.Labels
import TunnelFleet.Proofs.Ports.Resolution
import TunnelFleet.Proofs.Ports.Season
import TunnelFleet.Proofs.Ports.Settled
import TunnelFleet.Proofs.Ports.Sharing
import TunnelFleet.Proofs.Ports.Survival
import TunnelFleet.Proofs.Storage.Confinement
import TunnelFleet.Proofs.Storage.HostBlocks
import TunnelFleet.Proofs.Storage.Listing
import TunnelFleet.Proofs.Storage.Names
import TunnelFleet.Proofs.Storage.PortMap
import TunnelFleet.Proofs.Storage.Rendering
import TunnelFleet.Proofs.Storage.Settings
import TunnelFleet.Proofs.Storage.WorkspaceFiles
import TunnelFleet.Proofs.Storage.WorkspaceMap
import TunnelFleet.Proofs.Supervision.AliasTunnels
import TunnelFleet.Proofs.Supervision.Bookkeeping
import TunnelFleet.Proofs.Supervision.Cascade
import TunnelFleet.Proofs.Supervision.Collision
import TunnelFleet.Proofs.Supervision.CurrentSession
import TunnelFleet.Proofs.Supervision.DownTunnels
import TunnelFleet.Proofs.Supervision.Exhaustion
import TunnelFleet.Proofs.Supervision.Moves
import TunnelFleet.Proofs.Supervision.Ownership
import TunnelFleet.Proofs.Supervision.PortRequests
import TunnelFleet.Proofs.Supervision.Recheck
import TunnelFleet.Proofs.Supervision.RegistryViews
import TunnelFleet.Proofs.Supervision.Rehearsals
import TunnelFleet.Proofs.Supervision.ResetOutcome
import TunnelFleet.Proofs.Supervision.RetryConservation
import TunnelFleet.Proofs.Supervision.RunContract
import TunnelFleet.Proofs.Supervision.SessionCosts
import TunnelFleet.Proofs.Supervision.SessionEnd
import TunnelFleet.Proofs.Supervision.SessionNumbers
import TunnelFleet.Proofs.Supervision.Settling
import TunnelFleet.Proofs.Supervision.Shutdown
import TunnelFleet.Proofs.Supervision.SignalCoverage
import TunnelFleet.Proofs.Supervision.StartCourse
import TunnelFleet.Proofs.Supervision.Unrest
import TunnelFleet.Proofs.Workspace.Address
import TunnelFleet.Supervision.Drain
import TunnelFleet.Supervision.Rehearsal
import TunnelFleet.Text.Lines
