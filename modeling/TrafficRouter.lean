import TrafficRouter.Deployment
import TrafficRouter.Main
import TrafficRouter.Roster
import TrafficRouter.Shutdown
import TrafficRouter.Proofs.Stream
import TrafficRouter.Proofs.Http.Edits
import TrafficRouter.Proofs.Http.Growth
import TrafficRouter.Proofs.Http.FirstLine
import TrafficRouter.Proofs.Http.RequestLine
import TrafficRouter.Proofs.Text.Numeral
import TrafficRouter.Proofs.Text.Utf8
import TrafficRouter.Proofs.Gateway.Admission
import TrafficRouter.Proofs.Server.Accounts
import TrafficRouter.Proofs.Server.Integrity
import TrafficRouter.Proofs.Registry
import TrafficRouter.Proofs.Registries
import TrafficRouter.Proofs.Server.Slots
import TrafficRouter.Proofs.Server.Drain
import TrafficRouter.Proofs.Server.Finality
import TrafficRouter.Proofs.Gateway.Pipelining
import TrafficRouter.Proofs.Gateway.Segmentation
import TrafficRouter.Proofs.Gateway.ReadBack
import TrafficRouter.Proofs.Server.Isolation
import TrafficRouter.Proofs.Server.Validated
import TrafficRouter.Proofs.Server.Conservation
import TrafficRouter.Proofs.Startup
import TrafficRouter.Proofs.Session.Reads
import TrafficRouter.Proofs.Gateway.Tally
import TrafficRouter.Proofs.Session.Tally
import TrafficRouter.Proofs.Roster
import TrafficRouter.Proofs.Gateway.Room
import TrafficRouter.Proofs.Settings.Layers
import TrafficRouter.Proofs.Shutdown.Families
