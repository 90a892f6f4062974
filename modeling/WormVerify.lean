import WormVerify.Foundation.Checked
import WormVerify.Foundation.Bytes
import WormVerify.Foundation.Ascending
import WormVerify.Foundation.Transactions
import WormVerify.Foundation.Interleaving
import WormVerify.Foundation.Locking
import WormVerify.Foundation.Sequential
import WormVerify.Wire
import WormVerify.Types.Guardian
import WormVerify.Types.Vaa
import WormVerify.Types.Codec
import WormVerify.OnChain.Codec
import WormVerify.OnChain.Verify
import WormVerify.Types.Verification
import WormVerify.Agreement
import WormVerify.OnChain.State
import WormVerify.OnChain.Program
import WormVerify.OnChain.Effects
import WormVerify.OnChain.Replay
import WormVerify.OnChain.Lineage
import WormVerify.OnChain.Window
import WormVerify.OnChain.Quorum
import WormVerify.OnChain.Intersection
import WormVerify.OnChain.Messages
import WormVerify.Core.Domain
import WormVerify.Core.Engine
import WormVerify.Core.Lifecycle
import WormVerify.Infra.Aggregation
import WormVerify.Infra.Outlines
import WormVerify.Infra.Soundness
import WormVerify.Infra.Concurrency
import WormVerify.Infra.Completion
import WormVerify.Infra.Failures
import WormVerify.Infra.Atomicity
import WormVerify.Infra.Announcements
import WormVerify.Infra.Refinement
import WormVerify.Infra.Expiry
import WormVerify.Infra.Arrival
import WormVerify.Infra.Registry
import WormVerify.Infra.Acknowledgement
import WormVerify.Infra.Postgres
import WormVerify.Usability
import WormVerify.Resilience.Breaker
import WormVerify.Resilience.Tripping
import WormVerify.Resilience.Backoff
import WormVerify.Resilience.Retry
import WormVerify.Foundation.Isolation
import WormVerify.Resilience.Recurrence
import WormVerify.OnChain.Parts
import WormVerify.OnChain.Permanence
import WormVerify.Foundation.Representation
import WormVerify.OnChain.AccountData
import WormVerify.OnChain.Bridge
import WormVerify.OnChain.BridgeRefinement
import WormVerify.Foundation.Hexadecimal
import WormVerify.Types.Text
import WormVerify.Core.Text
import WormVerify.Foundation.Reliance
import WormVerify.Foundation.Simulation
import WormVerify.Infra.Signer
import WormVerify.Api.Schema
import WormVerify.Infra.Reliance
import WormVerify.Infra.Provenance
import WormVerify.Infra.Database
import WormVerify.Api.View
import WormVerify.Api.Contract
import WormVerify.Api.Budget
import WormVerify.Node.Startup
import WormVerify.Node.Publication
import WormVerify.Node.Delivery
import WormVerify.Node.Permits
import WormVerify.Node.Storage
import WormVerify.Node.Availability
import WormVerify.Node.Subscription
import WormVerify.Node.Progress
import WormVerify.Node.Demo
