import Dispatch.Protocol
import Dispatch.Foundation.Execution
import Dispatch.Foundation.OrderedMap
import Dispatch.Coordinator.State
import Dispatch.Coordinator.WorkerHub
import Dispatch.Coordinator.Routes
import Dispatch.Coordinator.Machine
import Dispatch.Coordinator.Effects
import Dispatch.Coordinator.JobBoard
import Dispatch.Coordinator.BoardSimulation
import Dispatch.Coordinator.Lifecycle
import Dispatch.Coordinator.Payouts
import Dispatch.Coordinator.RetryLoops
import Dispatch.Coordinator.Privacy
import Dispatch.Coordinator.Receipts
import Dispatch.Coordinator.Attribution
import Dispatch.Coordinator.Ownership
import Dispatch.Bolt.Conservation
import Dispatch.Bolt.Payment
import Dispatch.Bolt.Retries
import Dispatch.Coordinator.Heartbeats
import Dispatch.Coordinator.Connections
import Dispatch.Bolt.Solvency
import Dispatch.Coordinator.Assignments
import Dispatch.Foundation.JsonValue
import Dispatch.Foundation.Sqlite
import Dispatch.Coordinator.TrustRouter
import Dispatch.Coordinator.TrustPairings
import Dispatch.Coordinator.Listener
import Dispatch.Coordinator.Exceptions
import Dispatch.Coordinator.Frames
import Dispatch.Foundation.Encoding
import Dispatch.Foundation.JsValue
import Dispatch.Worker.ReceiptSigner
import Dispatch.Worker.OutputHash
import Dispatch.Coordinator.Pricing
import Dispatch.Foundation.Base58
import Dispatch.Router.ComputeRouter
import Dispatch.Router.Fallback
import Dispatch.Stakes
import Dispatch.Coordinator.MonadQueue
import Dispatch.Coordinator.SerialWrites
import Dispatch.Mobile.Attestation
import Dispatch.Mobile.Disconnect
import Dispatch.Mobile.JobHistory
import Dispatch.Worker.Startup
import Dispatch.Foundation.Selection
import Dispatch.Foundation.Procedure
import Dispatch.Coordinator.Matching
import Dispatch.Coordinator.Merit
import Dispatch.Coordinator.Server
import Dispatch.Coordinator.ServerListener
import Dispatch.Coordinator.ServerEffects
import Dispatch.Coordinator.Completion
import Dispatch.Coordinator.Shutdown
import Dispatch.Coordinator.CommitRouter
import Dispatch.Coordinator.ServerSteps
import Dispatch.Coordinator.Claiming
import Dispatch.Coordinator.ActiveJobs
import Dispatch.Coordinator.Settlement
import Dispatch.Coordinator.Waiting
import Dispatch.Coordinator.PrivateJobs
import Dispatch.Coordinator.StoredReceipts
import Dispatch.Foundation.MapIteration
import Dispatch.Coordinator.Pruning
import Dispatch.Bolt.Thresholds
import Dispatch.Mobile.JobCalls
import Dispatch.Mobile.Ledger
import Dispatch.Mobile.Replies
import Dispatch.Mobile.Earnings
import Dispatch.Foundation.Binary64
import Dispatch.Foundation.JsWords
import Dispatch.Worker.TaskExecutors
import Dispatch.Foundation.Regex
import Dispatch.Foundation.JsonWeight
import Dispatch.Foundation.Borsh
import Dispatch.Foundation.ProgramAddress
import Dispatch.Foundation.Url
import Dispatch.Worker.JsonBlocks
import Dispatch.Worker.Extraction
import Dispatch.Chain.ReceiptAnchor
import Dispatch.Coordinator.ReceiptAnchorer
import Dispatch.Chain.IdentityRegistry
import Dispatch.Cli.CoordinatorClient
import Dispatch.Cli.AgentRun
import Dispatch.Worker.Jobs
import Dispatch.Coordinator.Told
import Dispatch.Coordinator.RowResults
import Dispatch.Deployment.Process
import Dispatch.Deployment.Network
import Dispatch.Deployment.Results
import Dispatch.Deployment.Custody
import Dispatch.Deployment.Session
import Dispatch.Deployment.Client
import Dispatch.Deployment.OneJob
import Dispatch.Deployment.Payments
