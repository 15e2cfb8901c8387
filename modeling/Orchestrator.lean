import Orchestrator.KeepAlive.Delivery
import Orchestrator.KeepAlive.Expiry
import Orchestrator.KeepAlive.Liveness
import Orchestrator.KeepAlive.Wait
import Orchestrator.Server.Lifecycle
import Orchestrator.Server.KeepAliveHandle
import Orchestrator.Server.Notifications
import Orchestrator.Server.AsyncSend
import Orchestrator.Server.Broadcast
import Orchestrator.State.Convergence
import Orchestrator.Registry.Refinement
import Orchestrator.Registry.Boot
import Orchestrator.Commands.Dataset
import Orchestrator.Commands.Saves
import Orchestrator.Messages.Regular
import Orchestrator.Messages.Answers
import Orchestrator.Messages.Encoding
import Orchestrator.Messages.Credentials
import Orchestrator.Messages.Listing
import Orchestrator.Messages.Identifiers
import Orchestrator.Messages.Semantic
import Orchestrator.Messages.Frames
import Orchestrator.Messages.Bounds
import Orchestrator.Messages.Durable
import Orchestrator.Messages.ReplyText
import Orchestrator.Messages.Hollow
import Orchestrator.Messages.NodeIds
import Orchestrator.Messages.Pairing
import Orchestrator.Messages.Parsing
import Orchestrator.Messages.CapabilityIds
import Orchestrator.Messages.Refusal
import Orchestrator.Events.Mirror
import Orchestrator.Events.DatasetReport
import Orchestrator.Events.Scalars
import Orchestrator.Secrets.Events
import Orchestrator.System.Conversation
import Orchestrator.System.Operations
import Orchestrator.System.Sensors
import Orchestrator.Server.Once
import Orchestrator.System.Requests
import Orchestrator.System.Boot
import Orchestrator.System.Service
import Orchestrator.System.Coherence
