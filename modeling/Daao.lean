import Daao.AgentStream.ChannelsTheorems
import Daao.Api.AgentExportTheorems
import Daao.Api.AgentList
import Daao.Api.AgentRoutingTheorems
import Daao.Api.AgentVersionsTheorems
import Daao.Api.AuthMiddlewareTheorems
import Daao.Api.ContextDiff
import Daao.Api.DeployFailures
import Daao.Api.LessIdentity
import Daao.Api.PipelinesTheorems
import Daao.Api.RunStreamTheorems
import Daao.Api.Schedules
import Daao.Api.SessionWalk
import Daao.Api.UserHandlersTheorems
import Daao.Auth.RateLimit
import Daao.Buffer.BinarySnapshot
import Daao.Buffer.SnapshotStart
import Daao.Cockpit.RecordingPlayer
import Daao.Cockpit.RunView
import Daao.Cockpit.WebSocketTransport
import Daao.Daemon.Attach
import Daao.Daemon.ContextSyncTheorems
import Daao.Daemon.LocalClientsTheorems
import Daao.Daemon.ProcessOwnership
import Daao.Daemon.Pruning
import Daao.Daemon.Reconnects
import Daao.Daemon.ReplayTheorems
import Daao.Daemon.SelfUpdate
import Daao.Daemon.SessionLimit
import Daao.Daemon.ShutdownTheorems
import Daao.Daemon.StateSyncTheorems
import Daao.Database.BatchWriterTheorems
import Daao.Database.ContextHistory
import Daao.Gateway.ConnectionsTheorems
import Daao.Gateway.EventSequenceTheorems
import Daao.Gateway.OutboundChannels
import Daao.Gateway.ReconciliationTheorems
import Daao.Gateway.Registration
import Daao.Gateway.SessionEndTheorems
import Daao.Gateway.SwitchboardTheorems
import Daao.Ipc.ServeConn
import Daao.Ipc.Sockets
import Daao.License.Manager
import Daao.Lifecycle.IdleTimeout
import Daao.Notification.Pages
import Daao.Notification.SSEHub
import Daao.Recording.PoolTheorems
import Daao.Recording.Writers
import Daao.Satellite.ContextWatcher
import Daao.Satellite.ExtractZip
import Daao.Satellite.Frontmatter
import Daao.Satellite.PiArgs
import Daao.Satellite.PiBridgeTheorems
import Daao.Satellite.PiEnvironment
import Daao.Satellite.WritePaths
import Daao.Secrets.Broker
import Daao.Sessions.Deletion
import Daao.Sessions.LifecycleTheorems
import Daao.Sessions.Resize
import Daao.Transport.CheckOrigin
import Daao.Transport.StreamAccess
import Daao.Transport.TerminalClientTheorems
import Daao.Transport.TerminalInputTheorems
