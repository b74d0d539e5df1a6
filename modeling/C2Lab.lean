import C2Lab.Core.Effects
import C2Lab.Core.Owned
import C2Lab.Core.Sessions
import C2Lab.Core.ExerciseLife
import C2Lab.Core.Keys
import C2Lab.Core.OperationKeys
import C2Lab.Core.Atomic
import C2Lab.Core.Bounds
import C2Lab.Core.AuditTrail
import C2Lab.Core.Delivery
import C2Lab.Core.Contained
import C2Lab.Core.Isolated
import C2Lab.Core.ExerciseHistory
import C2Lab.Core.Detection
import C2Lab.Core.Rejection
import C2Lab.Core.Retry
import C2Lab.Core.Sources
import C2Lab.Core.Retention
import C2Lab.Core.Tombstones
import C2Lab.Core.NodeRetention
import C2Lab.Core.NoteLimit
import C2Lab.Core.OperationRoom
import C2Lab.Node.Client
import C2Lab.Node.Executor
import C2Lab.Node.Agreement
import C2Lab.Documented
import C2Lab.Core.Expired
import C2Lab.Core.Heard
import C2Lab.Auth.Registry
import C2Lab.Auth.Change
import C2Lab.Auth.Reference
import C2Lab.Auth.Revocation
import C2Lab.Server.Post
import C2Lab.Server.Dispatch
import C2Lab.Workspace.Files
import C2Lab.Workspace.Playbooks
import C2Lab.Workspace.Layout
import C2Lab.Workspace.Artifacts
import C2Lab.Workspace.Execution
import C2Lab.Workspace.Session
import C2Lab.Workspace.Rollback
import C2Lab.Lib.Alike
import C2Lab.Twin.Secrets
import C2Lab.Twin.Attribution
import C2Lab.Twin.Redacted
import C2Lab.Twin.Payload
import C2Lab.Dashboard.Values
import C2Lab.Dashboard.TaskSelection
import C2Lab.Dashboard.Text
import C2Lab.Dashboard.Composer
import C2Lab.Dashboard.Graph
import C2Lab.Dashboard.Topology
import C2Lab.Dashboard.Catalog
import C2Lab.Dashboard.Attack
import C2Lab.Dashboard.AttackIds
import C2Lab.Dashboard.AttackGraph
import C2Lab.Dashboard.Synced
import C2Lab.Dashboard.GraphModels
import C2Lab.Server.SyncQuery
import C2Lab.Dashboard.GraphShape
import C2Lab.Dashboard.Pruned
import C2Lab.Lib.Feed
import C2Lab.Core.Histories
import C2Lab.Dashboard.Refresh
import C2Lab.Dashboard.Convergence
import C2Lab.Core.Taking
import C2Lab.Node.Loop
import C2Lab.Node.Serving
import C2Lab.Node.Exchange
import C2Lab.Node.Protocol
import C2Lab.Node.Outcome
import C2Lab.Monitor.Runtime
import C2Lab.Monitor.Told
import C2Lab.Monitor.Ready
import C2Lab.Server.Metrics
import C2Lab.Server.AccessLog
import C2Lab.Dashboard.Rounds
