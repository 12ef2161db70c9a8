import OpcuaGateway.Foundation.Backoff
import OpcuaGateway.Foundation.Binary64
import OpcuaGateway.Foundation.Changes
import OpcuaGateway.Foundation.Coalesce
import OpcuaGateway.Foundation.Csv
import OpcuaGateway.Foundation.Grouping
import OpcuaGateway.Foundation.Json
import OpcuaGateway.Foundation.Ledger
import OpcuaGateway.Foundation.Mailbox
import OpcuaGateway.Foundation.Nulls
import OpcuaGateway.Foundation.OrderedMap
import OpcuaGateway.Foundation.Pages
import OpcuaGateway.Foundation.Precedence
import OpcuaGateway.Foundation.Progress
import OpcuaGateway.Foundation.Refinement
import OpcuaGateway.Foundation.Result
import OpcuaGateway.Foundation.Serde
import OpcuaGateway.Foundation.Text
import OpcuaGateway.Foundation.Transition
import OpcuaGateway.Foundation.Watch
import OpcuaGateway.Gateway.CloudServers
import OpcuaGateway.Gateway.CloudServers.Adoption
import OpcuaGateway.Gateway.CloudServers.Continuity
import OpcuaGateway.Gateway.CloudServers.Deployment
import OpcuaGateway.Gateway.CloudServers.Fingerprint
import OpcuaGateway.Gateway.CloudServers.Listing
import OpcuaGateway.Gateway.CloudServers.Outage
import OpcuaGateway.Gateway.Config
import OpcuaGateway.Gateway.Config.ServerFiles
import OpcuaGateway.Gateway.DeviceTypes
import OpcuaGateway.Gateway.DeviceTypes.Catalogue
import OpcuaGateway.Gateway.DeviceTypes.Fetch
import OpcuaGateway.Gateway.DeviceTypes.Pushed
import OpcuaGateway.Gateway.DeviceTypes.Unreadable
import OpcuaGateway.Gateway.Health
import OpcuaGateway.Gateway.Identity
import OpcuaGateway.Gateway.Main
import OpcuaGateway.Gateway.Operations
import OpcuaGateway.Gateway.Operations.Backlog
import OpcuaGateway.Gateway.Pagination
import OpcuaGateway.Gateway.Process
import OpcuaGateway.Gateway.Process.Registration
import OpcuaGateway.Gateway.Publish
import OpcuaGateway.Gateway.Publish.Alarms
import OpcuaGateway.Gateway.Publish.Batches
import OpcuaGateway.Gateway.Publish.Failures
import OpcuaGateway.Gateway.Publish.Schedules
import OpcuaGateway.Gateway.Publish.Suppression
import OpcuaGateway.Gateway.Publish.Telemetry
import OpcuaGateway.Gateway.Publish.Topics
import OpcuaGateway.Gateway.Publish.Units
import OpcuaGateway.Gateway.Registrations
import OpcuaGateway.Gateway.Retries
import OpcuaGateway.Gateway.ServerTask
import OpcuaGateway.Gateway.ServerTask.Backoff
import OpcuaGateway.Gateway.ServerTask.Binding
import OpcuaGateway.Gateway.ServerTask.Ending
import OpcuaGateway.Gateway.ServerTask.Isolation
import OpcuaGateway.Gateway.ServerTask.Notifications
import OpcuaGateway.Gateway.ServerTask.Portability
import OpcuaGateway.Gateway.ServerTask.Ranges
import OpcuaGateway.Gateway.ServerTask.ReadLoop
import OpcuaGateway.Gateway.ServerTask.Resolution
import OpcuaGateway.Gateway.ServerTask.Routing
import OpcuaGateway.Gateway.ServerTask.Run
import OpcuaGateway.Gateway.ServerTask.Served
import OpcuaGateway.Gateway.ServerTask.Service
import OpcuaGateway.Gateway.ServerTask.SubscriptionLoop
import OpcuaGateway.Gateway.ServerTask.Teardown
import OpcuaGateway.Gateway.ServerTask.Turns
import OpcuaGateway.Gateway.ServerTask.Updates
import OpcuaGateway.Gateway.Supervisor
import OpcuaGateway.Gateway.Supervisor.Admission
import OpcuaGateway.Gateway.Supervisor.Credentials
import OpcuaGateway.Gateway.Supervisor.Fleet
import OpcuaGateway.Gateway.Supervisor.History
import OpcuaGateway.Gateway.Supervisor.Joining
import OpcuaGateway.Gateway.Supervisor.Live
import OpcuaGateway.Gateway.Supervisor.Scoping
import OpcuaGateway.Gateway.Supervisor.Shutdown
import OpcuaGateway.Gateway.Supervisor.Tasks
import OpcuaGateway.Mapping.Constraints
import OpcuaGateway.Mapping.Decode
import OpcuaGateway.Mapping.Decode.Nulls
import OpcuaGateway.Mapping.Model
import OpcuaGateway.Mapping.Namespace
import OpcuaGateway.Mapping.Namespace.NodeIds
import OpcuaGateway.Mapping.Namespace.Renumbering
import OpcuaGateway.Mapping.Namespace.Segments
import OpcuaGateway.Mapping.Payload
import OpcuaGateway.Mapping.Payload.Slots
import OpcuaGateway.Mapping.Resolve
import OpcuaGateway.Mapping.Resolve.Nodes
import OpcuaGateway.Mapping.Resolve.Partition
import OpcuaGateway.Mapping.Resolve.Portability
import OpcuaGateway.Mapping.Source
import OpcuaGateway.Mapping.Source.Diff
import OpcuaGateway.Mapping.Source.Directory
import OpcuaGateway.Mapping.Source.Merge
import OpcuaGateway.Mapping.Value
import OpcuaGateway.OpcuaConn.Connection
import OpcuaGateway.OpcuaConn.Ranges
import OpcuaGateway.OpcuaConn.Subscription
import OpcuaGateway.Tedge.EventLoop
import OpcuaGateway.Tedge.EventLoop.Deadlock
import OpcuaGateway.Tedge.EventLoop.Delivery
import OpcuaGateway.Tedge.Mqtt
import OpcuaGateway.Tedge.Proxy
import OpcuaGateway.Tedge.Proxy.ExternalIds
import OpcuaGateway.Tedge.Topic
import OpcuaGateway.Tedge.Topic.NormalForm
import OpcuaGateway.Tedge.Topic.Words
