import DataNexus.Lib.Text
import DataNexus.Lib.Run
import DataNexus.Model
import DataNexus.Stream.Rows
import DataNexus.Stream.Failure
import DataNexus.Tickets.Store
import DataNexus.Tickets.Runs
import DataNexus.Pdp.Policy
import DataNexus.Pdp.Authorize
import DataNexus.Session
import DataNexus.Backend.Connector
import DataNexus.Backend.Execute
import DataNexus.Backend.Frame
import DataNexus.Backend.Lease
import DataNexus.Backend.Client
import DataNexus.Backend.Occupied
import DataNexus.Backend.OneConnection
import DataNexus.Backend.Owned
import DataNexus.Backend.Blocks
import DataNexus.Backend.Coherence
import DataNexus.Frontend.PostgreSql
import DataNexus.Engine.Cursor
import DataNexus.Engine.Gateway
import DataNexus.Engine.PostgreSql
import DataNexus.Backend.Writes
import DataNexus.Engine.Trace
import DataNexus.Engine.Mediation
import DataNexus.Engine.Routing
import DataNexus.Engine.Rewrite
import DataNexus.Engine.Relay
import DataNexus.Tickets.DualControl
import DataNexus.Tickets.File
import DataNexus.Tickets.Shared
import DataNexus.Lib.Reload
import DataNexus.Vault.Store
import DataNexus.State.Install
import DataNexus.Pdp.Monotone
import DataNexus.Pdp.Snapshot
import DataNexus.Engine.Control
import DataNexus.Backend.MySql
import DataNexus.Backend.MySqlSession
import DataNexus.Backend.Commit
import DataNexus.Frontend.MySql
import DataNexus.Engine.MySql
import DataNexus.Engine.Prepared
import DataNexus.Extract.Sql
import DataNexus.Extract.Walk
import DataNexus.Extract.Columns
import DataNexus.Extract.MySql
import DataNexus.Wire.Relay
import DataNexus.Wire.Replies
import DataNexus.Wire.Aligned
import DataNexus.Extract.MySqlColumns
import DataNexus.Dialect.Structured
import DataNexus.Dialect.PostgreSql
import DataNexus.Dialect.MySql
import DataNexus.Dialect.Classes
import DataNexus.Dialect.ReadOnly
import DataNexus.Pdp.Comments
import DataNexus.Lib.Poll
import DataNexus.Stream.Obligations
import DataNexus.Stream.Polled
import DataNexus.Stream.Streaming
import DataNexus.Stream.Paging
import DataNexus.Engine.Portals
import DataNexus.Engine.Plugins
import DataNexus.Engine.Resources
import DataNexus.Engine.Refusal
import DataNexus.Engine.RowCap
import DataNexus.Backend.Answers
import DataNexus.Frontend.Replies
import DataNexus.Engine.Extended
import DataNexus.Engine.Answered
import DataNexus.Lib.Scan
import DataNexus.Dialect.DangerousSql
import DataNexus.Dialect.DangerousMySql
import DataNexus.Dialect.DangerousPostgreSql
import DataNexus.Sharding.Rule
import DataNexus.Sharding.Sql
import DataNexus.Sharding.Meta
import DataNexus.Sharding.Insert
import DataNexus.Sharding.Rewrite
import DataNexus.Sharding.Condition
import DataNexus.Sharding.Prune
import DataNexus.Discovery.Reconcile
import DataNexus.Discovery.Replicas
import DataNexus.Discovery.Dispatch
import DataNexus.Discovery.Failover
import DataNexus.Discovery.RuleMatch
import DataNexus.Discovery.LoadBalance
import DataNexus.Discovery.RoundRobin
import DataNexus.Vault.Tokens
import DataNexus.Vault.Lifecycle
import DataNexus.Audit.Pipeline
import DataNexus.Audit.Isolation
import DataNexus.Legacy.Combine
import DataNexus.Sharding.Rows
import DataNexus.Lib.Joined
import DataNexus.Sharding.InsertRows
import DataNexus.Sharding.Placement
import DataNexus.Backend.Numeric
import DataNexus.Engine.Permits
import DataNexus.Lib.Blocks
import DataNexus.Wire.Packets
import DataNexus.Lib.Layout
import DataNexus.Lib.Utf8
import DataNexus.Wire.Messages
import DataNexus.Wire.Grammar
import DataNexus.Wire.Startup
import DataNexus.Frontend.Flags
import DataNexus.Proxy.ConnPool
import DataNexus.Frontend.Temporal
import DataNexus.Tickets.Fingerprint
import DataNexus.Frontend.BinaryRows
import DataNexus.Backend.MySqlResponse
import DataNexus.Backend.MySqlStreams
import DataNexus.Backend.NumericLayout
import DataNexus.Pdp.TimeRules
import DataNexus.Pdp.TimeWindows
import DataNexus.Stream.Watermark
import DataNexus.Backend.Params
import DataNexus.Lib.SqlText
import DataNexus.Lib.Substitute
import DataNexus.Lib.Glob
import DataNexus.Backend.Placeholders
import DataNexus.Pdp.SelectList
import DataNexus.Pdp.Clauses
import DataNexus.Pdp.RowFilter
import DataNexus.Pdp.MaskedColumns
import DataNexus.Pdp.Globs
import DataNexus.Stream.Masks
import DataNexus.Wire.ColumnDefinitions
import DataNexus.Sharding.Lookup
import DataNexus.Engine.Fetch
import DataNexus.Legacy.MergeStream
import DataNexus.State.Restart
