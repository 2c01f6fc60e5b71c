import HashBurst.Accelerator.Collect
import HashBurst.Accelerator.Derailed
import HashBurst.Accelerator.Normalize
import HashBurst.Agent.Ipfs
import HashBurst.Agent.Jobs
import HashBurst.Agent.Unpinned
import HashBurst.Aggregator.Adapter
import HashBurst.Aggregator.Aggregate
import HashBurst.Aggregator.Interference
import HashBurst.Aggregator.Isolation
import HashBurst.Aggregator.Provenance
import HashBurst.Files.Capacity
import HashBurst.Files.Durability
import HashBurst.Files.Keystore
import HashBurst.Files.Multipart
import HashBurst.Files.RecoveryKey
import HashBurst.Files.Uploads
import HashBurst.Ha.Agent
import HashBurst.Ha.Bridge
import HashBurst.Ha.Config
import HashBurst.Ha.Discipline
import HashBurst.Ha.Election
import HashBurst.Ha.Exclusion
import HashBurst.Ha.Leases
import HashBurst.Ha.Loop
import HashBurst.Ha.Restart
import HashBurst.Ha.Steps
import HashBurst.Ha.System
import HashBurst.Ha.Voter
import HashBurst.Ha.Votes
import HashBurst.Lib.Base64
import HashBurst.Lib.Batch
import HashBurst.Lib.Binary64
import HashBurst.Lib.Bytes
import HashBurst.Lib.Decimal
import HashBurst.Lib.Joint
import HashBurst.Lib.JsonAscii
import HashBurst.Lib.JsonFits
import HashBurst.Lib.JsonText
import HashBurst.Lib.Knowledge
import HashBurst.Lib.Lease
import HashBurst.Lib.Machine
import HashBurst.Lib.Permits
import HashBurst.Lib.Prog
import HashBurst.Lib.Protocol
import HashBurst.Lib.PyJson
import HashBurst.Lib.PyString
import HashBurst.Lib.PyValue
import HashBurst.Lib.Split
import HashBurst.Lib.Table
import HashBurst.Lib.Threads
import HashBurst.Lib.TtlCache
import HashBurst.Master.Node
import HashBurst.Master.Saved
import HashBurst.Master.Segments
import HashBurst.Master.Settings
import HashBurst.Master.Upstream
import HashBurst.Replication.Access
import HashBurst.Replication.Authorizing
import HashBurst.Replication.Barrier
import HashBurst.Replication.Calls
import HashBurst.Replication.Controller
import HashBurst.Replication.Deliveries
import HashBurst.Replication.Effects
import HashBurst.Replication.Frames
import HashBurst.Replication.FullMode
import HashBurst.Replication.Health
import HashBurst.Replication.Heartbeat
import HashBurst.Replication.Leasing
import HashBurst.Replication.Lifecycle
import HashBurst.Replication.Moves
import HashBurst.Replication.Ops
import HashBurst.Replication.Pairing
import HashBurst.Replication.Placement
import HashBurst.Replication.Planner
import HashBurst.Replication.Policy
import HashBurst.Replication.Reconcile
import HashBurst.Replication.Recovery
import HashBurst.Replication.RefCount
import HashBurst.Replication.Released
import HashBurst.Replication.Repeat
import HashBurst.Replication.Reregister
import HashBurst.Replication.Retention
import HashBurst.Replication.Schema
import HashBurst.Replication.Store
import HashBurst.Replication.Stranded
import HashBurst.Replication.Trim
import HashBurst.Replication.TrimSafety
import HashBurst.Replication.World
import HashBurst.Tep.Binding
import HashBurst.Tep.Daemon
import HashBurst.Tep.Dispatcher
import HashBurst.Tep.Dispatches
import HashBurst.Tep.Envelope
import HashBurst.Tep.Failover
import HashBurst.Tep.Grammar
import HashBurst.Tep.HaGate
import HashBurst.Tep.Messages
import HashBurst.Tep.Nonces
import HashBurst.Tep.Packet
import HashBurst.Tep.Peers
import HashBurst.Tep.Process
import HashBurst.Tep.Receive
import HashBurst.Tep.Reconciliation
import HashBurst.Tep.Registry
import HashBurst.Tep.Relayed
import HashBurst.Tep.Replay
import HashBurst.Tep.RoundTrip
import HashBurst.Tep.Survival
import HashBurst.Tep.Waiting
import HashBurst.Tep.Wrapping
