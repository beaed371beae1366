import ClusterWire.Ident.Generator
import ClusterWire.Json.Access
import ClusterWire.Main
import ClusterWire.Proofs.Dispatch.Accounting
import ClusterWire.Proofs.Dispatch.Binding
import ClusterWire.Proofs.Frame.RoundTrip
import ClusterWire.Proofs.Frame.Stream
import ClusterWire.Proofs.Invocation.History
import ClusterWire.Reaper
import ClusterWire.Proofs.Session.Bindings
import ClusterWire.Proofs.Session.Teardown
import ClusterWire.Proofs.Connection.Provenance
import ClusterWire.Proofs.Connection.LastLooks
import ClusterWire.Proofs.Invocation.Series
import ClusterWire.Proofs.Relay.Stages
import ClusterWire.Proofs.Relay.Gateway
import ClusterWire.Proofs.Relay.Balance
import ClusterWire.Proofs.Relay.Answers
import ClusterWire.Proofs.Push.Reports
import ClusterWire.Proofs.Link.Outgoing
import ClusterWire.Proofs.Link.Duties
import ClusterWire.Proofs.Link.Tasks
import ClusterWire.Proofs.Link.Traffic
import ClusterWire.Proofs.Link.Custody
import ClusterWire.Proofs.Link.Dropped
import ClusterWire.Proofs.Link.Answered
import ClusterWire.Proofs.Executor.Shift
import ClusterWire.Proofs.Executor.Order
import ClusterWire.Proofs.Executor.Duty
import ClusterWire.Proofs.Executor.Workshop
import ClusterWire.Proofs.Executor.Arrival
import ClusterWire.Proofs.Executor.Turns
import ClusterWire.Proofs.Ident.Packing
import ClusterWire.Proofs.Ident.Minting
import ClusterWire.Proofs.Cluster.Views
import ClusterWire.Proofs.Relay.Homeward
import ClusterWire.Proofs.Json.FloatFree
import ClusterWire.Proofs.SocketAddress
import ClusterWire.Proofs.Relay.Contents
import ClusterWire.Proofs.Relay.Transparency
import ClusterWire.Proofs.Push.Frames
import ClusterWire.Proofs.Rpc.Asking
import ClusterWire.Proofs.Rpc.Handling
import ClusterWire.Proofs.Rpc.Fidelity
import ClusterWire.Proofs.Ledger
import ClusterWire.Proofs.Recoding
import ClusterWire.Proofs.Cluster.Directory
import ClusterWire.Proofs.Passage.Arriving
import ClusterWire.Proofs.Frame.Spelling
import ClusterWire.Proofs.Frame.Exact
import ClusterWire.Proofs.Push.Audience
import ClusterWire.Proofs.Cluster.Sharding
import ClusterWire.Proofs.Invocation.Eviction
import ClusterWire.Proofs.Push.Faults
import ClusterWire.Proofs.Push.Everyone
import ClusterWire.Proofs.Cluster.Membership
import ClusterWire.Proofs.Secrecy.Floor
import ClusterWire.Proofs.Ident.Fields
import ClusterWire.Proofs.Ident.Waiting
import ClusterWire.Proofs.ResponseTypes
import ClusterWire.Proofs.Starting
