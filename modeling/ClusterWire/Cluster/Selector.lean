import ClusterWire.Cluster
import ClusterWire.Context
import ClusterWire.Failure
import ClusterWire.Ident.Layout

/-! Choosing the member of a cluster that receives a call. A choice is never
retried. -/
namespace ClusterWire

inductive ClusterFault where
  | emptyCluster (type : ServerType)
  | unknownServer (type : ServerType) (id : UInt32)
  | unknownShard (type : ServerType) (shard : UInt32)
  | noIdentity
deriving DecidableEq, Repr

def ClusterFault.message : ClusterFault → String
  | emptyCluster type => s!"no servers of type {type} are registered"
  | unknownServer type id => s!"server {id.toNat} of type {type} is not registered"
  | unknownShard type shard => s!"no server of type {type} owns shard {shard.toNat}"
  | noIdentity => "shard selection requires a caller identity"

def ClusterFault.label : ClusterFault → String
  | emptyCluster _ => "EmptyCluster"
  | unknownServer _ _ => "UnknownServer"
  | unknownShard _ _ => "UnknownShard"
  | noIdentity => "NoIdentity"

instance : Failure ClusterFault := ⟨ClusterFault.label, ClusterFault.message⟩

inductive Selector where
  | hash
  | leastLoaded
  | explicit (id : UInt32)
  /-- The server that minted the caller identity. -/
  | shard (layout : Ident.Layout)
deriving DecidableEq, Repr

/-- Why no member is chosen. A shard of a layout too wide for 64 bits is a
fault of its own. -/
inductive SelectFault where
  | cluster (fault : ClusterFault)
  | overflow (fault : Ident.Overflow)
deriving DecidableEq, Repr

namespace Selector

def orElse (found : Option ServerInfo) (fault : ClusterFault) : Except SelectFault ServerInfo :=
  match found with
  | some info => .ok info
  | none => .error (.cluster fault)

def select (s : Selector) (c : Cluster) (ctx : CallContext) : Except SelectFault ServerInfo :=
  match s with
  | hash => orElse (c.byHash? (Cluster.hashIdentity ctx.identity)) (.emptyCluster c.type)
  | leastLoaded => orElse c.leastLoaded? (.emptyCluster c.type)
  | explicit id => orElse (c.find? id) (.unknownServer c.type id)
  | shard layout =>
    if ctx.hasIdentity then
      match layout.workerOf ctx.identity with
      | .error fault => .error (.overflow fault)
      | .ok worker => orElse (c.find? worker) (.unknownShard c.type worker)
    else .error (.cluster .noIdentity)

end Selector
end ClusterWire
