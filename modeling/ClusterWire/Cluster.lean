import ClusterWire.Cluster.Hash
import ClusterWire.Cluster.Server

/-! Cluster membership: the servers of one type in the order of their ids, and
one such cluster per type. -/
namespace ClusterWire

/-- All members of one server type, by increasing id. -/
structure Cluster where
  type : ServerType
  members : List ServerInfo
deriving DecidableEq, Repr

namespace Cluster

def empty (type : ServerType) : Cluster := ⟨type, []⟩

def find? (c : Cluster) (id : UInt32) : Option ServerInfo :=
  c.members.find? (·.id == id)

def insert (info : ServerInfo) : List ServerInfo → List ServerInfo
  | [] => [info]
  | m :: rest =>
    if info.id < m.id then info :: m :: rest
    else if info.id = m.id then info :: rest
    else m :: insert info rest

theorem mem_insert_self (info : ServerInfo) (ms : List ServerInfo) : info ∈ insert info ms := by
  fun_induction insert info ms with
  | case1 | case2 | case3 => exact List.mem_cons_self
  | case4 m rest _ _ ih => exact List.mem_cons_of_mem m ih

def upsert (c : Cluster) (info : ServerInfo) : Cluster :=
  { c with members := insert info c.members }

def remove (c : Cluster) (id : UInt32) : Cluster :=
  { c with members := c.members.filter (·.id != id) }

def setLoad (c : Cluster) (id load : UInt32) : Cluster :=
  { c with members := c.members.map fun m => if m.id = id then { m with load := load } else m }

/-- The member whose rank by id is the hash modulo the number of members. -/
def byHash? (c : Cluster) (hash : UInt64) : Option ServerInfo :=
  c.members[hash.toNat % c.members.length]?

def least? : List ServerInfo → Option ServerInfo
  | [] => none
  | m :: rest =>
    match least? rest with
    | some best => if best.load < m.load then some best else some m
    | none => some m

@[simp] theorem least?_eq_none_iff {ms : List ServerInfo} : least? ms = none ↔ ms = [] := by
  cases ms with
  | nil => simp [least?]
  | cons m rest =>
    simp only [least?, reduceCtorEq, iff_false]
    cases least? rest with
    | none => simp
    | some best =>
      dsimp only
      split <;> simp

/-- The least loaded member; of two the one with the lower id. -/
def leastLoaded? (c : Cluster) : Option ServerInfo := least? c.members

end Cluster

/-- One cluster per server type, in the order of the types' names. -/
structure Clusters where
  all : List Cluster
deriving DecidableEq, Repr, Inhabited

namespace Clusters

def empty : Clusters := ⟨[]⟩

def find? (cs : Clusters) (type : ServerType) : Option Cluster :=
  cs.all.find? (·.type == type)

def types (cs : Clusters) : List ServerType := cs.all.map (·.type)

def insert (info : ServerInfo) : List Cluster → List Cluster
  | [] => [(Cluster.empty info.type).upsert info]
  | c :: rest =>
    if info.type = c.type then c.upsert info :: rest
    else if info.type < c.type then (Cluster.empty info.type).upsert info :: c :: rest
    else c :: insert info rest

def member? (cs : Clusters) (type : ServerType) (id : UInt32) : Option ServerInfo :=
  (cs.find? type).bind (·.find? id)

def members (cs : Clusters) (type : ServerType) : List ServerInfo :=
  ((cs.find? type).map (·.members)).getD []

def modify (cs : Clusters) (type : ServerType) (f : Cluster → Cluster) : Clusters :=
  ⟨cs.all.map fun c => if c.type = type then f c else c⟩

/-- Adds or refreshes a server; true for a new member. -/
def register (cs : Clusters) (info : ServerInfo) : Clusters × Bool :=
  (⟨insert info cs.all⟩, (cs.member? info.type info.id).isNone)

/-- Removes a server and gives it. Its cluster stays, even without members. -/
def unregister (cs : Clusters) (type : ServerType) (id : UInt32) :
    Clusters × Option ServerInfo :=
  (cs.modify type (·.remove id), cs.member? type id)

def updateLoad (cs : Clusters) (type : ServerType) (id load : UInt32) : Clusters × Bool :=
  (cs.modify type (·.setLoad id load), (cs.member? type id).isSome)

end Clusters
end ClusterWire
