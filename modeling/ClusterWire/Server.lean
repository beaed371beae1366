import ClusterWire.Cluster.Endpoint
import ClusterWire.Dispatch
import ClusterWire.Server.Config
import ClusterWire.Server.Fault

/-! Servers. Building one freezes its protocol table and checks what has to fit
together, so that nothing of it can fail once connections are accepted. -/
namespace ClusterWire

inductive ForwardMode where
  | drop
  /-- They are relayed to peers; with a layout, callers with an identity go to
  the server that minted it. -/
  | peers (shards : Option Ident.Layout)
  | custom (forward : Dispatch.Forward)

structure Wiring where
  registry : Registry (Handler World) := .empty
  serializers : Serializers := .standard
  extract : Dispatch.Extractor := Dispatch.defaultExtractor
  hook : Option Dispatch.Hook := none
  forward : ForwardMode := .drop
  clusterHandlers : Bool := false

namespace Wiring

def table (w : Wiring) : Except RegistryFault (Registry (Handler World)) :=
  if w.clusterHandlers then Cluster.Endpoint.bind w.registry else .ok w.registry

def dispatcher (w : Wiring) (registry : Registry (Handler World)) (settings : PeerSettings) :
    Dispatcher where
  registry := registry
  serializers := settings.serializers
  extract := w.extract
  hook := w.hook
  forward := match w.forward with
    | .drop => Dispatch.drop
    | .peers shards => Dispatch.Relay.forward ⟨registry.declared, settings, shards⟩
    | .custom forward => forward

end Wiring

structure Server where
  config : ServerConfig
  settings : PeerSettings
  dispatcher : Dispatcher
  world : World

namespace Server

/-- Assembles a server. The default serializer has to be registered, and the
table has to pass its check. -/
def build (c : ServerConfig) (w : Wiring) : Except ServerFault Server := do
  let serializers ← (w.serializers.withDefault c.defaultType).mapError .codec
  let registry ← w.table.mapError .registry
  registry.verify.mapError .registry
  let link ← serializers.defaultSerializer.mapError .codec
  let settings := c.peerSettings serializers link
  return { config := c
           settings := settings
           dispatcher := w.dispatcher registry settings
           world := { World.empty with clusters := c.clusters } }

/-- Why no server comes to run. -/
inductive Refusal where
  | unfit (fault : ServerFault)
  /-- There is no room for the workers. Nobody handles this. -/
  | crowded
deriving Repr

def Refusal.message : Refusal → String
  | unfit fault => fault.message
  | crowded => "capacity overflow"

def Refusal.label : Refusal → String
  | unfit fault => fault.label
  | crowded => "panic"

instance : Failure Refusal := ⟨Refusal.label, Refusal.message⟩

/-- Assembles a server and starts its workers, which are counted last. -/
def launch (c : ServerConfig) (w : Wiring) (cores : Nat) : Except Refusal Server := do
  let server ← (build c w).mapError .unfit
  if Pool.hasRoom (c.workerCount cores) then return server else .error .crowded

def registry (s : Server) : Registry (Handler World) := s.dispatcher.registry

def schedule (s : Server) (cores : Nat) : Schedule World :=
  .start s.world (.ofSize (s.config.workerCount cores))

end Server
end ClusterWire
