import ClusterWire.Contract
import ClusterWire.Handler
import ClusterWire.Registry

/-! The protocols by which servers announce themselves, report their load and
leave. Their handlers feed the cluster view that the selectors read. -/
namespace ClusterWire.Cluster.Endpoint

def module : Int16 := 32000

def registerServer : ProtocolId := ⟨module, 1⟩
def unregisterServer : ProtocolId := ⟨module, 2⟩
def reportLoad : ProtocolId := ⟨module, 3⟩
def listServers : ProtocolId := ⟨module, 4⟩

def host : ServerType := "gateway"

def contract : Contract where
  name := "cluster"
  target := host
  methods :=
    [⟨"register_server", registerServer, .waited⟩, ⟨"unregister_server", unregisterServer, .waited⟩,
     ⟨"report_load", reportLoad, .notified⟩, ⟨"list_servers", listServers, .waited⟩]

structure Departure where
  type : ServerType
  id : UInt32
deriving DecidableEq, Repr

def Departure.toJson (d : Departure) : Json :=
  Json.ofFields [("server_type", .string d.type), ("server_id", .ofNat d.id.toNat)]

def Departure.shape : Json.Shape Departure := fun v => do
  let field ← Json.Shape.record "UnregisterServer"
    [.required "server_type" Json.Shape.text, .required "server_id" Json.Shape.uint32] v
  return { type := ← Json.Shape.text (field "server_type")
           id := ← Json.Shape.uint32 (field "server_id") }

structure LoadReport where
  type : ServerType
  id : UInt32
  load : UInt32
deriving DecidableEq, Repr

def LoadReport.toJson (r : LoadReport) : Json :=
  Json.ofFields
    [("server_type", .string r.type), ("server_id", .ofNat r.id.toNat),
     ("current_load", .ofNat r.load.toNat)]

def LoadReport.shape : Json.Shape LoadReport := fun v => do
  let field ← Json.Shape.record "ReportLoad"
    [.required "server_type" Json.Shape.text, .required "server_id" Json.Shape.uint32,
     .required "current_load" Json.Shape.uint32] v
  return { type := ← Json.Shape.text (field "server_type")
           id := ← Json.Shape.uint32 (field "server_id")
           load := ← Json.Shape.uint32 (field "current_load") }

def listingShape : Json.Shape ServerType := fun v => do
  let field ← Json.Shape.record "ListServers" [.required "server_type" Json.Shape.text] v
  Json.Shape.text (field "server_type")

/-- A call that changes the cluster view and answers with what came of it. -/
def feed (change : Clusters → Clusters × Json) : Call World :=
  .works do return .ok (← Activity.update (World.changeClusters change))

def registering : Handler World := Handler.ofBody ServerInfo.shape fun _ info =>
  feed fun cs => ((cs.register info).1, .bool (cs.register info).2)

def unregistering : Handler World := Handler.ofBody Departure.shape fun _ d =>
  feed fun cs => ((cs.unregister d.type d.id).1, .bool (cs.unregister d.type d.id).2.isSome)

def reporting : Handler World := Handler.ofBody LoadReport.shape fun _ r =>
  feed fun cs => ((cs.updateLoad r.type r.id r.load).1, .null)

def listing : Handler World := Handler.ofBody listingShape fun _ type =>
  feed fun cs => (cs, Json.ofList ServerInfo.toJson (cs.members type))

def routes : List (Descriptor × String × Handler World) :=
  [({ protocol := registerServer, name := "cluster.register_server", bindings := [.body] },
    "bool", registering),
   ({ protocol := unregisterServer, name := "cluster.unregister_server", bindings := [.body] },
    "bool", unregistering),
   ({ protocol := reportLoad, name := "cluster.report_load", bindings := [.body],
      mode := .asynchronous }, "()", reporting),
   ({ protocol := listServers, name := "cluster.list_servers", bindings := [.body] },
    "alloc::vec::Vec<horizon_protocol::cluster::ServerInfo>", listing)]

def bind (r : Registry (Handler World)) : Except RegistryFault (Registry (Handler World)) :=
  routes.foldlM (fun r (d, type, handler) => r.route d type handler) r

end ClusterWire.Cluster.Endpoint
