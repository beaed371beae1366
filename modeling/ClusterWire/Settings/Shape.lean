import ClusterWire.Settings

/-! Settings as JSON values. A section may be given as an object, or as a list
of its values in order; what either leaves out keeps its default. Whether such
a list may be too long is for the text around it to say. -/
namespace ClusterWire.Settings

open Json (Shape)

def ofUInt64 (n : UInt64) : Json := .ofNat n.toNat

/-- A field that may be left out and then has its value in `defaults`. -/
def defaulted {α : Type} (defaults : Json) (name : String) (shape : Shape α) : Shape.Field :=
  .optional name shape ((defaults.field? name).getD .null)

namespace Listener

def toJson (l : Listener) : Json :=
  Json.ofFields
    [("bind_address", .string l.bindAddress), ("server_id", .ofNat l.serverId.toNat),
     ("server_type", .string l.serverType), ("max_connections", ofUInt64 l.maxConnections),
     ("connection_timeout", ofUInt64 l.connectionTimeout),
     ("use_reuse_port", .bool l.useReusePort), ("worker_threads", ofUInt64 l.workerThreads)]

def fields : List Shape.Field :=
  let defaulted {α : Type} := @defaulted α ({} : Listener).toJson
  [defaulted "bind_address" Shape.text, defaulted "server_id" Shape.uint32,
   defaulted "server_type" Shape.text, defaulted "max_connections" Shape.size,
   defaulted "connection_timeout" Shape.uint64, defaulted "use_reuse_port" Shape.boolean,
   defaulted "worker_threads" Shape.size]

def shape (surplus : Shape.Surplus) : Shape Listener := fun v => do
  let field ← Shape.recordWith surplus "ServerSettings" fields v
  return { bindAddress := ← Shape.text (field "bind_address")
           serverId := ← Shape.uint32 (field "server_id")
           serverType := ← Shape.text (field "server_type")
           maxConnections := ← Shape.uint64 (field "max_connections")
           connectionTimeout := ← Shape.uint64 (field "connection_timeout")
           useReusePort := ← Shape.boolean (field "use_reuse_port")
           workerThreads := ← Shape.uint64 (field "worker_threads") }

end Listener

namespace Calls

def toJson (c : Calls) : Json :=
  Json.ofFields
    [("timeout_ms", ofUInt64 c.timeout), ("connect_timeout_ms", ofUInt64 c.connectTimeout),
     ("heartbeat_interval_ms", ofUInt64 c.heartbeatInterval),
     ("handshake_timeout_ms", ofUInt64 c.handshakeTimeout),
     ("max_frame_length", ofUInt64 c.maxFrameLength),
     ("default_serialize_type", .ofNat c.defaultSerializeType.toNat)]

def fields : List Shape.Field :=
  let defaulted {α : Type} := @defaulted α ({} : Calls).toJson
  [defaulted "timeout_ms" Shape.uint64, defaulted "connect_timeout_ms" Shape.uint64,
   defaulted "heartbeat_interval_ms" Shape.uint64, defaulted "handshake_timeout_ms" Shape.uint64,
   defaulted "max_frame_length" Shape.size, defaulted "default_serialize_type" Shape.uint8]

def shape (surplus : Shape.Surplus) : Shape Calls := fun v => do
  let field ← Shape.recordWith surplus "RpcSettings" fields v
  return { timeout := ← Shape.uint64 (field "timeout_ms")
           connectTimeout := ← Shape.uint64 (field "connect_timeout_ms")
           heartbeatInterval := ← Shape.uint64 (field "heartbeat_interval_ms")
           handshakeTimeout := ← Shape.uint64 (field "handshake_timeout_ms")
           maxFrameLength := ← Shape.uint64 (field "max_frame_length")
           defaultSerializeType := ← Shape.uint8 (field "default_serialize_type") }

end Calls

namespace KnownPeer

def toJson (p : KnownPeer) : Json :=
  Json.ofFields
    [("server_id", .ofNat p.serverId.toNat), ("server_type", .string p.serverType),
     ("address", .string p.address)]

def shape (surplus : Shape.Surplus) : Shape KnownPeer := fun v => do
  let field ← Shape.recordWith surplus "PeerSettings"
    [.required "server_id" Shape.uint32, .required "server_type" Shape.text,
     .required "address" Shape.text] v
  return { serverId := ← Shape.uint32 (field "server_id")
           serverType := ← Shape.text (field "server_type")
           address := ← Shape.text (field "address") }

end KnownPeer

namespace Membership

def toJson (m : Membership) : Json :=
  Json.ofFields
    [("forward_to_peers", .bool m.forwardToPeers), ("shard_by_identity", .bool m.shardByIdentity),
     ("registration_endpoint", .bool m.registrationEndpoint),
     ("registry_address", Json.ofOption Json.string m.registryAddress),
     ("peers", Json.ofList KnownPeer.toJson m.peers)]

def fields (surplus : Shape.Surplus) : List Shape.Field :=
  let defaulted {α : Type} := @defaulted α ({} : Membership).toJson
  [defaulted "forward_to_peers" Shape.boolean, defaulted "shard_by_identity" Shape.boolean,
   defaulted "registration_endpoint" Shape.boolean,
   defaulted "registry_address" (Shape.option Shape.text),
   defaulted "peers" (Shape.list (KnownPeer.shape surplus))]

def shape (surplus : Shape.Surplus) : Shape Membership := fun v => do
  let field ← Shape.recordWith surplus "ClusterSettings" (fields surplus) v
  return { forwardToPeers := ← Shape.boolean (field "forward_to_peers")
           shardByIdentity := ← Shape.boolean (field "shard_by_identity")
           registrationEndpoint := ← Shape.boolean (field "registration_endpoint")
           registryAddress := ← Shape.option Shape.text (field "registry_address")
           peers := ← Shape.list (KnownPeer.shape surplus) (field "peers") }

end Membership

def certificatesJson (c : Certificates) : Json :=
  Json.ofFields
    [("cert_path", .string c.certificate), ("key_path", .string c.key),
     ("ca_path", Json.ofOption Json.string c.authority)]

def certificatesShape (surplus : Shape.Surplus) : Shape Certificates := fun v => do
  let field ← Shape.recordWith surplus "TlsSettings"
    [.required "cert_path" Shape.text, .required "key_path" Shape.text,
     .optional "ca_path" (Shape.option Shape.text) .null] v
  return { certificate := ← Shape.text (field "cert_path")
           key := ← Shape.text (field "key_path")
           authority := ← Shape.option Shape.text (field "ca_path") }

namespace Logging

def toJson (l : Logging) : Json :=
  Json.ofFields [("level", .string l.level), ("json_format", .bool l.jsonFormat)]

def fields : List Shape.Field :=
  let defaulted {α : Type} := @defaulted α ({} : Logging).toJson
  [defaulted "level" Shape.text, defaulted "json_format" Shape.boolean]

def shape (surplus : Shape.Surplus) : Shape Logging := fun v => do
  let field ← Shape.recordWith surplus "LoggingSettings" fields v
  return { level := ← Shape.text (field "level")
           jsonFormat := ← Shape.boolean (field "json_format") }

end Logging

def toJson (s : Settings) : Json :=
  Json.ofFields
    [("server", s.server.toJson), ("rpc", s.rpc.toJson), ("cluster", s.cluster.toJson),
     ("tls", Json.ofOption certificatesJson s.tls), ("logging", s.logging.toJson)]

def fields (surplus : Shape.Surplus) : List Shape.Field :=
  let defaulted {α : Type} := @defaulted α (toJson {})
  [defaulted "server" (Listener.shape surplus), defaulted "rpc" (Calls.shape surplus),
   defaulted "cluster" (Membership.shape surplus),
   defaulted "tls" (Shape.option (certificatesShape surplus)),
   defaulted "logging" (Logging.shape surplus)]

def shape (surplus : Shape.Surplus) : Shape Settings := fun v => do
  let field ← Shape.recordWith surplus "AppConfig" (fields surplus) v
  return { server := ← Listener.shape surplus (field "server")
           rpc := ← Calls.shape surplus (field "rpc")
           cluster := ← Membership.shape surplus (field "cluster")
           tls := ← Shape.option (certificatesShape surplus) (field "tls")
           logging := ← Logging.shape surplus (field "logging") }

end ClusterWire.Settings
