import ClusterWire.Frame
import ClusterWire.Peer

/-! What a server is told before it starts. -/
namespace ClusterWire

structure Certificates where
  certificate : String
  key : String
  authority : Option String
deriving DecidableEq, Repr

structure ServerConfig where
  address : SocketAddress := .loopback 8080
  id : UInt32 := 1
  type : ServerType := defaultServerType
  maxConnections : Nat := 1000
  /-- A connection that sends no frame for this long is closed. -/
  idleTimeout : Span := .ofSeconds 60
  reusePort : Bool := false
  /-- Without a number there are two workers for each core. -/
  workers : Option Nat := none
  /-- The largest frame that is taken, counted behind its length field. -/
  frameLimit : Nat := Frame.defaultLimit
  defaultType : UInt8 := Serializer.json.type
  callTimeout : Span := .ofMilliseconds 5000
  heartbeatInterval : Span := .ofMilliseconds 10000
  handshakeTimeout : Span := .ofMilliseconds 5000
  connectTimeout : Span := .ofMilliseconds 3000
  certificates : Option Certificates := none
  peers : List ServerInfo := []
deriving Repr

namespace ServerConfig

def info (c : ServerConfig) : ServerInfo := { id := c.id, type := c.type, address := c.address }

def workerCount (c : ServerConfig) (cores : Nat) : Nat := c.workers.getD (2 * cores)

def peerSettings (c : ServerConfig) (serializers : Serializers) (link : Serializer) :
    PeerSettings where
  serializers := serializers
  link := link
  connectTimeout := c.connectTimeout
  callTimeout := c.callTimeout
  heartbeatInterval := c.heartbeatInterval
  frameLimit := c.frameLimit

/-- The cluster as a server sees it at first: itself, then the peers it was
told of. -/
def clusters (c : ServerConfig) : Clusters :=
  (c.info :: c.peers).foldl (fun cs info => (cs.register info).1) .empty

/-- A count of milliseconds, as text so that it stays exact. -/
def milliseconds (s : Span) : Json := .string (toString (s.nanoseconds / 1000000))

def certificatesJson (c : Certificates) : Json :=
  .array [.string c.certificate, .string c.key, Json.ofOption Json.string c.authority]

def toJson (c : ServerConfig) : Json :=
  Json.ofFields
    [("bind_address", .string c.address.text), ("info", c.info.toJson),
     ("max_connections", .ofNat c.maxConnections), ("idle_timeout_ms", milliseconds c.idleTimeout),
     ("rpc_timeout_ms", milliseconds c.callTimeout),
     ("handshake_timeout_ms", milliseconds c.handshakeTimeout),
     ("use_reuse_port", .bool c.reusePort),
     ("workers", (c.workers.map Json.ofNat).getD (Json.ofFields [("automatic", .bool true)])),
     ("default_serialize_type", .ofNat c.defaultType.toNat),
     ("peer", Json.ofFields
       [("connect_timeout_ms", milliseconds c.connectTimeout),
        ("call_timeout_ms", milliseconds c.callTimeout),
        ("heartbeat_interval_ms", milliseconds c.heartbeatInterval),
        ("max_frame_length", .ofNat c.frameLimit)]),
     ("tls", Json.ofOption certificatesJson c.certificates),
     ("peers", Json.ofList ServerInfo.toJson c.peers)]

end ServerConfig
end ClusterWire
