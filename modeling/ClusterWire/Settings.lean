import ClusterWire.Frame
import ClusterWire.Json.Shape
import ClusterWire.Server.Config

/-! Settings of a server as its operator writes them: addresses are still text
and nothing has been checked. What is left out keeps its default. -/
namespace ClusterWire
namespace Settings

structure Listener where
  bindAddress : String := "127.0.0.1:8080"
  serverId : UInt32 := 1
  serverType : ServerType := defaultServerType
  maxConnections : UInt64 := 1000
  connectionTimeout : UInt64 := 60
  useReusePort : Bool := false
  /-- 0 leaves the number to the machine. -/
  workerThreads : UInt64 := 0
deriving DecidableEq, Repr

/-- Times and sizes of calls between servers; times are in milliseconds. -/
structure Calls where
  timeout : UInt64 := 5000
  connectTimeout : UInt64 := 3000
  heartbeatInterval : UInt64 := 10000
  handshakeTimeout : UInt64 := 5000
  maxFrameLength : UInt64 := UInt64.ofNat Frame.defaultLimit
  defaultSerializeType : UInt8 := 0
deriving DecidableEq, Repr

structure KnownPeer where
  serverId : UInt32
  serverType : ServerType
  address : String
deriving DecidableEq, Repr

structure Membership where
  forwardToPeers : Bool := false
  shardByIdentity : Bool := false
  registrationEndpoint : Bool := false
  registryAddress : Option String := none
  peers : List KnownPeer := []
deriving DecidableEq, Repr

structure Logging where
  level : String := "info"
  jsonFormat : Bool := false
deriving DecidableEq, Repr

end Settings

structure Settings where
  server : Settings.Listener := {}
  rpc : Settings.Calls := {}
  cluster : Settings.Membership := {}
  tls : Option Certificates := none
  logging : Settings.Logging := {}
deriving DecidableEq, Repr

end ClusterWire
