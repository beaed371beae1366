import ClusterWire.Settings
import ClusterWire.Text.Blank
import ClusterWire.Text.Quoted

/-! Checking settings, and the configuration that checked ones give. The first
fault in the order of the checks is the one that is told. -/
namespace ClusterWire.Settings

inductive Fault where
  | bindAddress (text : String)
  | noServerType
  | noConnections
  | noConnectionTimeout
  | noCallTimeout
  | noFrameLength
  | serializer (type : UInt8)
  | peerAddress (id : UInt32) (text : String)
  | ownIdentity (id : UInt32) (type : ServerType)
  | registryAddress (text : String)
  | missingFile (path : String)
  | level (name : String)
deriving DecidableEq, Repr

def serializerTypes : List UInt8 := [Serializer.json.type, (Serializer.deflateAt 1).type]

def levels : List String := ["trace", "debug", "info", "warn", "error"]

def choices (texts : List String) : String := "[" ++ ", ".intercalate texts ++ "]"

def Fault.message : Fault → String
  | bindAddress text => s!"Invalid bind address: {text}"
  | noServerType => "Server type cannot be empty"
  | noConnections => "max_connections must be at least 1"
  | noConnectionTimeout => "connection_timeout must be greater than zero"
  | noCallTimeout => "rpc timeout_ms must be greater than zero"
  | noFrameLength => "max_frame_length must be greater than zero"
  | serializer type =>
    let known := choices (serializerTypes.map fun t => toString t.toNat)
    s!"Unknown serializer type: {type.toNat}. Must be one of: {known}"
  | peerAddress id text => s!"Invalid address for peer {id.toNat}: {text}"
  | ownIdentity id type => s!"Peer {id.toNat} of {type} has this server's own id"
  | registryAddress text => s!"Invalid registry address: {text}"
  | missingFile path => s!"TLS file not found: {path}"
  | level name =>
    s!"Invalid log level: {name}. Must be one of: {choices (levels.map Text.quoted)}"

def isAddress (text : String) : Bool := (SocketAddress.ofText? text).isSome

def require (holds : Bool) (fault : Fault) : Except Fault Unit :=
  if holds then .ok () else .error fault

def Listener.validate (l : Listener) : Except Fault Unit := do
  require (isAddress l.bindAddress) (.bindAddress l.bindAddress)
  require (!Text.isBlankText l.serverType) .noServerType
  require (l.maxConnections != 0) .noConnections
  require (l.connectionTimeout != 0) .noConnectionTimeout

def Calls.validate (c : Calls) : Except Fault Unit := do
  require (c.timeout != 0) .noCallTimeout
  require (c.maxFrameLength != 0) .noFrameLength
  require (serializerTypes.contains c.defaultSerializeType) (.serializer c.defaultSerializeType)

/-- A peer has an address, and is not the server itself. -/
def KnownPeer.validate (l : Listener) (p : KnownPeer) : Except Fault Unit := do
  require (isAddress p.address) (.peerAddress p.serverId p.address)
  require (!(p.serverType == l.serverType && p.serverId == l.serverId))
    (.ownIdentity p.serverId p.serverType)

def Membership.validate (l : Listener) (m : Membership) : Except Fault Unit := do
  m.peers.forM (KnownPeer.validate l)
  match m.registryAddress with
  | some text => require (isAddress text) (.registryAddress text)
  | none => .ok ()

/-- The files are there; `exist` knows. -/
def validateFiles (exist : String → Bool) (c : Certificates) : Except Fault Unit :=
  (c.certificate :: c.key :: c.authority.toList).forM fun path =>
    require (exist path) (.missingFile path)

def Logging.validate (l : Logging) : Except Fault Unit :=
  require (levels.contains l.level) (.level l.level)

def validate (exist : String → Bool) (s : Settings) : Except Fault Unit := do
  s.server.validate
  s.rpc.validate
  s.cluster.validate s.server
  match s.tls with
  | some c => validateFiles exist c
  | none => pure ()
  s.logging.validate

def KnownPeer.info? (p : KnownPeer) : Option ServerInfo := do
  return { id := p.serverId, type := p.serverType, address := ← SocketAddress.ofText? p.address }

def serverConfig? (s : Settings) : Option ServerConfig := do
  let peers ← s.cluster.peers.mapM KnownPeer.info?
  return { address := ← SocketAddress.ofText? s.server.bindAddress
           id := s.server.serverId
           type := s.server.serverType
           maxConnections := s.server.maxConnections.toNat
           idleTimeout := .ofSeconds s.server.connectionTimeout.toNat
           reusePort := s.server.useReusePort
           workers :=
             if s.server.workerThreads = 0 then none else some s.server.workerThreads.toNat
           frameLimit := s.rpc.maxFrameLength.toNat
           defaultType := s.rpc.defaultSerializeType
           callTimeout := .ofMilliseconds s.rpc.timeout.toNat
           heartbeatInterval := .ofMilliseconds s.rpc.heartbeatInterval.toNat
           handshakeTimeout := .ofMilliseconds s.rpc.handshakeTimeout.toNat
           connectTimeout := .ofMilliseconds s.rpc.connectTimeout.toNat
           certificates := s.tls
           peers := peers }

end ClusterWire.Settings
