import ClusterWire.CommandLine
import ClusterWire.Server
import ClusterWire.Settings.File
import ClusterWire.Settings.Validation

/-! From a command line and a settings file to a running server, and back down
again: what is decided on the way, and what the log tells of it. -/
namespace ClusterWire

inductive LogLevel where
  | trace
  | debug
  | info
  | warn
  | error
deriving DecidableEq, Repr

namespace LogLevel

def rank : LogLevel → Nat
  | trace => 0
  | debug => 1
  | info => 2
  | warn => 3
  | error => 4

def text : LogLevel → String
  | trace => "TRACE"
  | debug => "DEBUG"
  | info => "INFO"
  | warn => "WARN"
  | error => "ERROR"

def ofName (name : String) : LogLevel :=
  match name with
  | "trace" => trace
  | "debug" => debug
  | "warn" => warn
  | "error" => error
  | _ => info

end LogLevel

structure LogEvent where
  level : LogLevel
  text : String
deriving DecidableEq, Repr

namespace Startup

/-- The place where the settings file is expected. -/
inductive FileState where
  | found (bs : Bytes)
  /-- There is none yet, but it can be written. -/
  | absent
  /-- It can be neither read nor written, for the reason given. -/
  | barred (reason : String)
deriving DecidableEq, Repr

inductive Fault where
  | file (fault : Settings.FileFault)
  | access (reason : String)
  | invalid (fault : Settings.Fault)
  | address
  /-- The server that checked settings ask for does not come to run. The log is open by then. -/
  | server (logging : Settings.Logging) (refusal : Server.Refusal)
deriving Repr

def Fault.message : Fault → String
  | file fault => fault.message
  | access reason => reason
  | invalid fault => s!"Configuration validation failed: {fault.message}"
  | address => SocketAddress.syntaxFault
  | server _ refusal => refusal.message

/-- What the standard error output tells. A server without room ends the program on the spot. -/
def Fault.complaint : Fault → String
  | server _ .crowded => Server.Refusal.crowded.message
  | f => s!"❌ Failed to start application: {Text.quoted f.message}"

def Fault.exitCode : Fault → UInt8
  | server _ .crowded => 101
  | _ => 1

def load : FileState → Except Fault (Settings × Option String)
  | .found bs => do return (← (Settings.ofBytes bs).mapError .file, none)
  | .absent => .ok ({}, some Settings.defaultText)
  | .barred reason => .error (.access reason)

/-- What the command line gives wins over the file. -/
def override (a : CommandLine.Arguments) (s : Settings) : Settings :=
  { s with
    server := { s.server with
      bindAddress := a.bindAddress.getD s.server.bindAddress
      serverId := a.serverId.getD s.server.serverId }
    logging :=
      { level := a.logLevel.getD s.logging.level
        jsonFormat := a.jsonLogs || s.logging.jsonFormat } }

/-- Sharding by identity implies relaying to peers. -/
def forwardMode (m : Settings.Membership) : ForwardMode :=
  if m.shardByIdentity then .peers (some .standard)
  else if m.forwardToPeers then .peers none
  else .drop

def wiring (m : Settings.Membership) : Wiring :=
  { forward := forwardMode m, clusterHandlers := m.registrationEndpoint }

structure Application where
  path : String
  settings : Settings
  server : Server

def assemble (exist : String → Bool) (cores : Nat) (path : String) (s : Settings) :
    Except Fault Application := do
  (s.validate exist).mapError .invalid
  match s.serverConfig? with
  | none => .error .address
  | some config =>
    let server ← (Server.launch config (wiring s.cluster) cores).mapError (.server s.logging)
    return ⟨path, s, server⟩

/-- Prepares a start. The file that is missing is named for writing even where
the settings are refused afterwards. -/
def prepare (exist : String → Bool) (cores : Nat) (a : CommandLine.Arguments) (file : FileState) :
    Option String × Except Fault Application :=
  match load file with
  | .error fault => (none, .error fault)
  | .ok (settings, written) => (written, assemble exist cores a.configPath (override a settings))

def info (text : String) : LogEvent := ⟨.info, text⟩

/-- The first that the log tells. -/
def initialized (l : Settings.Logging) : LogEvent :=
  info s!"🔧 Logging initialized with level: {l.level}"

def logged (l : Settings.Logging) (events : List LogEvent) : List LogEvent :=
  let least := LogLevel.ofName l.level
  events.filter fun e => least.rank ≤ e.level.rank

/-- What the log was told of a start that failed. -/
def Fault.told : Fault → List LogEvent
  | server l _ => logged l [initialized l]
  | _ => []

namespace Application

def opening (a : Application) : List LogEvent :=
  let s := a.settings
  let name := s!"{CommandLine.program} v{CommandLine.programVersion}"
  [initialized s.logging,
   info s!"🚀 {name} - server {s.server.serverId} of {s.server.serverType}",
   info s!"📂 Config: {a.path}",
   info "📋 Configuration Summary:",
   info s!"  🌐 Bind address: {s.server.bindAddress}",
   info s!"  👥 Max connections: {s.server.maxConnections}",
   info s!"  ⏱️ Idle timeout: {s.server.connectionTimeout}s",
   info s!"  📞 RPC timeout: {s.rpc.timeout}ms",
   info s!"  🔗 Static peers: {s.cluster.peers.length}"]

def listening (address : String) : LogEvent :=
  info s!"✅ {CommandLine.program} is now running on {address}"

def registry? (a : Application) : Option SocketAddress :=
  a.settings.cluster.registryAddress.bind SocketAddress.ofText?

def announced (registry : SocketAddress) : Except RpcFault Unit → LogEvent
  | .ok () => info s!"🌐 Registered with cluster registry {registry.text}"
  | .error fault => ⟨.warn, s!"Could not register with {registry.text}: {fault.message}"⟩

/-- Going unregistered is told only where it fails. -/
def withdrawn (registry : SocketAddress) : Except RpcFault Unit → List LogEvent
  | .ok () => []
  | .error fault => [⟨.warn, s!"Could not unregister from {registry.text}: {fault.message}"⟩]

def waiting : LogEvent := info "🛑 Press Ctrl+C to gracefully shutdown"

def signalled (name : String) : List LogEvent :=
  [info s!"📡 Received {name}",
   info "🛑 Shutdown signal received, initiating graceful shutdown..."]

def stopped : LogEvent := info s!"👋 {CommandLine.program} shutdown complete"

/-- Everything a run tells, from its start on an address to the signal that ends
it. `reach` says what became of a call to the registry. -/
def story (a : Application) (address : String) (reach : SocketAddress → Except RpcFault Unit)
    (signal : String) : List LogEvent :=
  let registry := a.registry?.toList
  a.opening ++ [listening address] ++ registry.map (fun r => announced r (reach r)) ++ [waiting] ++
    signalled signal ++ registry.flatMap (fun r => withdrawn r (reach r)) ++ [stopped]

end Application
end Startup
end ClusterWire
