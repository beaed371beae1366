import ClusterWire.Codec
import ClusterWire.Failure
import ClusterWire.Frame
import ClusterWire.Registry

/-! Failures of a server: of its wiring, of its sockets, and of what its
clients send. -/
namespace ClusterWire

inductive ServerFault where
  | network (text : String)
  | internal (text : String)
  | registry (fault : RegistryFault)
  | codec (fault : CodecFault)
  | violation (remote : SocketAddress) (fault : Frame.Fault)
  | webSocket (text : String)
  | io (text : String)
deriving Repr

def ServerFault.message : ServerFault → String
  | network text => s!"Network error: {text}"
  | internal text => s!"Internal error: {text}"
  | registry fault => s!"Registry error: {fault.message}"
  | codec fault => s!"Codec error: {fault.message}"
  | violation remote fault => s!"Protocol violation from {remote.text}: {fault.message}"
  | webSocket text => s!"WebSocket error: {text}"
  | io text => s!"I/O error: {text}"

def ServerFault.label : ServerFault → String
  | network _ => "Network"
  | internal _ => "Internal"
  | registry fault => s!"Registry.{fault.label}"
  | codec fault => s!"Codec.{fault.label}"
  | violation _ _ => "ProtocolViolation"
  | webSocket _ => "WebSocket"
  | io _ => "Io"

instance : Failure ServerFault := ⟨ServerFault.label, ServerFault.message⟩

end ClusterWire
