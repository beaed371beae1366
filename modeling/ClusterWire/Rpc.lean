import ClusterWire.Cluster.Selector
import ClusterWire.Codec
import ClusterWire.ErrorCode
import ClusterWire.Failure
import ClusterWire.Frame
import ClusterWire.Span

/-! Failures of calls to other servers, and what of them a remote caller is
told. -/
namespace ClusterWire

inductive RpcFault where
  | timeout (protocol : ProtocolId) (sequence : Int64) (after : Span)
  | connection (address reason : String)
  | remote (code : ErrorCode) (message : String)
  | abandoned (protocol : ProtocolId)
  | unknownMethod (contract : String) (protocol : ProtocolId)
  | callStyleMismatch (contract method : String)
  | codec (fault : CodecFault)
  | frame (fault : Frame.Fault)
  | cluster (fault : ClusterFault)
deriving Repr

namespace RpcFault

def message : RpcFault → String
  | timeout protocol sequence after =>
    s!"call {protocol.text} (seq {sequence.toInt}) timed out after {after.text}"
  | connection address reason => s!"connection to {address} failed: {reason}"
  | remote code message => s!"remote error {code.text}: {message}"
  | abandoned protocol => s!"call {protocol.text} was abandoned before a response arrived"
  | unknownMethod contract protocol => s!"contract {contract} has no method {protocol.text}"
  | callStyleMismatch contract method =>
    s!"method {method} of {contract} is not declared for this call style"
  | codec fault => fault.message
  | frame fault => fault.message
  | cluster fault => fault.message

/-- A short name, for counters; what is passed on keeps its own. -/
def label : RpcFault → String
  | timeout _ _ _ => "Timeout"
  | connection _ _ => "Connection"
  | remote _ _ => "Remote"
  | abandoned _ => "Abandoned"
  | unknownMethod _ _ => "UnknownMethod"
  | callStyleMismatch _ _ => "CallStyleMismatch"
  | codec fault => s!"Codec.{fault.label}"
  | frame fault => s!"Frame.{fault.label}"
  | cluster fault => s!"Cluster.{fault.label}"

instance : Failure RpcFault := ⟨RpcFault.label, RpcFault.message⟩

def errorCode : RpcFault → ErrorCode
  | timeout .. => .timeout
  | remote code _ => code
  | cluster _ => .unsupportedProtocol
  | _ => .unknown

/-- The text that a caller is answered with. Only a remote error passes its
own on; addresses and reasons stay on the server. -/
def wireMessage : RpcFault → String
  | remote _ message => message
  | fault =>
    if fault.errorCode = .timeout then "timeout"
    else if fault.errorCode = .unsupportedProtocol then "unsupported protocol"
    else "unknown error"

def response (fault : RpcFault) : ErrorResponse := ⟨fault.errorCode, fault.wireMessage⟩

end RpcFault

def decodeResponse {α : Type} (s : Serializer) (shape : Json.Shape α) (m : Message) :
    Except RpcFault α :=
  if m.isError then
    match s.decodeAs ErrorResponse.shape m.body with
    | .ok e => .error (.remote e.code e.message)
    | .error fault => .error (.codec fault)
  else (s.decodeAs shape m.body).mapError .codec

end ClusterWire
