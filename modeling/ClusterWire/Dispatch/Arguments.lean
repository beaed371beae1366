import ClusterWire.Handler
import ClusterWire.Push
import ClusterWire.Registry

/-! Binding the arguments of a handler from a request. -/
namespace ClusterWire.Dispatch

def decodeBody {α : Type} (serializers : Serializers) (s : Session) (m : Message)
    (shape : Json.Shape α) : Except CodecFault α := do
  (← serializers.get s.serializeType).decodeAs shape m.body

/-- Binds one argument. With push targets the body is the one in their
envelope. -/
def bindArgument (serializers : Serializers) (d : Descriptor) (s : Session) (m : Message)
    (args : Arguments) : Binding → Except CodecFault Arguments
  | .session => .ok { args with session := some s.id }
  | .identity => .ok args
  | .body =>
    if d.binds .pushTargets then .ok args
    else do return { args with body := ← decodeBody serializers s m Json.Shape.any }
  | .pushTargets => do
    let envelope ← decodeBody serializers s m PushEnvelope.shape
    return { args with targets := envelope.targets, body := envelope.body }

def bindArguments (serializers : Serializers) (d : Descriptor) (s : Session) (m : Message)
    (ctx : CallContext) : Except CodecFault Arguments :=
  d.bindings.foldlM (bindArgument serializers d s m) ⟨ctx, none, .null, []⟩

end ClusterWire.Dispatch
