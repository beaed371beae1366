import ClusterWire.Codec
import ClusterWire.Handler

/-! What a request is answered with, and the frame of the answer. -/
namespace ClusterWire

inductive Reply where
  | value (protocol : ProtocolId) (value : Json)
  | error (code : ErrorCode) (message : String)
deriving Repr

namespace Reply

def unknown : Reply := .error .unknown "unknown error"

/-- The answer that a handler's end asks for. An asynchronous handler that
gives null is not answered. -/
def ofOutcome (synchronous : Bool) (protocol : ProtocolId) :
    Except Panic (Except HandlerFault Json) → Option Reply
  | .ok (.ok v) => if v.isNull && !synchronous then none else some (.value protocol v)
  | .ok (.error (.domain code message)) => some (.error code message)
  | .ok (.error (.unexpected _)) => some .unknown
  | .error _ => some .unknown

/-- The frame of an answer. Without the session's serializer nothing can be
said, not even that. -/
def frame? (serializers : Serializers) (s : Session) (sequence : Int64) (r : Reply) :
    Option Message :=
  (serializers.find? s.serializeType).map fun serializer =>
    match r with
    | value protocol v => .response s.family sequence protocol (serializer.encode v)
    | error code message =>
      .errorResponse s.family sequence (serializer.encode (ErrorResponse.toJson ⟨code, message⟩))

/-- Offers an answer to the session that the request came from. Requests with
number 0 are never answered. -/
def deliver (serializers : Serializers) (id : SessionId) (ctx : CallContext) (r : Option Reply)
    (t : Sessions) : Sessions :=
  match r, t.session? id with
  | some r, some s =>
    if ctx.expectsResponse then
      match r.frame? serializers s ctx.sequence with
      | some m => (t.send id m).1
      | none => t
    else t
  | _, _ => t

end Reply
end ClusterWire
