import ClusterWire.Proofs.Dispatch.Accounting
import ClusterWire.Proofs.Json.FloatFree

/-! Bodies and answers on their way through servers that talk under different serializers.
A body that stands for a value stands for it again once it is moved, and what a frame
answers is still legible where it arrives. -/
namespace ClusterWire

/-- Values that every serializer brings over. -/
structure Json.Portable (v : Json) : Prop where
  free : v.FloatFree
  orderly : v.Orderly
  nested : v.Nested maxDepth

theorem Json.Portable.lawful {v : Json} (portable : v.Portable) : v.Lawful :=
  portable.free.lawful portable.orderly

namespace Serializer

theorem orderly_of_decode {z : Serializer} {body : Bytes} {v : Json}
    (found : z.decode body = .ok v) : v.Orderly := by
  unfold decode at found
  split at found
  · cases found
    exact .null
  · split at found
    · exact Json.orderly_of_decode (readJson_eq_ok.mp found)
    · split at found
      · exact Json.orderly_of_decode (readJson_eq_ok.mp found)
      · cases found

/-- Serializers of one type read the same out of a body, whatever they compress with. -/
theorem decode_of_type {z y : Serializer} (same : z.type = y.type) (body : Bytes) :
    z.decode body = y.decode body := by
  cases z with
  | json =>
    cases y with
    | json => rfl
    | deflate compressor level => cases same
  | deflate compressor level =>
    cases y with
    | json => cases same
    | deflate other further => rfl

/-- A body that stands for a value is moved to any serializer, and stands for the value
there. -/
theorem transcode_decodes {source : Serializer} (target : Serializer) {body : Bytes} {v : Json}
    (lawful : v.Lawful) (found : source.decode body = .ok v) :
    ∃ moved, source.transcode target body = .ok moved ∧ target.decode moved = .ok v := by
  by_cases same : source.type = target.type
  · exact ⟨body, if_pos same, (decode_of_type same body).symm.trans found⟩
  · refine ⟨target.encode v, ?_, (target.decode_encode lawful).mpr (nested_of_decode found)⟩
    rw [transcode, if_neg same, found]
    rfl

theorem type_of_find? {serializers : Serializers} {type : UInt8} {z : Serializer}
    (found : serializers.find? type = some z) : z.type = type := by
  simpa using List.find?_some found

end Serializer

namespace Reply

/-- Answers that every serializer brings over. -/
def Portable : Reply → Prop
  | value _ v => v.Portable
  | error _ _ => True

/-- The value that is written into the frame of an answer. -/
def content : Reply → Json
  | value _ v => v
  | error code message => ErrorResponse.toJson ⟨code, message⟩

/-- The protocol that the frame of an answer names. -/
def protocol : Reply → ProtocolId
  | value protocol _ => protocol
  | error _ _ => .error

theorem lawful_content {r : Reply} (portable : r.Portable) : r.content.Lawful := by
  cases r with
  | value protocol v => exact portable.lawful
  | error code message => exact ErrorResponse.lawful_toJson _

theorem nested_content {r : Reply} (portable : r.Portable) : r.content.Nested Json.maxDepth := by
  cases r with
  | value protocol v => exact portable.nested
  | error code message => exact ErrorResponse.nested_toJson _

theorem frameOf_eq (r : Reply) (s : Session) (sequence : Int64) (z : Serializer) :
    r.frameOf s sequence z = .response s.family sequence r.protocol (z.encode r.content) := by
  cases r <;> rfl

/-- A frame that an answer is read out of under a serializer. -/
structure Legible (z : Serializer) (m : Message) (r : Reply) : Prop where
  kind : m.kind = .response
  protocol : m.protocol = r.protocol
  body : z.decode m.body = .ok r.content

theorem legible_frameOf {r : Reply} (portable : r.Portable) (s : Session) (sequence : Int64)
    {z y : Serializer} (same : y.type = z.type) : r.Legible y (r.frameOf s sequence z) := by
  rw [frameOf_eq]
  refine ⟨rfl, rfl, ?_⟩
  rw [Serializer.decode_of_type same]
  exact (z.decode_encode (lawful_content portable)).mpr (nested_content portable)

namespace Legible

variable {z : Serializer} {m : Message} {r : Reply} {code : ErrorCode} {message : String}
  {own : ProtocolId} {v : Json}

/-- An answer is legible behind a server that moves it to another serializer. -/
theorem moved (legible : r.Legible z m) (portable : r.Portable) (y : Serializer) (family : Family)
    (sequence : Int64) : ∃ body, z.transcode y m.body = .ok body ∧
      r.Legible y (.response family sequence m.protocol body) := by
  obtain ⟨body, transcoded, found⟩ :=
    Serializer.transcode_decodes y (lawful_content portable) legible.body
  exact ⟨body, transcoded, rfl, legible.protocol, found⟩

theorem isError (legible : (error code message).Legible z m) : m.isError = true := by
  simp [Message.isError, legible.kind, legible.protocol, Reply.protocol]

theorem decodeAs_error (legible : (error code message).Legible z m) :
    z.decodeAs ErrorResponse.shape m.body = .ok ⟨code, message⟩ := by
  simp only [Serializer.decodeAs, legible.body, bind, Except.bind, content,
    ErrorResponse.shape_toJson]
  rfl

/-- No value is taken for an error: no handler has a protocol of the transport. -/
theorem isError_value (legible : (value own v).Legible z m) (free : own.isReserved = false) :
    m.isError = false := by
  have other : own ≠ .error := by
    rintro rfl
    cases free
  simp [Message.isError, legible.kind, legible.protocol, Reply.protocol, other]

theorem decodeResponse_value (legible : (value own v).Legible z m)
    (free : own.isReserved = false) : decodeResponse z Json.Shape.any m = .ok v := by
  simp only [decodeResponse, legible.isError_value free, Serializer.decodeAs, legible.body, content,
    bind, Except.bind]
  rfl

theorem decodeResponse_error {α : Type} (legible : (error code message).Legible z m)
    (shape : Json.Shape α) : decodeResponse z shape m = .error (.remote code message) := by
  rw [decodeResponse, legible.isError, if_pos rfl, legible.decodeAs_error]

end Legible
end Reply
end ClusterWire
