import ClusterWire.Deflate.Compressor
import ClusterWire.Failure
import ClusterWire.Json.Reader
import ClusterWire.Json.Shape

/-! Body serializers. A connection carries the byte of its serializer; the
null value and the empty body stand for each other under all of them. -/
namespace ClusterWire

inductive JsonFault where
  | malformed (fault : Json.SyntaxFault)
  | shape (fault : Json.ShapeFault)
deriving Repr

def JsonFault.message : JsonFault → String
  | malformed fault => fault.message
  | shape fault => fault.message

inductive CodecFault where
  | unknownSerializer (type : UInt8)
  | json (fault : JsonFault)
  | compression (fault : Deflate.Fault)
deriving Repr

def CodecFault.message : CodecFault → String
  | unknownSerializer type => s!"no serializer registered for type {type.toNat}"
  | json fault => s!"JSON error: {fault.message}"
  | compression fault => s!"compression error: {fault.message}"

def CodecFault.label : CodecFault → String
  | unknownSerializer _ => "UnknownSerializer"
  | json _ => "Json"
  | compression _ => "Compression"

instance : Failure CodecFault := ⟨CodecFault.label, CodecFault.message⟩

inductive Serializer where
  | json
  | deflate (compressor : Deflate.Compressor) (level : Nat)

namespace Serializer

def type : Serializer → UInt8
  | json => 0
  | deflate _ _ => 1

def name : Serializer → String
  | json => "json"
  | deflate _ _ => "deflate-json"

/-- A deflate serializer; levels end at 9. -/
def deflateAt (level : Nat) (compressor : Deflate.Compressor := .stored) : Serializer :=
  .deflate compressor (min level 9)

def encode (s : Serializer) (v : Json) : Bytes :=
  if v.isNull then []
  else
    match s with
    | json => v.encode
    | deflate compressor level => compressor.write level v.encode

def readJson (bs : Bytes) : Except CodecFault Json :=
  (Json.decode bs).mapError fun fault => .json (.malformed fault)

def decode (s : Serializer) (body : Bytes) : Except CodecFault Json :=
  if body.isEmpty then .ok .null
  else
    match s with
    | json => readJson body
    | deflate _ _ =>
      match Deflate.inflate body with
      | .ok text => readJson text
      | .error fault => .error (.compression fault)

def decodeAs {α : Type} (s : Serializer) (shape : Json.Shape α) (body : Bytes) :
    Except CodecFault α := do
  let v ← s.decode body
  (shape v).mapError fun fault => .json (.shape fault)

/-- Moves a body to another serializer. Bytes stay as they are when both
sides agree on the type. -/
def transcode (source target : Serializer) (body : Bytes) : Except CodecFault Bytes :=
  if source.type = target.type then .ok body
  else (source.decode body).map target.encode

end Serializer

/-- The serializers of a process, the latest of a type first, and the type
that new links use. -/
structure Serializers where
  known : List Serializer
  defaultType : UInt8

namespace Serializers

def empty (defaultType : UInt8) : Serializers := ⟨[], defaultType⟩

def register (r : Serializers) (s : Serializer) : Serializers :=
  { r with known := s :: r.known.filter (·.type != s.type) }

def standard (compressor : Deflate.Compressor := .stored) : Serializers :=
  ((empty 0).register .json).register (.deflateAt 1 compressor)

def find? (r : Serializers) (type : UInt8) : Option Serializer :=
  r.known.find? (·.type == type)

def contains (r : Serializers) (type : UInt8) : Bool := (r.find? type).isSome

def get (r : Serializers) (type : UInt8) : Except CodecFault Serializer :=
  match r.find? type with
  | some s => .ok s
  | none => .error (.unknownSerializer type)

def withDefault (r : Serializers) (type : UInt8) : Except CodecFault Serializers :=
  if r.contains type then .ok { r with defaultType := type }
  else .error (.unknownSerializer type)

def defaultSerializer (r : Serializers) : Except CodecFault Serializer := r.get r.defaultType

end Serializers
end ClusterWire
