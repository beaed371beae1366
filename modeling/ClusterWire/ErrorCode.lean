import ClusterWire.Json.Shape

/-! Error codes on the wire. Codes below 1000 belong to the transport,
handlers report failures of their own from 1000 on. -/
namespace ClusterWire

structure ErrorCode where
  value : Int32
deriving DecidableEq, Repr

namespace ErrorCode

/-- An unexpected failure. Its details stay on the server. -/
def unknown : ErrorCode := ⟨1⟩
def noIdentity : ErrorCode := ⟨2⟩
def unsupportedProtocol : ErrorCode := ⟨3⟩
def timeout : ErrorCode := ⟨4⟩
def badRequest : ErrorCode := ⟨5⟩

def applicationBase : Int32 := 1000

def isSystem (c : ErrorCode) : Bool := c.value < applicationBase

def text (c : ErrorCode) : String :=
  let n := c.value.toInt
  if c = unknown then s!"unknown({n})"
  else if c = noIdentity then s!"no_identity({n})"
  else if c = unsupportedProtocol then s!"unsupported_protocol({n})"
  else if c = timeout then s!"timeout({n})"
  else if c = badRequest then s!"bad_request({n})"
  else s!"{n}"

end ErrorCode

structure ErrorResponse where
  code : ErrorCode
  message : String
deriving DecidableEq, Repr

namespace ErrorResponse

def toJson (e : ErrorResponse) : Json :=
  Json.ofFields [("code", .ofInt64 e.code.value.toInt64), ("message", .string e.message)]

def shape : Json.Shape ErrorResponse := fun v => do
  let field ← Json.Shape.record "ErrorResponse"
    [.required "code" Json.Shape.int32, .required "message" Json.Shape.text] v
  return { code := ⟨← Json.Shape.int32 (field "code")⟩
           message := ← Json.Shape.text (field "message") }

end ErrorResponse
end ClusterWire
