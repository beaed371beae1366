import ClusterWire.Bytes

/-! Wire messages. Internal messages travel between server processes, and only
their requests name a caller and an origin; external messages travel between
clients and servers and rely on the session for identity. -/
namespace ClusterWire

/-- Protocol family, written as the two-byte tag that opens every frame. -/
inductive Family where
  | internal
  | external
deriving DecidableEq, Repr

namespace Family

def tag : Family → UInt16
  | internal => 0x7F01
  | external => 0x7F02

def ofTag? (tag : UInt16) : Option Family :=
  if tag = 0x7F01 then some internal
  else if tag = 0x7F02 then some external
  else none

def text : Family → String
  | internal => "internal"
  | external => "external"

@[simp] theorem ofTag?_tag (f : Family) : ofTag? f.tag = some f := by
  cases f <;> rfl

theorem tag_of_ofTag? {tag : UInt16} {f : Family} (known : ofTag? tag = some f) : f.tag = tag := by
  unfold ofTag? at known
  split at known
  · rename_i same
    cases known
    exact same.symm
  · split at known
    · rename_i same
      cases known
      exact same.symm
    · cases known

end Family

inductive Kind where
  | request
  | response
  | heartbeatRequest
  | heartbeatResponse
deriving DecidableEq, Repr

namespace Kind

def byte : Kind → UInt8
  | request => 1
  | response => 2
  | heartbeatRequest => 3
  | heartbeatResponse => 4

def ofByte? (b : UInt8) : Option Kind :=
  if b = 1 then some request
  else if b = 2 then some response
  else if b = 3 then some heartbeatRequest
  else if b = 4 then some heartbeatResponse
  else none

def isHeartbeat : Kind → Bool
  | heartbeatRequest | heartbeatResponse => true
  | _ => false

def text : Kind → String
  | request => "Request"
  | response => "Response"
  | heartbeatRequest => "HeartbeatRequest"
  | heartbeatResponse => "HeartbeatResponse"

def name : Kind → String
  | request => "request"
  | response => "response"
  | heartbeatRequest => "heartbeat_request"
  | heartbeatResponse => "heartbeat_response"

@[simp] theorem ofByte?_byte (k : Kind) : ofByte? k.byte = some k := by
  cases k <;> rfl

theorem byte_of_ofByte? {b : UInt8} {k : Kind} (known : ofByte? b = some k) : k.byte = b := by
  unfold ofByte? at known
  repeat' split at known
  all_goals cases known
  all_goals symm; assumption

end Kind

/-- A remotely callable operation: a module and a method in it. Module 0
belongs to the transport, negative methods to pushes. -/
structure ProtocolId where
  module : Int16
  method : Int8
deriving DecidableEq, Repr

namespace ProtocolId

def heartbeat : ProtocolId := ⟨0, 0⟩

def error : ProtocolId := ⟨0, 1⟩

def isPush (id : ProtocolId) : Bool := id.method < 0
def isReserved (id : ProtocolId) : Bool := id.module == 0

def text (id : ProtocolId) : String := s!"{id.module.toInt}:{id.method.toInt}"

/-- Modules first, then methods. -/
def before (a b : ProtocolId) : Bool :=
  a.module < b.module || (a.module == b.module && a.method < b.method)

end ProtocolId

/-- One decoded frame. Only requests between servers name the identity they
run for and may carry the address of the connection they came from; heartbeats
carry nothing. -/
inductive Message where
  | peerRequest (sequence : Int64) (protocol : ProtocolId) (caller : Int64)
      (hint : Option String) (body : Bytes)
  | clientRequest (sequence : Int64) (protocol : ProtocolId) (body : Bytes)
  | response (family : Family) (sequence : Int64) (protocol : ProtocolId) (body : Bytes)
  | heartbeatRequest (family : Family)
  | heartbeatResponse (family : Family)
deriving DecidableEq, Repr

namespace Message

def request (family : Family) (sequence : Int64) (protocol : ProtocolId) (body : Bytes) : Message :=
  match family with
  | .internal => .peerRequest sequence protocol 0 none body
  | .external => .clientRequest sequence protocol body

def family : Message → Family
  | peerRequest .. => .internal
  | clientRequest .. => .external
  | response f .. | heartbeatRequest f | heartbeatResponse f => f

def kind : Message → Kind
  | peerRequest .. | clientRequest .. => .request
  | response .. => .response
  | heartbeatRequest _ => .heartbeatRequest
  | heartbeatResponse _ => .heartbeatResponse

/-- 0 on messages that answer nothing and expect no answer. -/
def sequence : Message → Int64
  | peerRequest s .. | clientRequest s .. | response _ s .. => s
  | heartbeatRequest _ | heartbeatResponse _ => 0

def protocol : Message → ProtocolId
  | peerRequest _ p .. | clientRequest _ p _ | response _ _ p _ => p
  | heartbeatRequest _ | heartbeatResponse _ => .heartbeat

def caller : Message → Int64
  | peerRequest _ _ c .. => c
  | _ => 0

def hint : Message → Option String
  | peerRequest _ _ _ h _ => h
  | _ => none

def body : Message → Bytes
  | peerRequest _ _ _ _ b | clientRequest _ _ b | response _ _ _ b => b
  | heartbeatRequest _ | heartbeatResponse _ => []

def carriesCaller : Message → Bool
  | peerRequest .. => true
  | _ => false

def responseTo (m : Message) (body : Bytes) : Message :=
  .response m.family m.sequence m.protocol body

def errorResponse (family : Family) (sequence : Int64) (body : Bytes) : Message :=
  .response family sequence .error body

/-- A response that answers no request. -/
def push (family : Family) (protocol : ProtocolId) (body : Bytes) : Message :=
  .response family 0 protocol body

/-- Attaches the origin of a relayed call; only a request between servers can
carry one. -/
def withOriginHint (m : Message) (origin : String) : Message :=
  match m with
  | peerRequest s p c _ b => .peerRequest s p c (some origin) b
  | m => m

/-- The message under another family, with all that family can carry. -/
def inFamily (m : Message) (family : Family) : Message :=
  match m, family with
  | peerRequest s p _ _ b, .external => .clientRequest s p b
  | clientRequest s p b, .internal => .peerRequest s p 0 none b
  | response _ s p b, f => .response f s p b
  | heartbeatRequest _, f => .heartbeatRequest f
  | heartbeatResponse _, f => .heartbeatResponse f
  | m, _ => m

def isError (m : Message) : Bool :=
  m.kind == .response && m.protocol == .error

end Message
end ClusterWire
