import ClusterWire.Cluster.Server
import ClusterWire.Failure
import ClusterWire.Message

/-! The protocol table: which protocols exist and where they are served, and
which of them this process serves itself. -/
namespace ClusterWire

inductive Binding where
  | session
  | identity
  | body
  | pushTargets
deriving DecidableEq, Repr

namespace Binding

def all : List Binding := [session, identity, body, pushTargets]

def text : Binding → String
  | session => "session"
  | identity => "identity"
  | body => "body"
  | pushTargets => "push_targets"

def ofText? (s : String) : Option Binding := all.find? (·.text == s)

end Binding

/-- A synchronous handler is always answered, an asynchronous one runs beside
its worker and is answered when it gives a value. -/
inductive HandlerMode where
  | synchronous
  | asynchronous
deriving DecidableEq, Repr

structure Descriptor where
  protocol : ProtocolId
  name : String
  target : ServerType := defaultServerType
  bindings : List Binding := []
  mode : HandlerMode := .synchronous
  requiresIdentity : Bool := false
  responseType : Option String := none
deriving DecidableEq, Repr

namespace Descriptor

def bind (d : Descriptor) (b : Binding) : Descriptor :=
  if b ∈ d.bindings then d else { d with bindings := d.bindings ++ [b] }

theorem mem_bind {d : Descriptor} {b c : Binding} :
    c ∈ (d.bind b).bindings ↔ c ∈ d.bindings ∨ c = b := by
  unfold bind
  split
  · rename_i held
    exact ⟨.inl, fun h => h.elim (fun h => h) fun e => e ▸ held⟩
  · simp

def bindAll (d : Descriptor) (bs : List Binding) : Descriptor := bs.foldl bind d

def binds (d : Descriptor) (b : Binding) : Bool := d.bindings.contains b

def isSynchronous (d : Descriptor) : Bool := d.mode == .synchronous

def text (d : Descriptor) : String := s!"{d.name} ({d.protocol.text} on {d.target})"

end Descriptor

/-- Wiring faults. A server with one does not start. -/
inductive RegistryFault where
  | duplicateProtocol (protocol : ProtocolId)
  | reservedProtocol (protocol : ProtocolId)
  | missingResponseType (protocol : ProtocolId) (name : String)
  | responseTypeMismatch (protocol : ProtocolId) (expected actual : String)
deriving DecidableEq, Repr

def RegistryFault.message : RegistryFault → String
  | duplicateProtocol protocol => s!"protocol {protocol.text} is already registered"
  | reservedProtocol protocol => s!"protocol {protocol.text} uses the reserved module 0"
  | missingResponseType protocol name =>
    s!"handler {name} ({protocol.text}) is synchronous but declares no response type"
  | responseTypeMismatch protocol expected actual =>
    s!"handler {protocol.text} returns {actual} but the declared response shape is {expected}"

def RegistryFault.label : RegistryFault → String
  | duplicateProtocol _ => "DuplicateProtocol"
  | reservedProtocol _ => "ReservedProtocol"
  | missingResponseType _ _ => "MissingResponseType"
  | responseTypeMismatch _ _ _ => "ResponseTypeMismatch"

instance : Failure RegistryFault := ⟨RegistryFault.label, RegistryFault.message⟩

/-- Declared protocols, bound handlers by increasing protocol, and the
response types that callers expect. -/
structure Registry (H : Type) where
  declared : List Descriptor
  bound : List (Descriptor × H)
  shapes : List (ProtocolId × String)

namespace Registry

variable {H : Type}

def empty : Registry H := ⟨[], [], []⟩

def lookup (r : Registry H) (protocol : ProtocolId) : Option Descriptor :=
  r.declared.find? (·.protocol == protocol)

def handler? (r : Registry H) (protocol : ProtocolId) : Option (Descriptor × H) :=
  r.bound.find? (·.1.protocol == protocol)

def declare (r : Registry H) (d : Descriptor) : Except RegistryFault (Registry H) :=
  if d.protocol.isReserved then .error (.reservedProtocol d.protocol)
  else if (r.lookup d.protocol).isSome then .error (.duplicateProtocol d.protocol)
  else .ok { r with declared := r.declared ++ [d] }

def insert (d : Descriptor) (h : H) : List (Descriptor × H) → List (Descriptor × H)
  | [] => [(d, h)]
  | (e, k) :: rest =>
    if d.protocol.before e.protocol then (d, h) :: (e, k) :: rest else (e, k) :: insert d h rest

theorem mem_insert {d : Descriptor} {h : H} {entry : Descriptor × H}
    {entries : List (Descriptor × H)} :
    entry ∈ insert d h entries ↔ entry = (d, h) ∨ entry ∈ entries := by
  fun_induction insert d h entries with
  | case1 | case2 => simp
  | case3 e k rest _ ih => simp [ih, or_left_comm]

def bind (r : Registry H) (d : Descriptor) (h : H) : Except RegistryFault (Registry H) :=
  if d.protocol.isReserved then .error (.reservedProtocol d.protocol)
  else if (r.handler? d.protocol).isSome then .error (.duplicateProtocol d.protocol)
  else
    .ok { r with
      declared := if (r.lookup d.protocol).isSome then r.declared else r.declared ++ [d]
      bound := insert d h r.bound }

/-- Binds a handler that returns `responseType`; a synchronous one that names
no response type gets that one. -/
def route (r : Registry H) (d : Descriptor) (responseType : String) (h : H) :
    Except RegistryFault (Registry H) :=
  if d.isSynchronous ∧ d.responseType.isNone then
    r.bind { d with responseType := some responseType } h
  else r.bind d h

def expect (r : Registry H) (protocol : ProtocolId) (type : String) : Registry H :=
  { r with shapes := (protocol, type) :: r.shapes.filter (·.1 != protocol) }

/-- A synchronous handler names a response type, and the expected one. -/
def check (shapes : List (ProtocolId × String)) (d : Descriptor) : Except RegistryFault Unit :=
  if !d.isSynchronous then .ok ()
  else
    match d.responseType with
    | none => .error (.missingResponseType d.protocol d.name)
    | some actual =>
      match shapes.lookup d.protocol with
      | none => .ok ()
      | some expected =>
        if expected = actual then .ok ()
        else .error (.responseTypeMismatch d.protocol expected actual)

def verify (r : Registry H) : Except RegistryFault Unit :=
  r.bound.forM fun (d, _) => check r.shapes d

end Registry
end ClusterWire
