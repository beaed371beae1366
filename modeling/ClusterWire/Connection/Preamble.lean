import ClusterWire.Message

/-! The first two bytes of a connection. They decide how the rest of it is
read, and stay in the stream for whoever reads it. -/
namespace ClusterWire

inductive Preamble where
  | needMore
  | binary (family : Family)
  | webSocket
  | reject (first second : UInt8)
deriving DecidableEq, Repr

/-- `GE`, the start of a GET request. -/
def webSocketSignature : UInt8 × UInt8 := (0x47, 0x45)

def Preamble.ofBytes : Bytes → Preamble
  | first :: second :: _ =>
    match Family.ofTag? (UInt16.ofNat (Bytes.toNat [first, second])) with
    | some family => .binary family
    | none => if (first, second) = webSocketSignature then .webSocket else .reject first second
  | _ => .needMore

end ClusterWire
