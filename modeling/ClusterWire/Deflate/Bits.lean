import ClusterWire.Bytes

/-! Bytes as a stream of bits, the lowest bit of each byte first. -/
namespace ClusterWire.Deflate

abbrev Bits := List Bool

inductive Fault where
  | corrupt
  | incomplete
deriving DecidableEq, Repr

def Fault.message : Fault → String
  | corrupt => "corrupt deflate stream"
  | incomplete => "incomplete deflate stream"

def bitsOfByte (b : UInt8) : Bits :=
  (List.range 8).map b.toNat.testBit

def bitsOf (bs : Bytes) : Bits := bs.flatMap bitsOfByte

/-- A number of `n` bits, the lowest first, and the bits behind it. -/
def take : Nat → Bits → Except Fault (Nat × Bits)
  | 0, bits => .ok (0, bits)
  | _ + 1, [] => .error .incomplete
  | n + 1, b :: bits => do
    let (high, rest) ← take n bits
    return (2 * high + b.toNat, rest)

end ClusterWire.Deflate
