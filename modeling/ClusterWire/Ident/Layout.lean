/-! Distributed ids: a timestamp, the worker that minted the id and a sequence
number, packed into a nonnegative 64-bit number. Arithmetic is checked: a shift
by 64 or more and a sum of widths above 255 are faults of their own. -/
namespace ClusterWire.Ident

inductive Overflow where
  | shiftLeft
  | shiftRight
  | add
deriving DecidableEq, Repr

def Overflow.message : Overflow → String
  | shiftLeft => "attempt to shift left with overflow"
  | shiftRight => "attempt to shift right with overflow"
  | add => "attempt to add with overflow"

/-- Bit widths, and the milliseconds since 1970 that timestamp 0 stands for. -/
structure Layout where
  workerBits : UInt8
  sequenceBits : UInt8
  epoch : UInt64
deriving DecidableEq, Repr

/-- Ten bits of worker, twelve of sequence, counted from the start of 2024. -/
def Layout.standard : Layout := ⟨10, 12, 1704067200000⟩

namespace Layout

/-- `v * 2 ^ n` in 64 bits; bits beyond are lost. -/
def shiftLeft (v n : Nat) : Except Overflow Nat :=
  if n < 64 then .ok (v * Nat.pow 2 n % UInt64.size) else .error .shiftLeft

def shiftRight (v n : Nat) : Except Overflow Nat :=
  if n < 64 then .ok (v / Nat.pow 2 n) else .error .shiftRight

def fieldMask (bits : Nat) : Except Overflow Nat := do
  return ((← shiftLeft 1 bits) - 1) % UInt32.size

def maxWorker (l : Layout) : Except Overflow UInt32 :=
  (fieldMask l.workerBits.toNat).map UInt32.ofNat

def maxSequence (l : Layout) : Except Overflow UInt32 :=
  (fieldMask l.sequenceBits.toNat).map UInt32.ofNat

def width (l : Layout) : Except Overflow Nat :=
  if l.sequenceBits.toNat + l.workerBits.toNat < 256 then
    .ok (l.sequenceBits.toNat + l.workerBits.toNat)
  else .error .add

def workerOf (l : Layout) (id : Int64) : Except Overflow UInt32 := do
  let high ← shiftRight id.toUInt64.toNat l.sequenceBits.toNat
  return UInt32.ofNat (high &&& (← l.maxWorker).toNat)

def timestampOf (l : Layout) (id : Int64) : Except Overflow UInt64 := do
  return UInt64.ofNat (← shiftRight id.toUInt64.toNat (← l.width))

/-- The id of a timestamp, a worker and a sequence number. The latter two are
cut to their fields, and the sign bit stays clear. -/
def compose (l : Layout) (timestamp : UInt64) (worker sequence : UInt32) :
    Except Overflow Int64 := do
  let high ← shiftLeft timestamp.toNat (← l.width)
  let worker := worker.toNat &&& (← l.maxWorker).toNat
  let middle ← shiftLeft worker l.sequenceBits.toNat
  let low := sequence.toNat &&& (← l.maxSequence).toNat
  return Int64.ofNat ((high ||| middle ||| low) % 0x8000000000000000)

end Layout
end ClusterWire.Ident
