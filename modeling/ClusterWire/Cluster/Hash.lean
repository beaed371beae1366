import ClusterWire.Bytes

/-! The keyed hash SipHash with one round a block and three at the end, under
the zero key. -/
namespace ClusterWire.Cluster

structure HashState where
  v0 : UInt64
  v1 : UInt64
  v2 : UInt64
  v3 : UInt64

def rotate (x : UInt64) (n : UInt64) : UInt64 := (x <<< n) ||| (x >>> (64 - n))

namespace HashState

def start : HashState where
  v0 := 0x736f6d6570736575
  v1 := 0x646f72616e646f6d
  v2 := 0x6c7967656e657261
  v3 := 0x7465646279746573

def round (s : HashState) : HashState :=
  let v0 := s.v0 + s.v1
  let v1 := rotate s.v1 13 ^^^ v0
  let v0 := rotate v0 32
  let v2 := s.v2 + s.v3
  let v3 := rotate s.v3 16 ^^^ v2
  let v0 := v0 + v3
  let v3 := rotate v3 21 ^^^ v0
  let v2 := v2 + v1
  let v1 := rotate v1 17 ^^^ v2
  ⟨v0, v1, rotate v2 32, v3⟩

def absorb (s : HashState) (block : UInt64) : HashState :=
  let s := round { s with v3 := s.v3 ^^^ block }
  { s with v0 := s.v0 ^^^ block }

def finish (s : HashState) : UInt64 :=
  let s := round (round (round { s with v2 := s.v2 ^^^ 0xff }))
  s.v0 ^^^ s.v1 ^^^ s.v2 ^^^ s.v3

end HashState

/-- Eight bytes, the lowest first. -/
def blockOf (bs : Bytes) : UInt64 := UInt64.ofNat (Bytes.toNat bs.reverse)

/-- The last block holds the bytes left over and, in its highest byte, the
length of all. -/
def hashBlocks (total : Nat) : Nat → Bytes → HashState → UInt64
  | 0, bs, s =>
    let padded := bs ++ List.replicate (7 - bs.length) 0 ++ [UInt8.ofNat total]
    (s.absorb (blockOf padded)).finish
  | n + 1, bs, s => hashBlocks total n (bs.drop 8) (s.absorb (blockOf (bs.take 8)))

def hash (bs : Bytes) : UInt64 :=
  hashBlocks bs.length (bs.length / 8) bs .start

def hashIdentity (identity : Int64) : UInt64 :=
  hash (Bytes.bigEndian 8 identity.toUInt64.toNat).reverse

/-- The hash of a text given as UTF-8; a byte that no text holds ends it. -/
def hashText (utf8 : Bytes) : UInt64 := hash (utf8 ++ [0xFF])

end ClusterWire.Cluster
