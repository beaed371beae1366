import ClusterWire.Deflate.Inflate

/-! Writing deflate streams as stored blocks. Which stream a writer chooses is
its own affair as long as it stands for the same bytes. -/
namespace ClusterWire.Deflate

def blockSize : Nat := 65535

def littleEndian16 (n : Nat) : Bytes := [UInt8.ofNat (n % 256), UInt8.ofNat (n / 256)]

/-- A stored block with its header: the final flag, the length and the
complement of the length. -/
def block (final : Bool) (bs : Bytes) : Bytes :=
  (if final then 1 else 0) :: littleEndian16 bs.length
    ++ littleEndian16 (0xFFFF - bs.length) ++ bs

def blocks : Nat → Bytes → Bytes
  | 0, bs => block true (bs.take blockSize)
  | fuel + 1, bs =>
    if bs.length ≤ blockSize then block true bs
    else block false (bs.take blockSize) ++ blocks fuel (bs.drop blockSize)

def deflate (bs : Bytes) : Bytes := blocks (bs.length / blockSize) bs

end ClusterWire.Deflate
