import ClusterWire.Proofs.Deflate

/-! Compressors. Which stream one writes at which level is its own affair, as long as the stream
stands for the bytes that it was given. -/
namespace ClusterWire.Deflate

structure Compressor where
  write : Nat → Bytes → Bytes
  inflates : ∀ level bs, inflate (write level bs) = .ok bs

namespace Compressor

/-- Stored blocks at every level. -/
def stored : Compressor := ⟨fun _ => deflate, fun _ => inflate_deflate⟩

theorem write_ne_nil (c : Compressor) (level : Nat) (bs : Bytes) : c.write level bs ≠ [] := by
  intro empty
  have read := c.inflates level bs
  rw [empty] at read
  cases read

end Compressor
end ClusterWire.Deflate
