import ClusterWire.Deflate.Stored

/-! Stored blocks read back: what is written as a deflate stream is inflated to
the same bytes. -/
namespace ClusterWire
namespace Deflate

/-! Bits of numbers. -/

theorem take_testBit (n v : Nat) (rest : Bits) :
    take n ((List.range n).map v.testBit ++ rest) = .ok (v % Nat.pow 2 n, rest) := by
  induction n generalizing v with
  | zero => simp [take, Nat.mod_one]
  | succ n ih =>
    have half : (v.testBit ∘ fun i => i + 1) = (v / 2).testBit := by
      funext i
      exact Nat.testBit_succ v i
    have parity : (v.testBit 0).toNat = v % 2 := by
      rw [Nat.testBit_zero]
      rcases Nat.mod_two_eq_zero_or_one v with even | odd
      · rw [even]; rfl
      · rw [odd]; rfl
    have whole : 2 * (v / 2 % Nat.pow 2 n) + v % 2 = v % Nat.pow 2 (n + 1) := by
      have power : Nat.pow 2 (n + 1) = 2 * Nat.pow 2 n := Nat.mul_comm _ _
      rw [power, Nat.mod_mul]
      omega
    rw [List.range_succ_eq_map, List.map_cons, List.map_map, List.cons_append, half]
    simp only [take, ih, bind, Except.bind, pure, Except.pure, parity, whole]

theorem take_add {m n low high : Nat} {bits mid rest : Bits} (front : take m bits = .ok (low, mid))
    (back : take n mid = .ok (high, rest)) :
    take (m + n) bits = .ok (low + Nat.pow 2 m * high, rest) := by
  induction m generalizing bits low with
  | zero =>
    cases front
    simpa using back
  | succ m ih =>
    cases bits with
    | nil => cases front
    | cons b bits =>
      cases inner : take m bits with
      | error fault => simp [take, inner, bind, Except.bind] at front
      | ok found =>
        obtain ⟨half, left⟩ := found
        simp only [take, inner, bind, Except.bind, pure, Except.pure, Except.ok.injEq,
          Prod.mk.injEq] at front
        obtain ⟨rfl, rfl⟩ := front
        have whole : 2 * (half + Nat.pow 2 m * high) + b.toNat =
            2 * half + b.toNat + Nat.pow 2 (m + 1) * high := by
          have power : Nat.pow 2 (m + 1) = 2 * Nat.pow 2 m := Nat.mul_comm _ _
          rw [power, Nat.mul_add, Nat.mul_assoc]
          omega
        rw [Nat.add_right_comm]
        simp only [take, ih inner, bind, Except.bind, pure, Except.pure, whole]

theorem take_byte (b : UInt8) (rest : Bits) : take 8 (bitsOfByte b ++ rest) = .ok (b.toNat, rest) := by
  have read := take_testBit 8 b.toNat rest
  rwa [Nat.mod_eq_of_lt b.toNat_lt] at read

theorem bitsOf_cons (b : UInt8) (bs : Bytes) : bitsOf (b :: bs) = bitsOfByte b ++ bitsOf bs := rfl

theorem bitsOf_append (bs more : Bytes) : bitsOf (bs ++ more) = bitsOf bs ++ bitsOf more :=
  List.flatMap_append

theorem length_bitsOf (bs : Bytes) : (bitsOf bs).length = 8 * bs.length := by
  induction bs with
  | nil => rfl
  | cons b bs ih =>
    rw [bitsOf_cons, List.length_append, ih, List.length_cons]
    simp only [bitsOfByte, List.length_map, List.length_range]
    omega

theorem take_littleEndian16 {n : Nat} (small : n ≤ 65535) (rest : Bytes) :
    take 16 (bitsOf (littleEndian16 n ++ rest)) = .ok (n, bitsOf rest) := by
  have low : (UInt8.ofNat (n % 256)).toNat = n % 256 % 256 := rfl
  have high : (UInt8.ofNat (n / 256)).toNat = n / 256 % 256 := rfl
  have read := take_add (take_byte (UInt8.ofNat (n % 256)) (bitsOf (UInt8.ofNat (n / 256) :: rest)))
    (take_byte (UInt8.ofNat (n / 256)) (bitsOf rest))
  have whole : n % 256 % 256 + Nat.pow 2 8 * (n / 256 % 256) = n := by
    change n % 256 % 256 + 256 * (n / 256 % 256) = n
    omega
  rw [low, high, whole] at read
  exact read

theorem readBytes_bitsOf (bs : Bytes) (out : Array UInt8) (rest : Bits) :
    readBytes bs.length out (bitsOf bs ++ rest) = .ok (out ++ bs.toArray, rest) := by
  induction bs generalizing out with
  | nil => simp [readBytes, bitsOf]
  | cons b bs ih =>
    have same : UInt8.ofNat b.toNat = b := UInt8.ofNat_toNat
    rw [List.length_cons, bitsOf_cons, List.append_assoc]
    simp only [readBytes, take_byte, bind, Except.bind, same, ih, Except.ok.injEq, Prod.mk.injEq,
      and_true]
    apply Array.toList_inj.mp
    simp

/-! Blocks. -/

theorem readStored_block {bs : Bytes} (fits : bs.length ≤ blockSize) (pad : Bits)
    (aligned : pad.length < 8) (out : Array UInt8) (rest : Bytes) :
    readStored out (pad ++ bitsOf (littleEndian16 bs.length ++
        (littleEndian16 (0xFFFF - bs.length) ++ (bs ++ rest)))) =
      .ok (out ++ bs.toArray, bitsOf rest) := by
  have size : blockSize = 65535 := rfl
  have drop : ∀ more : Bytes,
      (pad ++ bitsOf more).drop ((pad ++ bitsOf more).length % 8) = bitsOf more := by
    intro more
    have start : (pad ++ bitsOf more).length % 8 = pad.length := by
      rw [List.length_append, length_bitsOf]
      omega
    rw [start, List.drop_left]
  have below : bs.length ≤ 65535 := by omega
  have length := take_littleEndian16 below
    (littleEndian16 (0xFFFF - bs.length) ++ (bs ++ rest))
  have complement := take_littleEndian16 (Nat.sub_le 0xFFFF bs.length) (bs ++ rest)
  have body := readBytes_bitsOf bs out (bitsOf rest)
  have sum : bs.length + (0xFFFF - bs.length) = 0xFFFF := by omega
  rw [← bitsOf_append] at body
  simp only [readStored, drop, length, complement, sum, ne_eq, not_true_eq_false, if_false, body,
    bind, Except.bind]

/-- The three bits at the head of a stored block, and what pads them to a byte. -/
theorem bitsOf_flag (final : Bool) (rest : Bytes) :
    bitsOf ((if final then 1 else 0) :: rest) =
      final :: false :: false :: (List.replicate 5 false ++ bitsOf rest) := by
  rw [bitsOf_cons]
  cases final <;> rfl

theorem readBlocks_block {bs : Bytes} (fits : bs.length ≤ blockSize) (final : Bool) (fuel : Nat)
    (out : Array UInt8) (rest : Bytes) :
    readBlocks (fuel + 1) out (bitsOf (block final bs ++ rest)) =
      if final then .ok (out ++ bs.toArray)
      else readBlocks fuel (out ++ bs.toArray) (bitsOf rest) := by
  have body := readStored_block fits (List.replicate 5 false) (by simp) out rest
  have shape : block final bs ++ rest = (if final then 1 else 0) :: (littleEndian16 bs.length ++
      (littleEndian16 (0xFFFF - bs.length) ++ (bs ++ rest))) := by
    simp [block]
  rw [shape, bitsOf_flag]
  simp only [readBlocks, take, readBlock, body, bind, Except.bind, pure, Except.pure]
  cases final <;> simp

theorem readBlocks_last {bs : Bytes} (fits : bs.length ≤ blockSize) (fuel : Nat)
    (out : Array UInt8) :
    readBlocks (fuel + 1) out (bitsOf (block true bs)) = .ok (out ++ bs.toArray) := by
  have read := readBlocks_block fits true fuel out []
  rwa [List.append_nil] at read

theorem length_drop_le {bs : Bytes} {fuel : Nat} (enough : bs.length ≤ (fuel + 1 + 1) * blockSize) :
    (bs.drop blockSize).length ≤ (fuel + 1) * blockSize := by
  rw [Nat.add_mul, Nat.one_mul] at enough
  rw [List.length_drop]
  omega

theorem take_of_enough {bs : Bytes} (enough : bs.length ≤ (0 + 1) * blockSize) :
    bs.length ≤ blockSize ∧ bs.take blockSize = bs := by
  have fits : bs.length ≤ blockSize := by omega
  exact ⟨fits, List.take_of_length_le fits⟩

theorem length_lt_blocks (fuel : Nat) {bs : Bytes} (enough : bs.length ≤ (fuel + 1) * blockSize) :
    bs.length < (blocks fuel bs).length := by
  induction fuel generalizing bs with
  | zero =>
    rw [blocks, (take_of_enough enough).2]
    simp only [block, List.length_append, List.length_cons]
    omega
  | succ fuel ih =>
    rw [blocks]
    split
    · simp only [block, List.length_append, List.length_cons]
      omega
    · have less := ih (length_drop_le enough)
      rw [List.length_drop] at less
      simp only [block, List.length_append, List.length_cons, List.length_take]
      omega

theorem readBlocks_blocks {fuel more : Nat} (longer : fuel < more) {bs : Bytes}
    (enough : bs.length ≤ (fuel + 1) * blockSize) (out : Array UInt8) :
    readBlocks more out (bitsOf (blocks fuel bs)) = .ok (out ++ bs.toArray) := by
  obtain ⟨more, rfl⟩ : ∃ n, more = n + 1 := ⟨more - 1, by omega⟩
  -- The reader has its own fuel, counted in bytes; each block uses one of it up.
  induction fuel generalizing more bs out with
  | zero =>
    obtain ⟨fits, whole⟩ := take_of_enough enough
    rw [blocks, whole]
    exact readBlocks_last fits more out
  | succ fuel ih =>
    rw [blocks]
    split
    · exact readBlocks_last ‹_› more out
    · obtain ⟨more, rfl⟩ : ∃ n, more = n + 1 := ⟨more - 1, by omega⟩
      have joined : out ++ (bs.take blockSize).toArray ++ (bs.drop blockSize).toArray =
          out ++ bs.toArray := by
        apply Array.toList_inj.mp
        simp
      rw [readBlocks_block (List.length_take_le blockSize bs) false]
      simp only [Bool.false_eq_true, if_false]
      rw [ih (length_drop_le enough) _ more (by omega), joined]

theorem length_lt_deflate (bs : Bytes) :
    bs.length ≤ (bs.length / blockSize + 1) * blockSize ∧ bs.length < (deflate bs).length := by
  have size : blockSize = 65535 := rfl
  have enough : bs.length ≤ (bs.length / blockSize + 1) * blockSize := by
    rw [size]
    omega
  exact ⟨enough, length_lt_blocks _ enough⟩

theorem inflate_deflate (bs : Bytes) : inflate (deflate bs) = .ok bs := by
  obtain ⟨enough, shorter⟩ := length_lt_deflate bs
  have fewer : bs.length / blockSize ≤ bs.length := Nat.div_le_self _ _
  have longer : bs.length / blockSize < (deflate bs).length * 8 + 1 := by omega
  have read := readBlocks_blocks longer enough #[]
  rw [inflate, deflate] at *
  rw [read]
  simp [Except.map]

end Deflate
end ClusterWire
