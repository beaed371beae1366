/-! Byte strings as lists, the big-endian fields that frames are made of, and
hexadecimal text. -/
namespace ClusterWire

abbrev Bytes := List UInt8

namespace Bytes

/-- The `n` low-order bytes of `v`, most significant first. -/
def bigEndian : Nat → Nat → Bytes
  | 0, _ => []
  | n + 1, v => UInt8.ofNat (v / Nat.pow 256 n) :: bigEndian n v

def toNat (bs : Bytes) : Nat :=
  bs.foldl (fun v b => v * 256 + b.toNat) 0

@[simp] theorem length_bigEndian (n v : Nat) : (bigEndian n v).length = n := by
  induction n with
  | zero => rfl
  | succ n ih => simp [bigEndian, ih]

theorem bigEndian_one (v : Nat) : bigEndian 1 v = [UInt8.ofNat v] :=
  congrArg (fun n => [UInt8.ofNat n]) (Nat.div_one v)

theorem foldl_bigEndian (n v start : Nat) :
    (bigEndian n v).foldl (fun v b => v * 256 + b.toNat) start =
      start * Nat.pow 256 n + v % Nat.pow 256 n := by
  induction n generalizing start with
  | zero => simp [bigEndian, Nat.mod_one]
  | succ n ih =>
    have digit : (UInt8.ofNat (v / Nat.pow 256 n)).toNat = v / Nat.pow 256 n % 256 := rfl
    have power : Nat.pow 256 (n + 1) = Nat.pow 256 n * 256 := rfl
    rw [bigEndian, List.foldl_cons, ih, digit, power, Nat.mod_mul, Nat.add_mul, Nat.mul_assoc,
      Nat.mul_comm 256, Nat.mul_comm (v / Nat.pow 256 n % 256), Nat.add_assoc,
      Nat.add_comm (v % Nat.pow 256 n)]

theorem toNat_bigEndian (n v : Nat) : toNat (bigEndian n v) = v % Nat.pow 256 n := by
  rw [toNat, foldl_bigEndian, Nat.zero_mul, Nat.zero_add]

theorem foldl_toNat (bs : Bytes) (start : Nat) :
    bs.foldl (fun v b => v * 256 + b.toNat) start = start * Nat.pow 256 bs.length + toNat bs := by
  induction bs generalizing start with
  | nil => simp [toNat]
  | cons b bs ih =>
    have power : Nat.pow 256 (bs.length + 1) = 256 * Nat.pow 256 bs.length := Nat.mul_comm _ _
    rw [List.foldl_cons, toNat, List.foldl_cons, ih, ih (0 * 256 + b.toNat), List.length_cons, power,
      Nat.zero_mul, Nat.zero_add, Nat.add_mul, Nat.mul_assoc, Nat.add_assoc]

theorem toNat_cons (b : UInt8) (bs : Bytes) :
    toNat (b :: bs) = b.toNat * Nat.pow 256 bs.length + toNat bs := by
  rw [toNat, List.foldl_cons, foldl_toNat, Nat.zero_mul, Nat.zero_add]

theorem toNat_lt (bs : Bytes) : toNat bs < Nat.pow 256 bs.length := by
  induction bs with
  | nil => exact Nat.one_pos
  | cons b bs ih =>
    have digit : b.toNat + 1 ≤ 256 := b.toNat_lt
    rw [toNat_cons]
    calc b.toNat * Nat.pow 256 bs.length + toNat bs
      _ < (b.toNat + 1) * Nat.pow 256 bs.length := by rw [Nat.succ_mul]; omega
      _ ≤ 256 * Nat.pow 256 bs.length := Nat.mul_le_mul_right _ digit
      _ = Nat.pow 256 (bs.length + 1) := Nat.mul_comm _ _

/-- Digits above the field are not written. -/
theorem bigEndian_add_mul (n v more : Nat) :
    bigEndian n (v + more * Nat.pow 256 n) = bigEndian n v := by
  induction n generalizing more with
  | zero => rfl
  | succ n ih =>
    have power : more * Nat.pow 256 (n + 1) = more * 256 * Nat.pow 256 n := by
      rw [Nat.mul_assoc, Nat.mul_comm 256]
      rfl
    have positive : 0 < Nat.pow 256 n := Nat.pow_pos (by decide)
    have digit : UInt8.ofNat (v / Nat.pow 256 n + more * 256) = UInt8.ofNat (v / Nat.pow 256 n) := by
      rw [← UInt8.toNat_inj]
      change (_ + more * 256) % 256 = _ % 256
      rw [Nat.add_mul_mod_self_right]
    rw [bigEndian, bigEndian, power, ih, Nat.add_mul_div_right _ _ positive, digit]

theorem bigEndian_toNat (bs : Bytes) : bigEndian bs.length (toNat bs) = bs := by
  induction bs with
  | nil => rfl
  | cons b bs ih =>
    have positive : 0 < Nat.pow 256 bs.length := Nat.pow_pos (by decide)
    rw [List.length_cons, bigEndian, toNat_cons, Nat.add_comm, Nat.add_mul_div_right _ _ positive,
      Nat.div_eq_of_lt (toNat_lt bs), Nat.zero_add, UInt8.ofNat_toNat, bigEndian_add_mul, ih]

/-- The first `n` bytes and the rest, or nothing when fewer are held. -/
def split? (n : Nat) (bs : Bytes) : Option (Bytes × Bytes) :=
  if n ≤ bs.length then some (bs.take n, bs.drop n) else none

def field? (n : Nat) (bs : Bytes) : Option (Nat × Bytes) :=
  (split? n bs).map fun (head, rest) => (toNat head, rest)

theorem split?_append {head : Bytes} (rest : Bytes) :
    split? head.length (head ++ rest) = some (head, rest) := by
  simp [split?]

theorem field?_append {head : Bytes} (rest : Bytes) :
    field? head.length (head ++ rest) = some (toNat head, rest) := by
  rw [field?, split?_append]
  rfl

theorem field?_one (b : UInt8) (rest : Bytes) : field? 1 (b :: rest) = some (b.toNat, rest) := by
  have read := @field?_append [b] rest
  simpa [toNat] using read

theorem field?_bigEndian (n v : Nat) (rest : Bytes) :
    field? n (bigEndian n v ++ rest) = some (v % Nat.pow 256 n, rest) := by
  have read := @field?_append (bigEndian n v) rest
  rw [length_bigEndian] at read
  rw [read, toNat_bigEndian]

theorem split?_eq_some {n : Nat} {bs head rest : Bytes} (split : split? n bs = some (head, rest)) :
    bs = head ++ rest ∧ head.length = n := by
  unfold split? at split
  split at split
  · rename_i held
    cases split
    exact ⟨(List.take_append_drop n bs).symm, List.length_take_of_le held⟩
  · cases split

theorem field?_eq_some {n v : Nat} {bs rest : Bytes} (read : field? n bs = some (v, rest)) :
    bs = bigEndian n v ++ rest ∧ v < Nat.pow 256 n := by
  obtain ⟨⟨head, behind⟩, split, same⟩ := Option.map_eq_some_iff.mp read
  obtain ⟨rfl, rfl⟩ := split?_eq_some split
  cases same
  exact ⟨by rw [bigEndian_toNat], toNat_lt head⟩

def hexDigit (n : Nat) : Char :=
  if n < 10 then Char.ofNat (48 + n) else Char.ofNat (87 + n)

def hex (bs : Bytes) : String :=
  String.ofList (bs.flatMap fun b => [hexDigit (b.toNat / 16), hexDigit (b.toNat % 16)])

def hexValue? (c : Char) : Option Nat :=
  if '0' ≤ c ∧ c ≤ '9' then some (c.toNat - 48)
  else if 'a' ≤ c ∧ c ≤ 'f' then some (c.toNat - 87)
  else if 'A' ≤ c ∧ c ≤ 'F' then some (c.toNat - 55)
  else none

def ofHex? : List Char → Option Bytes
  | [] => some []
  | high :: low :: rest => do
    let h ← hexValue? high
    let l ← hexValue? low
    return UInt8.ofNat (h * 16 + l) :: (← ofHex? rest)
  | [_] => none

end Bytes
end ClusterWire
