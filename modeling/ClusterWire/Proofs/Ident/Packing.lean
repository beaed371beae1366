import ClusterWire.Ident.Layout
import Mathlib.Data.Nat.Bitwise
import Mathlib.Tactic.Ring

/-! Ids as numbers: the fields of an id lie side by side and none reaches into
another, so that ids are ordered by timestamp, then worker, then sequence
number. Fields may be wider than 32 bits; what goes into them never is. -/
namespace ClusterWire.Ident.Layout

/-- Both fields fit beside the sign bit. What is left is the timestamp's. -/
def Fits (l : Layout) : Prop := l.workerBits.toNat + l.sequenceBits.toNat ≤ 63

def timestampBits (l : Layout) : Nat := 63 - l.workerBits.toNat - l.sequenceBits.toNat

def pack (l : Layout) (timestamp worker sequence : Nat) : Nat :=
  (timestamp * 2 ^ l.workerBits.toNat + worker) * 2 ^ l.sequenceBits.toNat + sequence

variable {l : Layout} {t w s : Nat}

/-- A mask is cut to 32 bits, which only fields wider than that notice. -/
theorem and_mask (x bits : Nat) :
    x &&& ((2 ^ bits - 1) % 2 ^ 32) = x % 2 ^ bits % 2 ^ 32 := by
  apply Nat.eq_of_testBit_eq
  intro i
  simp only [Nat.testBit_and, Nat.testBit_mod_two_pow, Nat.testBit_two_pow_sub_one]
  rcases Bool.eq_false_or_eq_true (x.testBit i) with set | clear
  · simp [set]
  · simp [clear]

theorem mask_lt (bits : Nat) : (2 ^ bits - 1) % 2 ^ 32 < 2 ^ bits :=
  Nat.lt_of_le_of_lt (Nat.mod_le _ _) (Nat.sub_lt (Nat.two_pow_pos bits) Nat.one_pos)

theorem shiftLeft_eq_ok (v : Nat) {n : Nat} (short : n < 64) :
    shiftLeft v n = .ok (v * 2 ^ n % 2 ^ 64) :=
  if_pos short

theorem shiftRight_eq_ok (v : Nat) {n : Nat} (short : n < 64) :
    shiftRight v n = .ok (v / 2 ^ n) :=
  if_pos short

theorem fieldMask_eq_ok {bits : Nat} (short : bits < 64) :
    fieldMask bits = .ok ((2 ^ bits - 1) % 2 ^ 32) := by
  have whole : 2 ^ bits < 2 ^ 64 := Nat.pow_lt_pow_right (by decide) short
  unfold fieldMask
  rw [shiftLeft_eq_ok 1 short, Nat.one_mul, Nat.mod_eq_of_lt whole]
  rfl

theorem Fits.maxWorker (fits : l.Fits) :
    l.maxWorker = .ok (UInt32.ofNat ((2 ^ l.workerBits.toNat - 1) % 2 ^ 32)) := by
  unfold Fits at fits
  unfold Layout.maxWorker
  rw [fieldMask_eq_ok (by omega)]
  rfl

theorem Fits.maxSequence (fits : l.Fits) :
    l.maxSequence = .ok (UInt32.ofNat ((2 ^ l.sequenceBits.toNat - 1) % 2 ^ 32)) := by
  unfold Fits at fits
  unfold Layout.maxSequence
  rw [fieldMask_eq_ok (by omega)]
  rfl

theorem Fits.width (fits : l.Fits) :
    l.width = .ok (l.sequenceBits.toNat + l.workerBits.toNat) := by
  unfold Fits at fits
  exact if_pos (by omega)

theorem toNat_mask (bits : Nat) :
    (UInt32.ofNat ((2 ^ bits - 1) % 2 ^ 32)).toNat = (2 ^ bits - 1) % 2 ^ 32 := by
  simp

theorem and_mask_word (x : UInt32) (bits : Nat) :
    x.toNat &&& (UInt32.ofNat ((2 ^ bits - 1) % 2 ^ 32)).toNat = x.toNat % 2 ^ bits := by
  rw [toNat_mask, and_mask]
  exact Nat.mod_eq_of_lt (Nat.lt_of_le_of_lt (Nat.mod_le _ _) x.toNat_lt)

theorem pack_lt (fits : l.Fits) (early : t < 2 ^ l.timestampBits)
    (inWorker : w < 2 ^ l.workerBits.toNat) (inSequence : s < 2 ^ l.sequenceBits.toNat) :
    l.pack t w s < 2 ^ 63 := by
  have high : t * 2 ^ l.workerBits.toNat + w < 2 ^ (l.timestampBits + l.workerBits.toNat) := by
    rw [Nat.pow_add]
    calc t * 2 ^ l.workerBits.toNat + w
        < (t + 1) * 2 ^ l.workerBits.toNat := by rw [Nat.succ_mul]; omega
      _ ≤ 2 ^ l.timestampBits * 2 ^ l.workerBits.toNat := Nat.mul_le_mul_right _ early
  have widths : l.timestampBits + l.workerBits.toNat + l.sequenceBits.toNat = 63 := by
    unfold Fits at fits
    unfold timestampBits
    omega
  rw [← widths, Nat.pow_add]
  calc l.pack t w s
      < (t * 2 ^ l.workerBits.toNat + w + 1) * 2 ^ l.sequenceBits.toNat := by
        rw [pack, Nat.succ_mul]
        omega
    _ ≤ 2 ^ (l.timestampBits + l.workerBits.toNat) * 2 ^ l.sequenceBits.toNat :=
        Nat.mul_le_mul_right _ high

theorem pack_eq_or (inWorker : w < 2 ^ l.workerBits.toNat)
    (inSequence : s < 2 ^ l.sequenceBits.toNat) :
    t * 2 ^ (l.sequenceBits.toNat + l.workerBits.toNat) ||| w * 2 ^ l.sequenceBits.toNat ||| s =
      l.pack t w s := by
  have high : t * 2 ^ (l.sequenceBits.toNat + l.workerBits.toNat) ||| w * 2 ^ l.sequenceBits.toNat =
      (t * 2 ^ l.workerBits.toNat + w) * 2 ^ l.sequenceBits.toNat := by
    have below : w * 2 ^ l.sequenceBits.toNat <
        2 ^ (l.sequenceBits.toNat + l.workerBits.toNat) := by
      rw [Nat.pow_add, Nat.mul_comm (2 ^ _)]
      exact Nat.mul_lt_mul_of_pos_right inWorker (Nat.two_pow_pos _)
    rw [Nat.mul_comm t, ← Nat.two_pow_add_eq_or_of_lt below]
    ring
  rw [high, Nat.mul_comm _ (2 ^ _), ← Nat.two_pow_add_eq_or_of_lt inSequence, pack]
  ring

theorem pack_div (inSequence : s < 2 ^ l.sequenceBits.toNat) :
    l.pack t w s / 2 ^ l.sequenceBits.toNat = t * 2 ^ l.workerBits.toNat + w := by
  rw [pack, Nat.mul_comm, Nat.mul_add_div (Nat.two_pow_pos _), Nat.div_eq_of_lt inSequence,
    Nat.add_zero]

theorem pack_worker (inWorker : w < 2 ^ l.workerBits.toNat)
    (inSequence : s < 2 ^ l.sequenceBits.toNat) :
    l.pack t w s / 2 ^ l.sequenceBits.toNat % 2 ^ l.workerBits.toNat = w := by
  rw [pack_div inSequence, Nat.mul_comm, Nat.mul_add_mod, Nat.mod_eq_of_lt inWorker]

theorem pack_lt_of_timestamp {t' w' s' : Nat} (earlier : t < t')
    (inWorker : w < 2 ^ l.workerBits.toNat) (inSequence : s < 2 ^ l.sequenceBits.toNat) :
    l.pack t w s < l.pack t' w' s' := by
  have high : t * 2 ^ l.workerBits.toNat + w + 1 ≤ t' * 2 ^ l.workerBits.toNat + w' :=
    calc t * 2 ^ l.workerBits.toNat + w + 1
        ≤ (t + 1) * 2 ^ l.workerBits.toNat := by rw [Nat.succ_mul]; omega
      _ ≤ t' * 2 ^ l.workerBits.toNat := Nat.mul_le_mul_right _ earlier
      _ ≤ t' * 2 ^ l.workerBits.toNat + w' := Nat.le_add_right _ _
  calc l.pack t w s
      < (t * 2 ^ l.workerBits.toNat + w + 1) * 2 ^ l.sequenceBits.toNat := by
        rw [pack, Nat.succ_mul]
        omega
    _ ≤ (t' * 2 ^ l.workerBits.toNat + w') * 2 ^ l.sequenceBits.toNat :=
        Nat.mul_le_mul_right _ high
    _ ≤ l.pack t' w' s' := Nat.le_add_right _ _

theorem pack_lt_of_sequence {s' : Nat} (below : s < s') : l.pack t w s < l.pack t w s' :=
  Nat.add_lt_add_left below _

/-- What is shifted beyond the sign bit is lost, and nothing else. -/
theorem high_field (fits : l.Fits) (t : Nat) :
    t * 2 ^ (l.sequenceBits.toNat + l.workerBits.toNat) % 2 ^ 64 % 2 ^ 63 =
      t % 2 ^ l.timestampBits * 2 ^ (l.sequenceBits.toNat + l.workerBits.toNat) := by
  have widths : l.timestampBits + (l.sequenceBits.toNat + l.workerBits.toNat) = 63 := by
    unfold Fits at fits
    unfold timestampBits
    omega
  rw [Nat.mod_mod_of_dvd _ (pow_dvd_pow 2 (by decide)), ← widths, Nat.pow_add 2 l.timestampBits,
    Nat.mul_mod_mul_right]

theorem middle_field (fits : l.Fits) (inWorker : w < 2 ^ l.workerBits.toNat) :
    w * 2 ^ l.sequenceBits.toNat % 2 ^ 64 % 2 ^ 63 = w * 2 ^ l.sequenceBits.toNat := by
  rw [Nat.mod_mod_of_dvd _ (pow_dvd_pow 2 (by decide))]
  apply Nat.mod_eq_of_lt
  calc w * 2 ^ l.sequenceBits.toNat
      < 2 ^ l.workerBits.toNat * 2 ^ l.sequenceBits.toNat :=
        Nat.mul_lt_mul_of_pos_right inWorker (Nat.two_pow_pos _)
    _ = 2 ^ (l.workerBits.toNat + l.sequenceBits.toNat) := (Nat.pow_add ..).symm
    _ ≤ 2 ^ 63 := Nat.pow_le_pow_right (by decide) fits

theorem low_field (fits : l.Fits) (inSequence : s < 2 ^ l.sequenceBits.toNat) :
    s % 2 ^ 63 = s :=
  Nat.mod_eq_of_lt (Nat.lt_of_lt_of_le inSequence
    (Nat.pow_le_pow_right (by decide) (Nat.le_trans (Nat.le_add_left _ _) fits)))

/-- An id is its fields side by side, each cut to its width. -/
theorem compose_eq_ok (fits : l.Fits) (timestamp : UInt64) (worker sequence : UInt32) :
    l.compose timestamp worker sequence = .ok (Int64.ofNat (l.pack
      (timestamp.toNat % 2 ^ l.timestampBits) (worker.toNat % 2 ^ l.workerBits.toNat)
      (sequence.toNat % 2 ^ l.sequenceBits.toNat))) := by
  have inWorker := Nat.mod_lt worker.toNat (Nat.two_pow_pos l.workerBits.toNat)
  have inSequence := Nat.mod_lt sequence.toNat (Nat.two_pow_pos l.sequenceBits.toNat)
  have short : l.sequenceBits.toNat + l.workerBits.toNat < 64 := by
    unfold Fits at fits
    omega
  unfold compose
  rw [fits.width, fits.maxWorker, fits.maxSequence]
  simp only [bind, Except.bind, pure, Except.pure, and_mask_word, shiftLeft_eq_ok _ short,
    shiftLeft_eq_ok _ (show l.sequenceBits.toNat < 64 by omega)]
  rw [show (0x8000000000000000 : Nat) = 2 ^ 63 by decide, Nat.or_mod_two_pow, Nat.or_mod_two_pow,
    high_field fits, middle_field fits inWorker, low_field fits inSequence,
    pack_eq_or inWorker inSequence]

theorem toNat_ofNat {n : Nat} (positive : n < 2 ^ 63) :
    (Int64.ofNat n).toUInt64.toNat = n := by
  simp
  omega

theorem ofNat_lt {m n : Nat} (positive : n < 2 ^ 63) (below : m < n) :
    Int64.ofNat m < Int64.ofNat n := by
  rw [Int64.lt_iff_toInt_lt, Int64.toInt_ofNat_of_lt positive,
    Int64.toInt_ofNat_of_lt (Nat.lt_trans below positive)]
  exact Int.ofNat_lt.mpr below

theorem workerOf_eq_ok (fits : l.Fits) {n : Nat} (positive : n < 2 ^ 63) :
    l.workerOf (Int64.ofNat n) =
      .ok (UInt32.ofNat (n / 2 ^ l.sequenceBits.toNat % 2 ^ l.workerBits.toNat)) := by
  have short : l.sequenceBits.toNat < 64 := by
    unfold Fits at fits
    omega
  unfold workerOf
  rw [fits.maxWorker, shiftRight_eq_ok _ short, toNat_ofNat positive]
  simp only [bind, Except.bind, pure, Except.pure, toNat_mask, and_mask]
  congr 1
  apply UInt32.toNat.inj
  simp

end ClusterWire.Ident.Layout
