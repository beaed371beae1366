import ClusterWire.Proofs.Ident.Packing

/-! Reading ids. Every field gives back what was put into it, cut to its width,
and ids whose fields were not cut are ordered like them: by timestamp, then by
worker, then by sequence number. -/
namespace ClusterWire.Ident.Layout

/-- What an id is composed of. -/
structure Fields where
  timestamp : UInt64
  worker : UInt32
  sequence : UInt32
deriving DecidableEq, Repr

namespace Fields

/-- Fields that a layout takes as they are. -/
structure Within (f : Fields) (l : Layout) : Prop where
  timestamp : f.timestamp.toNat < 2 ^ l.timestampBits
  worker : f.worker.toNat < 2 ^ l.workerBits.toNat
  sequence : f.sequence.toNat < 2 ^ l.sequenceBits.toNat

def Before (f g : Fields) : Prop :=
  f.timestamp < g.timestamp ∨ f.timestamp = g.timestamp ∧
    (f.worker < g.worker ∨ f.worker = g.worker ∧ f.sequence < g.sequence)

def compose (f : Fields) (l : Layout) : Except Overflow Int64 :=
  l.compose f.timestamp f.worker f.sequence

def number (f : Fields) (l : Layout) : Nat :=
  l.pack f.timestamp.toNat f.worker.toNat f.sequence.toNat

end Fields

variable {l : Layout} {t w s : Nat} {f g : Fields}

theorem pack_timestamp (inWorker : w < 2 ^ l.workerBits.toNat)
    (inSequence : s < 2 ^ l.sequenceBits.toNat) :
    l.pack t w s / 2 ^ (l.sequenceBits.toNat + l.workerBits.toNat) = t := by
  rw [Nat.pow_add, ← Nat.div_div_eq_div_mul, pack_div inSequence, Nat.mul_comm,
    Nat.mul_add_div (Nat.two_pow_pos _), Nat.div_eq_of_lt inWorker, Nat.add_zero]

theorem pack_sequence (inSequence : s < 2 ^ l.sequenceBits.toNat) :
    l.pack t w s % 2 ^ l.sequenceBits.toNat = s := by
  rw [pack, Nat.mul_comm, Nat.mul_add_mod, Nat.mod_eq_of_lt inSequence]

theorem pack_lt_of_worker {w' s' : Nat} (below : w < w')
    (inSequence : s < 2 ^ l.sequenceBits.toNat) : l.pack t w s < l.pack t w' s' := by
  have high : t * 2 ^ l.workerBits.toNat + w + 1 ≤ t * 2 ^ l.workerBits.toNat + w' := by omega
  calc l.pack t w s
      < (t * 2 ^ l.workerBits.toNat + w + 1) * 2 ^ l.sequenceBits.toNat := by
        rw [pack, Nat.succ_mul]
        omega
    _ ≤ (t * 2 ^ l.workerBits.toNat + w') * 2 ^ l.sequenceBits.toNat :=
        Nat.mul_le_mul_right _ high
    _ ≤ l.pack t w' s' := Nat.le_add_right _ _

theorem ofNat_lt_iff {m n : Nat} (first : m < 2 ^ 63) (second : n < 2 ^ 63) :
    Int64.ofNat m < Int64.ofNat n ↔ m < n := by
  rw [Int64.lt_iff_toInt_lt, Int64.toInt_ofNat_of_lt first, Int64.toInt_ofNat_of_lt second]
  exact Int.ofNat_lt

theorem nonnegative_ofNat {n : Nat} (positive : n < 2 ^ 63) : 0 ≤ Int64.ofNat n := by
  rw [Int64.le_iff_toInt_le, Int64.toInt_ofNat_of_lt positive]
  exact Int.natCast_nonneg n

theorem timestampOf_eq_ok (fits : l.Fits) {n : Nat} (positive : n < 2 ^ 63) :
    l.timestampOf (Int64.ofNat n) =
      .ok (UInt64.ofNat (n / 2 ^ (l.sequenceBits.toNat + l.workerBits.toNat))) := by
  have short : l.sequenceBits.toNat + l.workerBits.toNat < 64 := by
    unfold Fits at fits
    omega
  unfold timestampOf
  rw [fits.width, toNat_ofNat positive]
  simp only [bind, Except.bind, pure, Except.pure, shiftRight_eq_ok _ short]

namespace Fields

theorem number_lt_of_before (before : f.Before g) (fit : f.Within l) : f.number l < g.number l := by
  unfold number
  rcases before with earlier | ⟨same, below | ⟨alike, below⟩⟩
  · exact pack_lt_of_timestamp (UInt64.lt_iff_toNat_lt.mp earlier) fit.worker fit.sequence
  · rw [same]
    exact pack_lt_of_worker (UInt32.lt_iff_toNat_lt.mp below) fit.sequence
  · rw [same, alike]
    exact pack_lt_of_sequence (UInt32.lt_iff_toNat_lt.mp below)

theorem before_or (f g : Fields) : f.Before g ∨ f = g ∨ g.Before f := by
  unfold Before
  rcases Std.lt_trichotomy f.timestamp g.timestamp with earlier | same | later
  · exact .inl (.inl earlier)
  · rcases Std.lt_trichotomy f.worker g.worker with below | alike | above
    · exact .inl (.inr ⟨same, .inl below⟩)
    · rcases Std.lt_trichotomy f.sequence g.sequence with below | equal | above
      · exact .inl (.inr ⟨same, .inr ⟨alike, below⟩⟩)
      · cases f
        cases g
        simp_all
      · exact .inr (.inr (.inr ⟨same.symm, .inr ⟨alike.symm, above⟩⟩))
    · exact .inr (.inr (.inr ⟨same.symm, .inl above⟩))
  · exact .inr (.inr (.inl later))

theorem number_lt_iff (first : f.Within l) (second : g.Within l) :
    f.number l < g.number l ↔ f.Before g := by
  refine ⟨fun below => ?_, fun before => number_lt_of_before before first⟩
  rcases before_or f g with before | rfl | after
  · exact before
  · exact absurd below (Nat.lt_irrefl _)
  · exact absurd (number_lt_of_before after second) (Nat.lt_asymm below)

theorem eq_of_number (first : f.Within l) (second : g.Within l)
    (same : f.number l = g.number l) : f = g := by
  rcases before_or f g with before | alike | after
  · exact absurd same (Nat.ne_of_lt (number_lt_of_before before first))
  · exact alike
  · exact absurd same.symm (Nat.ne_of_lt (number_lt_of_before after second))

theorem Within.number_lt (fit : f.Within l) (fits : l.Fits) : f.number l < 2 ^ 63 :=
  pack_lt fits fit.timestamp fit.worker fit.sequence

theorem Within.compose_eq (fit : f.Within l) (fits : l.Fits) :
    f.compose l = .ok (Int64.ofNat (f.number l)) := by
  unfold compose
  rw [compose_eq_ok fits, Nat.mod_eq_of_lt fit.timestamp, Nat.mod_eq_of_lt fit.worker,
    Nat.mod_eq_of_lt fit.sequence]
  rfl

end Fields

/-- No id overflows. Its fields can be read off it, the worker and the sequence
number cut to their widths, and what was not cut is in the order of the ids. -/
theorem fields_kept {l : Layout} (fits : l.workerBits.toNat + l.sequenceBits.toNat ≤ 63) :
    (∀ (timestamp : UInt64) (worker sequence : UInt32),
      timestamp.toNat < 2 ^ (63 - l.workerBits.toNat - l.sequenceBits.toNat) →
      ∃ id, l.compose timestamp worker sequence = .ok id ∧ 0 ≤ id ∧
        l.workerOf id = .ok (UInt32.ofNat (worker.toNat % 2 ^ l.workerBits.toNat)) ∧
        l.timestampOf id = .ok timestamp ∧
        id.toUInt64.toNat % 2 ^ l.sequenceBits.toNat =
          sequence.toNat % 2 ^ l.sequenceBits.toNat) ∧
    ∀ f g : Fields, f.Within l → g.Within l →
      ∀ i j, f.compose l = .ok i → g.compose l = .ok j →
        (i < j ↔ f.Before g) ∧ (i = j → f = g) := by
  constructor
  · intro timestamp worker sequence early
    have inWorker := Nat.mod_lt worker.toNat (Nat.two_pow_pos l.workerBits.toNat)
    have inSequence := Nat.mod_lt sequence.toNat (Nat.two_pow_pos l.sequenceBits.toNat)
    have composed := compose_eq_ok fits timestamp worker sequence
    rw [Nat.mod_eq_of_lt (show timestamp.toNat < 2 ^ l.timestampBits from early)] at composed
    have positive := pack_lt fits early inWorker inSequence
    refine ⟨_, composed, nonnegative_ofNat positive, ?_, ?_, ?_⟩
    · rw [workerOf_eq_ok fits positive, pack_worker inWorker inSequence]
    · rw [timestampOf_eq_ok fits positive, pack_timestamp inWorker inSequence, UInt64.ofNat_toNat]
    · rw [toNat_ofNat positive, pack_sequence inSequence]
  · intro f g first second i j madeFirst madeSecond
    rw [first.compose_eq fits] at madeFirst
    rw [second.compose_eq fits] at madeSecond
    cases madeFirst
    cases madeSecond
    have below := ofNat_lt_iff (first.number_lt fits) (second.number_lt fits)
    refine ⟨below.trans (Fields.number_lt_iff first second), fun same => ?_⟩
    have numbers := congrArg (·.toUInt64.toNat) same
    simp only [toNat_ofNat (first.number_lt fits), toNat_ofNat (second.number_lt fits)] at numbers
    exact Fields.eq_of_number first second numbers

/-- A layout whose worker's field is wider than a worker can be. -/
def broad : Layout := ⟨40, 12, 0⟩

theorem fields_kept_broad : broad.workerBits.toNat + broad.sequenceBits.toNat ≤ 63 ∧
    (∃ id, broad.compose 2047 0xFFFFFFFF 4099 = .ok id ∧ 0 ≤ id ∧
      broad.workerOf id = .ok 0xFFFFFFFF ∧ broad.timestampOf id = .ok 2047 ∧
      id.toUInt64.toNat % 2 ^ 12 = 3) ∧
    ∃ i j, broad.compose 7 1 4095 = .ok i ∧ broad.compose 7 2 0 = .ok j ∧ i < j := by
  have fits : broad.workerBits.toNat + broad.sequenceBits.toNat ≤ 63 := by decide
  have early : (2047 : UInt64).toNat < 2 ^ (63 - 40 - 12) := by decide
  refine ⟨fits, (fields_kept fits).1 2047 0xFFFFFFFF 4099 early, ?_⟩
  have first : Fields.Within ⟨7, 1, 4095⟩ broad := ⟨by decide, by decide, by decide⟩
  have second : Fields.Within ⟨7, 2, 0⟩ broad := ⟨by decide, by decide, by decide⟩
  refine ⟨_, _, first.compose_eq fits, second.compose_eq fits, ?_⟩
  exact ((fields_kept fits).2 _ _ first second _ _ (first.compose_eq fits)
    (second.compose_eq fits)).1.mpr (.inr ⟨rfl, .inl (by decide)⟩)

end ClusterWire.Ident.Layout
