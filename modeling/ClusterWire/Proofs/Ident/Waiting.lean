import ClusterWire.Proofs.Ident.Minting

/-! How long a generator makes its callers wait. A timestamp has the sequence
numbers of their field, as far as 32 bits count them. When they are used up,
readings up to that timestamp are refused and no others, and what is left until
the next millisecond is the wait that is told. -/
namespace ClusterWire.Ident

namespace Layout

def sequences (l : Layout) : Nat := min (2 ^ l.sequenceBits.toNat) (2 ^ 32)

theorem mask_succ (bits : Nat) : (2 ^ bits - 1) % 2 ^ 32 + 1 = min (2 ^ bits) (2 ^ 32) := by
  have positive := Nat.two_pow_pos bits
  rcases Nat.lt_or_ge 32 bits with wide | narrow
  · obtain ⟨more, rfl⟩ := Nat.exists_eq_add_of_lt wide
    have some := Nat.two_pow_pos (more + 1)
    have split : 2 ^ (32 + more + 1) = 2 ^ 32 * 2 ^ (more + 1) := by ring
    omega
  · have word := Nat.pow_le_pow_right (show 0 < 2 by decide) narrow
    rw [Nat.mod_eq_of_lt (by omega), Nat.min_eq_left word]
    omega

end Layout

namespace Generator

/-- A generator behind readings of its clock. -/
def after (g : Generator) (readings : List UInt64) : Generator :=
  readings.foldl (fun g now => (g.mint now).1) g

/-- No sequence number of the last timestamp is left. -/
def Spent (g : Generator) : Prop := g.sequence.toNat + 1 = g.layout.sequences

def Grants (g : Generator) (now : UInt64) : Prop := ∃ id, (g.mint now).2 = .id id

def Refuses (g : Generator) (now : UInt64) : Prop := ∃ w, (g.mint now).2 = .wait w

/-- A generator whose arithmetic holds whatever it is asked next, also one that
saw a reading beyond the timestamp's field. -/
structure Steady (g : Generator) : Prop extends Tagged g where
  sequence : g.sequence.toNat + 1 ≤ g.layout.sequences
  clock : g.last.toNat + 1 < UInt64.size

variable {g : Generator} {now : UInt64}

theorem Sound.steady (sound : g.Sound) : g.Steady where
  toTagged := sound.toTagged
  sequence := Nat.le_min.mpr ⟨sound.sequence, g.sequence.toNat_lt⟩
  clock := by
    have early : g.last.toNat < 2 ^ 63 :=
      Nat.lt_of_lt_of_le sound.early
        (Nat.pow_le_pow_right (by decide) (Nat.le_trans (Nat.sub_le _ _) (Nat.sub_le _ _)))
    have size : UInt64.size = 2 ^ 64 := rfl
    omega

theorem Tagged.presents (tagged : g.Tagged) : ∃ id, g.present = .id id := by
  obtain ⟨id, shown, _⟩ := tagged.present_eq
  exact ⟨id, shown⟩

/-- All that asking a steady generator can do. -/
inductive Turn (g : Generator) (now : UInt64) : Generator × Minted → Prop
  | moves {id : Int64} (later : g.last < now) : Turn g now (g.turned now, .id id)
  | counts {id : Int64} (within : now ≤ g.last) (left : g.sequence.toNat + 1 < g.layout.sequences)
      (kept : g.bumped.sequence.toNat = g.sequence.toNat + 1) : Turn g now (g.bumped, .id id)
  | waits {w : UInt64} (within : now ≤ g.last) (spent : g.Spent)
      (due : now.toNat + w.toNat = g.last.toNat + 1) : Turn g now (g, .wait w)

theorem Steady.turn (steady : g.Steady) (now : UInt64) : g.Turn now (g.mint now) := by
  have greatest := Layout.mask_succ g.layout.sequenceBits.toNat
  have used := steady.sequence
  unfold Layout.sequences at used
  rcases mint_cases steady.fits now with ⟨later, same⟩ | ⟨sooner, left, same⟩ | ⟨sooner, spent, same⟩
  · obtain ⟨id, shown⟩ := Tagged.presents (g := g.turned now) ⟨steady.fits, steady.worker⟩
    rw [same, shown]
    exact .moves later
  · obtain ⟨id, shown⟩ := Tagged.presents (g := g.bumped) ⟨steady.fits, steady.worker⟩
    rw [same, shown]
    refine .counts (UInt64.not_lt.mp sooner) ?_ (toNat_bumped left)
    unfold Layout.sequences
    omega
  · have within := UInt64.not_lt.mp sooner
    have clock := steady.clock
    have before := UInt64.le_iff_toNat_le.mp within
    rw [same, remaining, if_pos clock]
    refine .waits within ?_ ?_
    · unfold Spent Layout.sequences
      omega
    · rw [UInt64.toNat_ofNat_of_lt' (by omega)]
      omega

theorem Steady.refuses_iff (steady : g.Steady) : g.Refuses now ↔ now ≤ g.last ∧ g.Spent := by
  have turn := steady.turn now
  unfold Refuses
  generalize g.mint now = outcome at turn
  cases turn with
  | moves later => simp [UInt64.not_le.mpr later]
  | counts within left kept =>
    have unspent : ¬g.Spent := Nat.ne_of_lt left
    simp [unspent]
  | waits within spent due => simp [within, spent]

theorem Steady.grants_iff (steady : g.Steady) :
    g.Grants now ↔ ¬(now ≤ g.last ∧ g.Spent) := by
  rw [← steady.refuses_iff]
  have turn := steady.turn now
  unfold Refuses Grants
  generalize g.mint now = outcome at turn
  cases turn <;> simp

theorem Steady.turned (steady : g.Steady) (clock : now.toNat + 1 < UInt64.size) :
    (g.turned now).Steady where
  fits := steady.fits
  worker := steady.worker
  sequence := Nat.le_trans (Nat.le_add_left _ _) steady.sequence
  clock := clock

/-- Readings up to the last timestamp are granted as long as sequence numbers
are left, and refused from then on. -/
theorem Steady.series (steady : g.Steady) {readings : List UInt64}
    (within : ∀ now ∈ readings, now ≤ g.last) {i : Nat} {answer : Minted}
    (given : (g.series readings)[i]? = some answer) :
    ((∃ id, answer = .id id) ↔ g.sequence.toNat + 1 + i < g.layout.sequences) ∧
      ((∃ w, answer = .wait w) ↔ g.layout.sequences ≤ g.sequence.toNat + 1 + i) := by
  induction readings generalizing g i with
  | nil => cases given
  | cons now later ih =>
    have first := within now List.mem_cons_self
    have rest : ∀ now' ∈ later, now' ≤ g.last :=
      fun now' held => within now' (List.mem_cons_of_mem _ held)
    have turn := steady.turn now
    unfold Generator.series at given
    generalize g.mint now = outcome at turn given
    cases turn with
    | moves past => exact absurd first (UInt64.not_le.mpr past)
    | @counts id _ left kept =>
      cases i with
      | zero =>
        cases given
        simp only [Minted.id.injEq, exists_eq', Nat.add_zero, left, reduceCtorEq, exists_false,
          Nat.not_le.mpr left, and_self]
      | succ i =>
        have bumped : g.bumped.Steady :=
          ⟨⟨steady.fits, steady.worker⟩, kept ▸ left, steady.clock⟩
        have further := ih bumped rest given
        rw [kept] at further
        rwa [show g.sequence.toNat + 1 + (i + 1) = g.sequence.toNat + 1 + 1 + i by omega]
    | waits _ spent due =>
      unfold Spent at spent
      cases i with
      | zero =>
        cases given
        simp [spent]
      | succ i =>
        have further := ih steady rest given
        rw [further.1, further.2]
        omega

/-- A generator whose waits are neither too long nor too short. -/
structure WaitsExactly (g : Generator) : Prop where
  refuses : ∀ now, g.Refuses now ↔ now ≤ g.last ∧ g.Spent
  grants : ∀ now, g.Grants now ↔ ¬(now ≤ g.last ∧ g.Spent)
  kept : ∀ now, g.Refuses now → (g.mint now).1 = g
  due : ∀ now w, (g.mint now).2 = .wait w →
    1 ≤ w ∧ (now + w).toNat = now.toNat + w.toNat ∧ g.Grants (now + w) ∧
      ∀ sooner < now + w, g.Refuses sooner
  burst : g.layout.sequenceBits.toNat ≤ 32 →
    ∀ now later, g.last < now → now.toNat + 1 < 2 ^ 64 → (∀ back ∈ later, back ≤ now) →
      ∀ i answer, (g.series (now :: later))[i]? = some answer →
        ((∃ id, answer = .id id) ↔ i < 2 ^ g.layout.sequenceBits.toNat) ∧
          ((∃ w, answer = .wait w) ↔ 2 ^ g.layout.sequenceBits.toNat ≤ i)

theorem Steady.due (steady : g.Steady) {w : UInt64} (told : (g.mint now).2 = .wait w) :
    1 ≤ w ∧ (now + w).toNat = now.toNat + w.toNat ∧ g.Grants (now + w) ∧
      ∀ sooner < now + w, g.Refuses sooner := by
  have turn := steady.turn now
  have clock := steady.clock
  generalize g.mint now = outcome at turn told
  cases turn with
  | moves later => cases told
  | counts within left kept => cases told
  | waits within spent due =>
    cases told
    have before := UInt64.le_iff_toNat_le.mp within
    have whole : (now + w).toNat = now.toNat + w.toNat := by
      rw [UInt64.toNat_add]
      exact Nat.mod_eq_of_lt (due ▸ clock)
    refine ⟨?_, whole, ?_, ?_⟩
    · rw [UInt64.le_iff_toNat_le]
      show 1 ≤ w.toNat
      omega
    · rw [steady.grants_iff, UInt64.le_iff_toNat_le]
      omega
    · intro sooner earlier
      rw [UInt64.lt_iff_toNat_lt] at earlier
      rw [steady.refuses_iff, UInt64.le_iff_toNat_le]
      exact ⟨by omega, spent⟩

theorem Steady.waitsExactly (steady : g.Steady) : g.WaitsExactly where
  refuses _ := steady.refuses_iff
  grants _ := steady.grants_iff
  kept now refused := by
    have turn := steady.turn now
    obtain ⟨w, told⟩ := refused
    generalize g.mint now = outcome at turn told
    cases turn with
    | moves later => cases told
    | counts within left kept => cases told
    | waits within spent due => rfl
  due _ _ := steady.due
  burst narrow now later past clock back i answer given := by
    have count : g.layout.sequences = 2 ^ g.layout.sequenceBits.toNat :=
      Nat.min_eq_left (Nat.pow_le_pow_right (by decide) narrow)
    have turn := steady.turn now
    unfold Generator.series at given
    generalize g.mint now = outcome at turn given
    cases turn with
    | moves _ =>
      cases i with
      | zero =>
        cases given
        simp
      | succ i =>
        have rest := (steady.turned clock).series back given
        have same : (g.turned now).layout.sequences = 2 ^ g.layout.sequenceBits.toNat := count
        have fresh : (g.turned now).sequence.toNat = 0 := rfl
        rwa [same, fresh, Nat.zero_add, Nat.add_comm 1 i] at rest
    | counts within => exact absurd past (UInt64.not_lt.mpr within)
    | waits within => exact absurd past (UInt64.not_lt.mpr within)

theorem Sound.after (sound : g.Sound) {readings : List UInt64}
    (early : ∀ now ∈ readings, now.toNat < 2 ^ g.layout.timestampBits) :
    (g.after readings).Sound ∧ (g.after readings).layout = g.layout := by
  induction readings generalizing g with
  | nil => exact ⟨sound, rfl⟩
  | cons now later ih =>
    have answer := sound.mint (early now List.mem_cons_self)
    obtain ⟨layout, _⟩ := mint_keeps sound.fits now
    have rest : ∀ now' ∈ later, now'.toNat < 2 ^ (g.mint now).1.layout.timestampBits := by
      rw [layout]
      exact fun now' held => early now' (List.mem_cons_of_mem _ held)
    have next : (g.mint now).1.Sound := by
      generalize g.mint now = outcome at answer
      cases answer with
      | minted sound' _ => exact sound'
      | waits _ => exact sound
    exact layout ▸ ih next rest

/-- The wait that a generator tells is exact, after any readings. -/
theorem waits_exactly {layout : Layout}
    (fits : layout.workerBits.toNat + layout.sequenceBits.toNat ≤ 63) (worker : UInt32)
    (readings : List UInt64)
    (early : ∀ now ∈ readings,
      now.toNat < 2 ^ (63 - layout.workerBits.toNat - layout.sequenceBits.toNat) - 1) :
    ∃ g, create worker layout = .ok g ∧ (g.after readings).layout = layout ∧
      (g.after readings).WaitsExactly := by
  obtain ⟨sound, alike, _⟩ := sound_of_create fits (create_eq_ok worker fits)
  have within : ∀ now ∈ readings, now.toNat < 2 ^ layout.timestampBits :=
    fun now held => Nat.lt_of_lt_of_le (early now held) (Nat.sub_le _ _)
  obtain ⟨kept, same⟩ := sound.after within
  exact ⟨_, create_eq_ok worker fits, same, kept.steady.waitsExactly⟩

/-- The second id of a millisecond is its last here. The clock stands still and then steps back. -/
theorem waits_exactly_worn :
    (∀ now ∈ ([2000, 2000] : List UInt64), now.toNat < 2 ^ (63 - 10 - 1) - 1) ∧
    ∃ g, create 1 ⟨10, 1, 0⟩ = .ok g ∧ ((g.after [2000, 2000]).mint 1995).2 = .wait 6 ∧
      (g.after [2000, 2000]).Refuses 2000 ∧ (g.after [2000, 2000]).Grants 2001 := by
  have early : ∀ now ∈ ([2000, 2000] : List UInt64), now.toNat < 2 ^ (63 - 10 - 1) - 1 := by
    simp
  obtain ⟨g, made, -, waits⟩ := @waits_exactly ⟨10, 1, 0⟩ (by decide) 1 [2000, 2000] early
  have told : ((g.after [2000, 2000]).mint 1995).2 = .wait 6 := by
    cases made
    rfl
  obtain ⟨-, -, granted, sooner⟩ := waits.due 1995 6 told
  exact ⟨early, g, made, told, sooner 2000 (by decide), granted⟩

end Generator
end ClusterWire.Ident
