import ClusterWire.Ident.Generator
import ClusterWire.Proofs.Ident.Packing
import Mathlib.Logic.Function.Basic

/-! What generators mint over series of clock readings. The number packed from
a generator's last timestamp, its worker and its sequence number is what it
minted last; every id it mints moves that number on. The worker stays legible
in an id whatever the clock showed, so that generators of different workers
cannot meet. -/
namespace ClusterWire.Ident

def Minted.id? : Minted → Option Int64
  | .id minted => some minted
  | .wait _ | .overflow _ => none

theorem Minted.id?_eq_some {m : Minted} {id : Int64} : m.id? = some id ↔ m = .id id := by
  cases m <;> simp [Minted.id?]

namespace Generator

/-- What a generator answers when it is asked at one reading after another. -/
def series (g : Generator) : List UInt64 → List Minted
  | [] => []
  | now :: later => (g.mint now).2 :: (g.mint now).1.series later

def ids (g : Generator) (readings : List UInt64) : List Int64 :=
  (g.series readings).filterMap Minted.id?

/-- What a fleet of generators mints when they take turns, each with a clock of
its own. -/
def trace {ι : Type} [DecidableEq ι] (fleet : ι → Generator) :
    List (ι × UInt64) → List (ι × Int64)
  | [] => []
  | (i, now) :: later =>
    (((fleet i).mint now).2.id?.map (i, ·)).toList ++
      trace (Function.update fleet i ((fleet i).mint now).1) later

/-- The generator on the first id of a timestamp, and on the next of the same. -/
def turned (g : Generator) (now : UInt64) : Generator := { g with last := now, sequence := 0 }

def bumped (g : Generator) : Generator := { g with sequence := g.sequence + 1 }

def mark (g : Generator) : Nat := g.layout.pack g.last.toNat g.worker.toNat g.sequence.toNat

variable {g : Generator} {now : UInt64}

theorem create_eq_ok (worker : UInt32) {layout : Layout} (fits : layout.Fits) :
    create worker layout =
      .ok ⟨layout, UInt32.ofNat (worker.toNat % 2 ^ layout.workerBits.toNat), 0, 0⟩ := by
  unfold create
  rw [fits.maxWorker]
  simp only [bind, Except.bind, pure, Except.pure]
  congr 2
  apply UInt32.toNat.inj
  rw [UInt32.toNat_and, Layout.and_mask_word]
  exact (UInt32.toNat_ofNat_of_lt
    (Nat.lt_of_le_of_lt (Nat.mod_le _ _) worker.toNat_lt)).symm

/-- All that asking a generator can do. -/
theorem mint_cases (fits : g.layout.Fits) (now : UInt64) :
    (g.last < now ∧ g.mint now = (g.turned now, (g.turned now).present)) ∨
    (¬ g.last < now ∧ g.sequence.toNat < (2 ^ g.layout.sequenceBits.toNat - 1) % 2 ^ 32 ∧
      g.mint now = (g.bumped, g.bumped.present)) ∨
    (¬ g.last < now ∧ (2 ^ g.layout.sequenceBits.toNat - 1) % 2 ^ 32 ≤ g.sequence.toNat ∧
      g.mint now = (g, remaining g.last now)) := by
  unfold mint
  rw [fits.maxSequence]
  by_cases later : g.last < now
  · exact .inl ⟨later, if_pos later⟩
  · rw [if_neg later]
    dsimp only
    by_cases used : UInt32.ofNat ((2 ^ g.layout.sequenceBits.toNat - 1) % 2 ^ 32) ≤ g.sequence
    · refine .inr (.inr ⟨later, ?_, if_pos used⟩)
      simpa only [UInt32.le_iff_toNat_le, Layout.toNat_mask] using used
    · refine .inr (.inl ⟨later, ?_, if_neg used⟩)
      simpa only [UInt32.le_iff_toNat_le, Layout.toNat_mask, Nat.not_le] using used

/-- A worker within its field. -/
structure Tagged (g : Generator) : Prop where
  fits : g.layout.Fits
  worker : g.worker.toNat < 2 ^ g.layout.workerBits.toNat

/-- A generator that never saw a reading beyond the timestamp's field. -/
structure Sound (g : Generator) : Prop extends Tagged g where
  early : g.last.toNat < 2 ^ g.layout.timestampBits
  sequence : g.sequence.toNat < 2 ^ g.layout.sequenceBits.toNat

theorem sound_of_create {worker : UInt32} {layout : Layout} (fits : layout.Fits)
    (created : create worker layout = .ok g) :
    g.Sound ∧ g.layout = layout ∧
      g.worker.toNat = worker.toNat % 2 ^ layout.workerBits.toNat := by
  rw [create_eq_ok worker fits] at created
  cases created
  have kept : (UInt32.ofNat (worker.toNat % 2 ^ layout.workerBits.toNat)).toNat =
      worker.toNat % 2 ^ layout.workerBits.toNat :=
    UInt32.toNat_ofNat_of_lt (Nat.lt_of_le_of_lt (Nat.mod_le _ _) worker.toNat_lt)
  refine ⟨⟨⟨fits, ?_⟩, Nat.two_pow_pos _, Nat.two_pow_pos _⟩, rfl, kept⟩
  show (UInt32.ofNat _).toNat < _
  rw [kept]
  exact Nat.mod_lt _ (Nat.two_pow_pos _)

/-- Whatever the timestamp, an id names its worker. -/
theorem Tagged.present_eq (tagged : g.Tagged) :
    ∃ id, g.present = .id id ∧ g.layout.workerOf id = .ok g.worker := by
  have inSequence := Nat.mod_lt g.sequence.toNat (Nat.two_pow_pos g.layout.sequenceBits.toNat)
  have early := Nat.mod_lt g.last.toNat (Nat.two_pow_pos g.layout.timestampBits)
  have composed := Layout.compose_eq_ok tagged.fits g.last g.worker g.sequence
  rw [Nat.mod_eq_of_lt tagged.worker] at composed
  refine ⟨Int64.ofNat (g.layout.pack (g.last.toNat % 2 ^ g.layout.timestampBits) g.worker.toNat
    (g.sequence.toNat % 2 ^ g.layout.sequenceBits.toNat)), ?_, ?_⟩
  · unfold present
    rw [composed]
  · rw [Layout.workerOf_eq_ok tagged.fits
      (Layout.pack_lt tagged.fits early tagged.worker inSequence),
      Layout.pack_worker tagged.worker inSequence]
    exact congrArg _ (UInt32.ofNat_toNat)

theorem Sound.present_eq (sound : g.Sound) : g.present = .id (Int64.ofNat g.mark) := by
  unfold present
  rw [Layout.compose_eq_ok sound.fits, Nat.mod_eq_of_lt sound.worker,
    Nat.mod_eq_of_lt sound.early, Nat.mod_eq_of_lt sound.sequence]
  rfl

theorem Sound.mark_lt (sound : g.Sound) : g.mark < 2 ^ 63 :=
  Layout.pack_lt sound.fits sound.early sound.worker sound.sequence

theorem Sound.turned (sound : g.Sound) (early : now.toNat < 2 ^ g.layout.timestampBits) :
    (g.turned now).Sound :=
  ⟨⟨sound.fits, sound.worker⟩, early, Nat.two_pow_pos _⟩

theorem toNat_bumped (left : g.sequence.toNat < (2 ^ g.layout.sequenceBits.toNat - 1) % 2 ^ 32) :
    g.bumped.sequence.toNat = g.sequence.toNat + 1 := by
  have word := Nat.mod_lt (2 ^ g.layout.sequenceBits.toNat - 1) (Nat.two_pow_pos 32)
  show (g.sequence + 1).toNat = _
  rw [UInt32.toNat_add]
  exact Nat.mod_eq_of_lt (by simp; omega)

theorem Sound.bumped (sound : g.Sound)
    (left : g.sequence.toNat < (2 ^ g.layout.sequenceBits.toNat - 1) % 2 ^ 32) :
    g.bumped.Sound := by
  refine ⟨⟨sound.fits, sound.worker⟩, sound.early, ?_⟩
  have field := Layout.mask_lt g.layout.sequenceBits.toNat
  rw [toNat_bumped left]
  exact Nat.lt_of_le_of_lt left field

theorem Sound.remaining_eq (sound : g.Sound) (now : UInt64) :
    remaining g.last now = .wait (UInt64.ofNat (g.last.toNat + 1 - now.toNat)) := by
  have early : g.last.toNat < 2 ^ 63 :=
    Nat.lt_of_lt_of_le sound.early
      (Nat.pow_le_pow_right (by decide) (Nat.le_trans (Nat.sub_le _ _) (Nat.sub_le _ _)))
  exact if_pos (by have : UInt64.size = 2 ^ 64 := rfl; omega)

/-- An answer of a sound generator: a later id, or no change and a wait. -/
inductive Answer (g : Generator) : Generator × Minted → Prop
  | minted {g' : Generator} (sound : g'.Sound) (later : g.mark < g'.mark) :
      Answer g (g', .id (Int64.ofNat g'.mark))
  | waits (milliseconds : UInt64) : Answer g (g, .wait milliseconds)

theorem Sound.mint (sound : g.Sound) (early : now.toNat < 2 ^ g.layout.timestampBits) :
    g.Answer (g.mint now) := by
  rcases mint_cases sound.fits now with ⟨later, same⟩ | ⟨_, left, same⟩ | ⟨_, _, same⟩
  · rw [same, (sound.turned early).present_eq]
    refine .minted (sound.turned early) ?_
    exact Layout.pack_lt_of_timestamp (UInt64.lt_iff_toNat_lt.mp later) sound.worker
      sound.sequence
  · rw [same, (sound.bumped left).present_eq]
    refine .minted (sound.bumped left) ?_
    refine Layout.pack_lt_of_sequence ?_
    rw [toNat_bumped left]
    exact Nat.lt_succ_self _
  · rw [same, sound.remaining_eq]
    exact .waits _

theorem mint_keeps (fits : g.layout.Fits) (now : UInt64) :
    (g.mint now).1.layout = g.layout ∧ (g.mint now).1.worker = g.worker := by
  rcases mint_cases fits now with ⟨_, same⟩ | ⟨_, _, same⟩ | ⟨_, _, same⟩ <;> rw [same]
  · exact ⟨rfl, rfl⟩
  · exact ⟨rfl, rfl⟩
  · exact ⟨rfl, rfl⟩

theorem Tagged.mint (tagged : g.Tagged) (now : UInt64) : (g.mint now).1.Tagged := by
  obtain ⟨layout, worker⟩ := mint_keeps tagged.fits now
  exact ⟨layout ▸ tagged.fits, by rw [layout, worker]; exact tagged.worker⟩

theorem Tagged.workerOf_minted (tagged : g.Tagged) {id : Int64}
    (minted : (g.mint now).2 = .id id) : g.layout.workerOf id = .ok g.worker := by
  have read : ∀ h : Generator, h.Tagged → h.present = .id id → h.layout.workerOf id = .ok h.worker := by
    intro h fit shown
    obtain ⟨id', shown', names⟩ := fit.present_eq
    rw [shown] at shown'
    cases shown'
    exact names
  rcases mint_cases tagged.fits now with ⟨_, same⟩ | ⟨_, _, same⟩ | ⟨_, _, same⟩ <;>
    rw [same] at minted
  · exact read (g.turned now) ⟨tagged.fits, tagged.worker⟩ minted
  · exact read g.bumped ⟨tagged.fits, tagged.worker⟩ minted
  · unfold remaining at minted
    split at minted <;> cases minted

theorem ids_cons (g : Generator) (now : UInt64) (later : List UInt64) :
    g.ids (now :: later) = (g.mint now).2.id?.toList ++ (g.mint now).1.ids later := by
  unfold ids
  rw [series, List.filterMap_cons]
  cases (g.mint now).2.id? <;> rfl

theorem mem_ids_cons {later : List UInt64} {id : Int64} :
    id ∈ g.ids (now :: later) ↔ (g.mint now).2 = .id id ∨ id ∈ (g.mint now).1.ids later := by
  rw [ids_cons, List.mem_append, Option.mem_toList, Minted.id?_eq_some]

theorem Tagged.workerOf_ids (tagged : g.Tagged) {readings : List UInt64} :
    ∀ id ∈ g.ids readings, g.layout.workerOf id = .ok g.worker := by
  induction readings generalizing g with
  | nil =>
    intro id minted
    cases minted
  | cons now later ih =>
    intro id minted
    rcases mem_ids_cons.mp minted with first | rest
    · exact tagged.workerOf_minted first
    · obtain ⟨layout, worker⟩ := mint_keeps tagged.fits now
      rw [← layout, ← worker]
      exact ih (tagged.mint now) id rest

/-- A run of sound answers: whatever is minted comes after all minted before. -/
theorem Sound.ids (sound : g.Sound) {readings : List UInt64}
    (early : ∀ now ∈ readings, now.toNat < 2 ^ g.layout.timestampBits) :
    (∀ id ∈ g.ids readings, Int64.ofNat g.mark < id) ∧ (g.ids readings).Pairwise (· < ·) ∧
      ∀ answer ∈ g.series readings, ∀ fault, answer ≠ .overflow fault := by
  induction readings generalizing g with
  | nil => exact ⟨fun _ held => (nomatch held), .nil, fun _ held => (nomatch held)⟩
  | cons now later ih =>
    have answer := sound.mint (early now (List.mem_cons_self ..))
    obtain ⟨layout, _⟩ := mint_keeps sound.fits now
    have restEarly : ∀ now' ∈ later, now'.toNat < 2 ^ (g.mint now).1.layout.timestampBits := by
      rw [layout]
      exact fun now' held => early now' (List.mem_cons_of_mem _ held)
    generalize asked : g.mint now = outcome at answer restEarly
    cases answer with
    | @minted g' sound' later' =>
      obtain ⟨above, ordered, whole⟩ := ih sound' restEarly
      have first : Int64.ofNat g.mark < Int64.ofNat g'.mark :=
        Layout.ofNat_lt sound'.mark_lt later'
      have same : g.ids (now :: later) = Int64.ofNat g'.mark :: g'.ids later := by
        rw [ids_cons, asked]
        rfl
      refine ⟨?_, ?_, ?_⟩
      · rw [same]
        intro id held
        rcases List.mem_cons.mp held with rfl | held
        · exact first
        · exact Int64.lt_trans first (above id held)
      · rw [same]
        exact List.pairwise_cons.mpr ⟨above, ordered⟩
      · intro answer held
        simp only [series, asked, List.mem_cons] at held
        rcases held with rfl | held
        · exact fun fault same => by cases same
        · exact whole answer held
    | waits milliseconds =>
      obtain ⟨above, ordered, whole⟩ := ih sound restEarly
      have same : g.ids (now :: later) = g.ids later := by
        rw [ids_cons, asked]
        rfl
      refine ⟨same ▸ above, same ▸ ordered, ?_⟩
      intro answer held
      simp only [series, asked, List.mem_cons] at held
      rcases held with rfl | held
      · exact fun fault same => by cases same
      · exact whole answer held

section Fleet

variable {ι : Type} [DecidableEq ι] {fleet : ι → Generator}

/-- Turns of others do not change whom a member's ids name. -/
theorem workerOf_trace {layout : Layout} (tagged : ∀ i, (fleet i).Tagged)
    (alike : ∀ i, (fleet i).layout = layout) {turns : List (ι × UInt64)} {i : ι} {id : Int64}
    (minted : (i, id) ∈ trace fleet turns) : layout.workerOf id = .ok (fleet i).worker := by
  induction turns generalizing fleet with
  | nil => cases minted
  | cons turn later ih =>
    obtain ⟨j, now⟩ := turn
    obtain ⟨sameLayout, sameWorker⟩ := mint_keeps (tagged j).fits now
    have tagged' : ∀ k, (Function.update fleet j ((fleet j).mint now).1 k).Tagged := by
      intro k
      by_cases own : k = j
      · subst own
        rw [Function.update_self]
        exact (tagged k).mint now
      · rw [Function.update_of_ne own]
        exact tagged k
    have alike' : ∀ k, (Function.update fleet j ((fleet j).mint now).1 k).layout = layout := by
      intro k
      by_cases own : k = j
      · subst own
        rw [Function.update_self, sameLayout]
        exact alike k
      · rw [Function.update_of_ne own]
        exact alike k
    have worker' : (Function.update fleet j ((fleet j).mint now).1 i).worker = (fleet i).worker := by
      by_cases own : i = j
      · subst own
        rw [Function.update_self, sameWorker]
      · rw [Function.update_of_ne own]
    unfold trace at minted
    rcases List.mem_append.mp minted with first | rest
    · rw [Option.mem_toList, Option.map_eq_some_iff] at first
      obtain ⟨id', shown, same⟩ := first
      cases same
      exact alike i ▸ (tagged i).workerOf_minted (Minted.id?_eq_some.mp shown)
    · exact worker' ▸ ih tagged' alike' rest

end Fleet

theorem Sound.ids_positive (sound : g.Sound) {readings : List UInt64}
    (early : ∀ now ∈ readings, now.toNat < 2 ^ g.layout.timestampBits) :
    ∀ id ∈ g.ids readings, 0 < id := by
  intro id minted
  have above := (sound.ids early).1 id minted
  rw [Int64.lt_iff_toInt_lt, Int64.toInt_ofNat_of_lt sound.mark_lt] at above
  rw [Int64.lt_iff_toInt_lt]
  show 0 < id.toInt
  omega

/-- Ids of one generator are positive, name its worker and come in ascending
order, wherever its clock steps; and generators of different workers never mint
the same id, whatever turns they take and whatever their clocks show. -/
theorem ids_ascend_and_keep_apart {layout : Layout}
    (fits : layout.workerBits.toNat + layout.sequenceBits.toNat ≤ 63) :
    (∀ (worker : UInt32) (readings : List UInt64),
      (∀ now ∈ readings,
        now.toNat < 2 ^ (63 - layout.workerBits.toNat - layout.sequenceBits.toNat)) →
      ∃ g, create worker layout = .ok g ∧
        g.worker.toNat = worker.toNat % 2 ^ layout.workerBits.toNat ∧
        (∀ answer ∈ g.series readings, ∀ fault, answer ≠ .overflow fault) ∧
        (∀ id ∈ g.ids readings, 0 < id ∧ layout.workerOf id = .ok g.worker) ∧
        (g.ids readings).Pairwise (· < ·)) ∧
    (∀ {ι : Type} [DecidableEq ι] (workers : ι → UInt32) (fleet : ι → Generator),
      (∀ i, create (workers i) layout = .ok (fleet i)) →
      ∀ (turns : List (ι × UInt64)) (i j : ι), (fleet i).worker ≠ (fleet j).worker →
      ∀ id, (i, id) ∈ trace fleet turns → (j, id) ∉ trace fleet turns) := by
  constructor
  · intro worker readings early
    obtain ⟨sound, alike, masked⟩ := sound_of_create fits (create_eq_ok worker fits)
    rw [← Layout.timestampBits, ← alike] at early
    obtain ⟨_, ordered, whole⟩ := sound.ids early
    refine ⟨_, create_eq_ok worker fits, masked, whole, ?_, ordered⟩
    exact fun id minted => ⟨sound.ids_positive early id minted, sound.workerOf_ids id minted⟩
  · intro ι _ workers fleet created turns i j apart id first second
    have sound := fun k => sound_of_create fits (created k)
    have tagged : ∀ k, (fleet k).Tagged := fun k => (sound k).1.toTagged
    have alike : ∀ k, (fleet k).layout = layout := fun k => (sound k).2.1
    have names := workerOf_trace tagged alike first
    rw [workerOf_trace tagged alike second] at names
    exact apart (Except.ok.inj names).symm

theorem ids_ascend_and_keep_apart_standard :
    Layout.standard.workerBits.toNat + Layout.standard.sequenceBits.toNat ≤ 63 ∧
    (∃ g, create 1061 .standard = .ok g ∧ g.worker.toNat = 37 ∧
      (g.ids [7, 7, 3]).length = 3 ∧ (g.ids [7, 7, 3]).Pairwise (· < ·)) ∧
    ∃ first second, create 1 .standard = .ok first ∧ create 2 .standard = .ok second ∧
      ∀ turns id, (true, id) ∈ trace (fun own => if own then first else second) turns →
        (false, id) ∉ trace (fun own => if own then first else second) turns := by
  refine ⟨by decide, ?_, ⟨.standard, 1, 0, 0⟩, ⟨.standard, 2, 0, 0⟩, rfl, rfl, ?_⟩
  · have early : ∀ now ∈ ([7, 7, 3] : List UInt64), now.toNat < 2 ^ (63 - 10 - 12) := by
      simp
    obtain ⟨g, created, masked, _, _, ordered⟩ :=
      (@ids_ascend_and_keep_apart .standard (by decide)).1 1061 [7, 7, 3] early
    refine ⟨g, created, masked, ?_, ordered⟩
    cases created
    rfl
  · intro turns id
    refine (@ids_ascend_and_keep_apart .standard (by decide)).2
      (fun own => if own then 1 else 2) _ ?_ turns true false (by decide) id
    intro own
    cases own <;> rfl

end Generator
end ClusterWire.Ident
