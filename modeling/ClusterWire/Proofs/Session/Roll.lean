import ClusterWire.Proofs.Session.Bindings
import Mathlib.Data.List.Nodup

/-! Rolls of all identities that are bound. Of those on one session the one that became bound first
stands first, and there is only one such order: that of the session's own list. -/
namespace ClusterWire.Sessions

/-- Every identity that is bound, once, and those on one session in the order in which they became
bound to it. -/
structure Roll (events : List SessionEvent) (t : Sessions) (identities : List Int64) : Prop where
  whole : ∀ i, i ∈ identities ↔ (t.resolve i).isSome
  once : identities.Nodup
  older : identities.Pairwise fun i j =>
    ∀ id, t.resolve i = some id → t.resolve j = some id → Older events id i j

variable {events : List SessionEvent} {t : Sessions} {id : SessionId} {i j : Int64}

/-- An identity became bound at one place only, since it has been bound ever since. -/
theorem BoundSince.le {m n : Nat} (since : BoundSince events m i id)
    (also : BoundSince events n i id) : n ≤ m := by
  by_contra later
  exact also.before (since.since n (Nat.lt_of_not_le later) (Nat.le_of_lt also.lt))

theorem Older.asymm (older : Older events id i j) : ¬ Older events id j i := by
  rintro ⟨m', n', other, first', second'⟩
  obtain ⟨m, n, less, first, second⟩ := older
  have := first'.le second
  have := first.le second'
  omega

/-- A roll has the identities of a session as the session lists them. -/
theorem Roll.filter_eq {identities : List Int64} (roll : Roll events t identities)
    (run : Run events t) (id : SessionId) :
    identities.filter (t.resolve · == some id) = t.identitiesOf id := by
  have consistent := consistent_of_run run
  have members : ∀ i, i ∈ identities.filter (t.resolve · == some id) ↔ i ∈ t.identitiesOf id := by
    intro i
    rw [List.mem_filter, beq_iff_eq, roll.whole, ← consistent.agree]
    exact and_iff_right_of_imp fun bound => by rw [bound]; rfl
  have bound : ∀ i ∈ identities.filter (t.resolve · == some id), t.resolve i = some id :=
    fun i held => eq_of_beq (List.mem_filter.mp held).2
  refine List.Perm.eq_of_pairwise (fun i j _ _ one other => (one.asymm other).elim)
    ((roll.older.filter _).imp_of_mem fun first second older =>
      older id (bound _ first) (bound _ second))
    (older_of_run run id) ?_
  exact (List.perm_ext_iff_of_nodup (roll.once.filter _) (consistent.nodup id)).mpr members

/-- The lists of the sessions one after another are a roll, whatever the order of the sessions. -/
theorem roll_flatMap (run : Run events t) {groups : List SessionId} (once : groups.Nodup)
    (whole : ∀ id, t.identitiesOf id ≠ [] → id ∈ groups) :
    Roll events t (groups.flatMap t.identitiesOf) := by
  have consistent := consistent_of_run run
  refine ⟨fun i => ?_, List.nodup_flatMap.mpr ⟨fun id _ => consistent.nodup id, ?_⟩,
    List.pairwise_flatMap.mpr ⟨fun id _ => ?_, ?_⟩⟩
  · rw [List.mem_flatMap, Option.isSome_iff_exists]
    refine exists_congr fun id => ?_
    rw [consistent.agree]
    exact and_iff_right_of_imp fun held => whole id (List.ne_nil_of_mem held)
  · exact once.imp fun differ i one other => differ (consistent.only one other)
  · refine (older_of_run run id).imp_of_mem fun first _ older other bound _ => ?_
    rw [(consistent.agree _ id).mpr first] at bound
    cases bound
    exact older
  · refine once.imp fun differ i one j other id first second => (differ ?_).elim
    rw [(consistent.agree i _).mpr one] at first
    rw [(consistent.agree j _).mpr other, ← first] at second
    exact (Option.some.inj second).symm

end ClusterWire.Sessions
