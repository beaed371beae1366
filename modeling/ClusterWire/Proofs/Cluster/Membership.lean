import ClusterWire.Proofs.Cluster.Sharding

/-! Choices and who there is to choose from. A cluster keeps its members in the order of their
ids, each id once, so clusters with the same members are the same list, however they came to
have them. What the selectors go by is then told of the members alone: which of them is the
lightest, and which one has a given rank. -/
namespace ClusterWire

namespace Cluster

variable {c d : Cluster} {members : List ServerInfo} {m n : ServerInfo}

theorem Ascending.nodup (ascending : Ascending members) : members.Nodup := by
  refine List.Pairwise.imp (fun {m n} before same => ?_) ascending
  rw [same] at before
  exact UInt32.lt_irrefl _ before

/-- There is one list of given members in the order of their ids. -/
theorem Ascending.eq_of_mem_iff {others : List ServerInfo} (ascending : Ascending members)
    (other : Ascending others) (same : ∀ m, m ∈ members ↔ m ∈ others) : members = others := by
  have perm := (List.perm_ext_iff_of_nodup ascending.nodup other.nodup).mpr same
  refine perm.eq_of_pairwise (fun m n _ _ before behind => ?_) ascending other
  exact absurd (UInt32.lt_trans before behind) (UInt32.lt_irrefl _)

theorem Ascending.eq_of_id (ascending : Ascending members) (one : m ∈ members) (other : n ∈ members)
    (same : m.id = n.id) : m = n := by
  have found := find?_of_mem ascending one
  rw [same, find?_of_mem ascending other] at found
  exact (Option.some.inj found).symm

/-- A server comes before another by its load, or at the same load by its id. -/
def Lighter (m n : ServerInfo) : Prop := m.load < n.load ∨ m.load = n.load ∧ m.id ≤ n.id

theorem Lighter.antisymm (one : Lighter m n) (other : Lighter n m) : m.id = n.id := by
  rcases one with less | ⟨same, below⟩
  · rcases other with more | ⟨same, -⟩
    · exact absurd (UInt32.lt_trans less more) (UInt32.lt_irrefl _)
    · exact absurd (same ▸ less) (UInt32.lt_irrefl _)
  · rcases other with more | ⟨-, above⟩
    · exact absurd (same ▸ more) (UInt32.lt_irrefl _)
    · exact UInt32.le_antisymm below above

theorem Lighter.of_load_le {best : ServerInfo} (le : m.load ≤ best.load) (below : m.id ≤ n.id)
    (lighter : Lighter best n) : Lighter m n := by
  rcases lighter with less | ⟨same, -⟩
  · exact .inl (UInt32.lt_of_le_of_lt le less)
  · rw [same] at le
    rcases UInt32.lt_or_eq_of_le le with before | equal
    · exact .inl before
    · exact .inr ⟨equal, below⟩

/-- What is found going through the members is lighter than all of them: where loads are equal the
earlier member stays, and earlier members have lower ids. -/
theorem lighter_of_least? (ascending : Ascending members) (least : least? members = some m) :
    ∀ n ∈ members, Lighter m n := by
  induction members generalizing m with
  | nil => cases least
  | cons first rest ih =>
    obtain ⟨above, tail⟩ := List.pairwise_cons.mp ascending
    have own : Lighter first first := .inr ⟨rfl, UInt32.le_refl _⟩
    unfold least? at least
    cases behind : least? rest with
    | none =>
      rw [behind] at least
      cases least
      rw [least?_eq_none_iff.mp behind]
      simpa using own
    | some best =>
      simp only [behind] at least
      have among := ih tail behind
      by_cases less : best.load < first.load
      · rw [if_pos less] at least
        cases least
        intro n held
        rcases List.mem_cons.mp held with rfl | held
        · exact .inl less
        · exact among n held
      · rw [if_neg less] at least
        cases least
        intro n held
        rcases List.mem_cons.mp held with rfl | held
        · exact own
        · have below := UInt32.le_of_lt (above n held)
          exact (among n held).of_load_le (UInt32.not_lt.mp less) below

theorem leastLoaded?_eq_some_iff (ascending : Ascending c.members) :
    c.leastLoaded? = some m ↔ m ∈ c.members ∧ ∀ n ∈ c.members, Lighter m n := by
  constructor
  · intro least
    exact ⟨mem_of_least? least, lighter_of_least? ascending least⟩
  · rintro ⟨held, lighter⟩
    cases least : c.leastLoaded? with
    | none =>
      rw [least?_eq_none_iff.mp least] at held
      cases held
    | some best =>
      have there := mem_of_least? least
      have equal := (lighter_of_least? ascending least m held).antisymm (lighter best there)
      rw [ascending.eq_of_id there held equal]

/-- How many of the members have lower ids. -/
def rank (members : List ServerInfo) (m : ServerInfo) : Nat := members.countP (·.id < m.id)

theorem rank_first {rest : List ServerInfo} (ascending : Ascending (m :: rest)) :
    rank (m :: rest) m = 0 := by
  obtain ⟨above, -⟩ := List.pairwise_cons.mp ascending
  refine List.countP_eq_zero.mpr fun n held below => ?_
  rcases List.mem_cons.mp held with rfl | held
  · exact UInt32.lt_irrefl _ (of_decide_eq_true below)
  · exact UInt32.lt_irrefl _ (UInt32.lt_trans (above n held) (of_decide_eq_true below))

theorem rank_later {rest : List ServerInfo} (ascending : Ascending (n :: rest)) (held : m ∈ rest) :
    rank (n :: rest) m = rank rest m + 1 :=
  List.countP_cons_of_pos (decide_eq_true ((List.pairwise_cons.mp ascending).1 m held))

/-- A member stands at the place of its rank. -/
theorem getElem?_eq_some_iff_rank (ascending : Ascending members) {i : Nat} :
    members[i]? = some m ↔ m ∈ members ∧ rank members m = i := by
  induction members generalizing i with
  | nil => simp
  | cons first rest ih =>
    obtain ⟨-, tail⟩ := List.pairwise_cons.mp ascending
    cases i with
    | zero =>
      rw [List.getElem?_cons_zero, Option.some.injEq]
      constructor
      · rintro rfl
        exact ⟨List.mem_cons_self, rank_first ascending⟩
      · rintro ⟨held, lowest⟩
        rcases List.mem_cons.mp held with rfl | held
        · rfl
        · rw [rank_later ascending held] at lowest
          cases lowest
    | succ i =>
      rw [List.getElem?_cons_succ, ih tail]
      constructor
      · rintro ⟨held, place⟩
        exact ⟨List.mem_cons_of_mem first held, place ▸ rank_later ascending held⟩
      · rintro ⟨held, place⟩
        rcases List.mem_cons.mp held with rfl | held
        · rw [rank_first ascending] at place
          cases place
        · exact ⟨held, Nat.succ.inj ((rank_later ascending held).symm.trans place)⟩

theorem byHash?_eq_none_iff (hash : UInt64) : c.byHash? hash = none ↔ c.members = [] := by
  rw [byHash?, List.getElem?_eq_none_iff]
  constructor
  · intro outside
    refine List.eq_nil_of_length_eq_zero (Nat.eq_zero_of_not_pos fun some => ?_)
    exact Nat.not_le_of_lt (Nat.mod_lt hash.toNat some) outside
  · intro empty
    simp [empty]

/-- What can be chosen from a cluster, by what its members are. -/
structure Chooses (c : Cluster) : Prop where
  ascending : Ascending c.members
  lightest : ∀ m, c.leastLoaded? = some m ↔ m ∈ c.members ∧ ∀ n ∈ c.members, Lighter m n
  deserted : c.leastLoaded? = none ↔ ∀ m, m ∉ c.members
  ranked : ∀ hash m, c.byHash? hash = some m ↔
    m ∈ c.members ∧ rank c.members m = hash.toNat % c.members.length
  hashless : ∀ hash, c.byHash? hash = none ↔ ∀ m, m ∉ c.members
  named : ∀ id m, c.find? id = some m ↔ m ∈ c.members ∧ m.id = id
  halved : ∀ id, c.find? id = pick id c.members

theorem chooses_of_ascending (ascending : Ascending c.members) : Chooses c where
  ascending := ascending
  lightest _ := leastLoaded?_eq_some_iff ascending
  deserted := least?_eq_none_iff.trans List.eq_nil_iff_forall_not_mem
  ranked _ _ := getElem?_eq_some_iff_rank ascending
  hashless hash := (byHash?_eq_none_iff hash).trans List.eq_nil_iff_forall_not_mem
  named _ _ := find?_eq_some_iff ascending
  halved id := (pick_eq_find? ascending id).symm

theorem Formed.eq_of_mem_iff {type : ServerType} (formed : Formed type c) (other : Formed type d)
    (same : ∀ m, m ∈ c.members ↔ m ∈ d.members) : c = d := by
  have members := formed.ascending.eq_of_mem_iff other.ascending same
  cases c
  cases d
  rw [Cluster.mk.injEq]
  exact ⟨formed.type_eq.trans other.type_eq.symm, members⟩

end Cluster

namespace Selector

open Cluster (Formed Chooses)

/-- Two clusters of one type that have come to have the same members: every selector chooses the
same of them for every caller, or fails with the same fault, and so does a choice by any hash of
the caller's identity. The lightest member is the first by load and id, and a hash stands for the
member of that rank. -/
theorem chosen_by_members {type : ServerType} {c d : Cluster} (formed : Formed type c)
    (other : Formed type d) (same : ∀ m, m ∈ c.members ↔ m ∈ d.members) :
    (∀ (s : Selector) (ctx : CallContext), s.select c ctx = s.select d ctx) ∧
    (∀ (hash : Int64 → UInt64) (ctx : CallContext),
      orElse (c.byHash? (hash ctx.identity)) (.emptyCluster c.type) =
        orElse (d.byHash? (hash ctx.identity)) (.emptyCluster d.type)) ∧
    Chooses c := by
  have equal := formed.eq_of_mem_iff other same
  refine ⟨fun s ctx => ?_, fun hash ctx => ?_, Cluster.chooses_of_ascending formed.ascending⟩
  · rw [equal]
  · rw [equal]

/-- The servers of the shire once more: they came in another order, one changed its load, and
another one has left. -/
def resettled : Cluster :=
  ((((Cluster.empty "game").upsert ⟨3, "game", .loopback 7002, 9⟩).upsert
    ⟨7, "game", .loopback 7000, 0⟩ |>.upsert ⟨8, "game", .loopback 7003, 0⟩).setLoad 3 5 |>.upsert
      ⟨1031, "game", .loopback 7001, 0⟩).remove 8

theorem chosen_by_members_shire :
    (∀ ctx, leastLoaded.select resettled ctx = .ok ⟨7, "game", .loopback 7000, 0⟩) ∧
    (∀ (s : Selector) ctx, s.select shire ctx = s.select resettled ctx) ∧
    shire.byHash? 11 = some ⟨1031, "game", .loopback 7001, 0⟩ := by
  have formed : Formed "game" shire := .upsert (.upsert (.upsert .empty _) _) _
  have other : Formed "game" resettled :=
    .remove (.upsert (.setLoad (.upsert (.upsert (.upsert .empty _) _) _) _ _) _) _
  have members : shire.members = resettled.members := by decide
  obtain ⟨alike, -, chooses⟩ := chosen_by_members formed other fun m => by rw [members]
  refine ⟨fun ctx => ?_, alike, (chooses.ranked 11 _).mpr ⟨by decide, by decide⟩⟩
  have lightest := (chooses.lightest ⟨7, "game", .loopback 7000, 0⟩).mpr
    ⟨by decide, by simp [shire, Cluster.Lighter, Cluster.upsert, Cluster.insert, Cluster.empty]⟩
  rw [← alike]
  simp only [select, lightest, orElse]

end Selector
end ClusterWire
