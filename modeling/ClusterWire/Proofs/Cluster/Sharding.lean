import ClusterWire.Proofs.Cluster.Changes
import ClusterWire.Proofs.Ident.Minting

/-! Identities and the servers that minted them. The worker inside an id is the number of its
server, cut to the worker's field; a call for that identity goes to the member of that number, or
nowhere. A server whose number does not fit the field is never the one that its own ids name. -/
namespace ClusterWire

namespace Cluster

/-- The clusters of a type that come about as members join, report their load and leave. -/
inductive Formed (type : ServerType) : Cluster → Prop where
  | empty : Formed type (.empty type)
  | upsert {c : Cluster} (before : Formed type c) (info : ServerInfo) : Formed type (c.upsert info)
  | remove {c : Cluster} (before : Formed type c) (id : UInt32) : Formed type (c.remove id)
  | setLoad {c : Cluster} (before : Formed type c) (id load : UInt32) :
      Formed type (c.setLoad id load)

namespace Formed

variable {type : ServerType} {c : Cluster}

theorem type_eq (formed : Formed type c) : c.type = type := by
  induction formed with
  | empty => rfl
  | upsert _ _ ih | remove _ _ ih | setLoad _ _ _ ih => exact ih

theorem ascending (formed : Formed type c) : Ascending c.members := by
  induction formed with
  | empty => exact .nil
  | upsert _ info ih => exact ascending_insert ih info
  | remove _ id ih => exact ih.filter _
  | setLoad _ id load ih => exact ascending_setLoad ih id load

end Formed

variable {c : Cluster} {id : UInt32}

theorem find?_eq_some_iff (ascending : Ascending c.members) {m : ServerInfo} :
    c.find? id = some m ↔ m ∈ c.members ∧ m.id = id := by
  constructor
  · intro found
    exact ⟨List.mem_of_find?_eq_some found, by simpa using List.find?_some found⟩
  · rintro ⟨held, rfl⟩
    exact find?_of_mem ascending held

theorem find?_eq_none_iff : c.find? id = none ↔ ∀ m ∈ c.members, m.id ≠ id := by
  simp [find?]

end Cluster

namespace Selector

open Cluster (Ascending)

variable {found : Option ServerInfo} {fault : ClusterFault}

theorem orElse_eq_ok {m : ServerInfo} : orElse found fault = .ok m ↔ found = some m := by
  cases found <;> simp [orElse]

theorem orElse_eq_error {other : SelectFault} :
    orElse found fault = .error other ↔ found = none ∧ other = .cluster fault := by
  cases found <;> simp [orElse, eq_comm]

/-- An identity that names a worker is looked up under that number. -/
theorem select_shard {layout : Ident.Layout} {identity : Int64} {worker : UInt32}
    (positive : 0 < identity) (names : layout.workerOf identity = .ok worker) (c : Cluster)
    (sequence : Int64) : (shard layout).select c ⟨identity, sequence⟩ =
      orElse (c.find? worker) (.unknownShard c.type worker) := by
  have own : (⟨identity, sequence⟩ : CallContext).hasIdentity = true := decide_eq_true positive
  simp only [select, own, if_true, names]

/-- What a choice by the worker of an identity comes to: halving finds the member of that number
if there is one, and no other fault is possible than that there is none. -/
structure Shards (c : Cluster) (worker : UInt32) (choice : Except SelectFault ServerInfo) :
    Prop where
  halved : choice = orElse (Cluster.pick worker c.members) (.unknownShard c.type worker)
  identified : choice ≠ .error (.cluster .noIdentity)
  member : ∀ m, choice = .ok m ↔ m ∈ c.members ∧ m.id = worker
  missing : choice = .error (.cluster (.unknownShard c.type worker)) ↔
    ∀ m ∈ c.members, m.id ≠ worker

theorem shards_orElse {c : Cluster} (ascending : Ascending c.members) (worker : UInt32) :
    Shards c worker (orElse (c.find? worker) (.unknownShard c.type worker)) where
  halved := by rw [Cluster.pick_eq_find? ascending, Cluster.find?]
  identified := by simp [orElse_eq_error]
  member m := orElse_eq_ok.trans (Cluster.find?_eq_some_iff ascending)
  missing := by
    rw [orElse_eq_error, Cluster.find?_eq_none_iff]
    simp

open Ident (Layout Generator)

/-- Whatever a generator made for a server mints, and whichever members a cluster has come to
have: a call for that identity goes to the member whose number is the server's, cut to the
worker's field, and fails with that shard if there is none. So it goes to the server itself
wherever that is a member and its number fits the field, and never there if it does not fit. -/
theorem shard_names_minter {layout : Layout}
    (fits : layout.workerBits.toNat + layout.sequenceBits.toNat ≤ 63) (server : UInt32)
    {readings : List UInt64}
    (early : ∀ now ∈ readings,
      now.toNat < 2 ^ (63 - layout.workerBits.toNat - layout.sequenceBits.toNat)) :
    ∃ g worker, Generator.create server layout = .ok g ∧
      worker.toNat = server.toNat % 2 ^ layout.workerBits.toNat ∧
      ∀ id ∈ g.ids readings, ∀ type c, Cluster.Formed type c → ∀ sequence : Int64,
        c.type = type ∧ Shards c worker ((shard layout).select c ⟨id, sequence⟩) ∧
        ∀ m ∈ c.members, m.id = server →
          (server.toNat < 2 ^ layout.workerBits.toNat →
            (shard layout).select c ⟨id, sequence⟩ = .ok m) ∧
          (2 ^ layout.workerBits.toNat ≤ server.toNat →
            ∀ other, (shard layout).select c ⟨id, sequence⟩ = .ok other → other.id ≠ server) := by
  have created := Generator.create_eq_ok server fits
  obtain ⟨sound, alike, cut⟩ := Generator.sound_of_create fits created
  rw [← Layout.timestampBits, ← alike] at early
  refine ⟨_, _, created, cut, fun id minted type c formed sequence => ?_⟩
  have chosen := select_shard (sound.ids_positive early id minted) (sound.workerOf_ids id minted) c
    sequence
  have shards := shards_orElse formed.ascending
    (UInt32.ofNat (server.toNat % 2 ^ layout.workerBits.toNat))
  rw [← chosen] at shards
  refine ⟨formed.type_eq, shards, fun m held own => ⟨fun inside => ?_, fun outside other got => ?_⟩⟩
  · refine (shards.member m).mpr ⟨held, own.trans (UInt32.toNat.inj ?_)⟩
    rw [cut, Nat.mod_eq_of_lt inside]
  · have below := Nat.mod_lt server.toNat (Nat.two_pow_pos layout.workerBits.toNat)
    rw [((shards.member other).mp got).2]
    intro same
    rw [← cut, same] at below
    exact Nat.not_lt_of_le outside below

/-- Servers 7 and 1031, whose numbers are the same in ten bits, and one more. -/
def shire : Cluster :=
  ((Cluster.empty "game").upsert ⟨1031, "game", .loopback 7001, 0⟩).upsert
    ⟨7, "game", .loopback 7000, 0⟩ |>.upsert ⟨3, "game", .loopback 7002, 5⟩

theorem shard_names_minter_shire :
    Layout.standard.workerBits.toNat + Layout.standard.sequenceBits.toNat ≤ 63 ∧
    (∀ now ∈ ([9, 9, 4] : List UInt64), now.toNat < 2 ^ (63 - 10 - 12)) ∧
    (∃ g, Generator.create 7 .standard = .ok g ∧ (g.ids [9, 9, 4]).length = 3 ∧
      ∀ id ∈ g.ids [9, 9, 4], (shard .standard).select shire ⟨id, 1⟩ =
        .ok ⟨7, "game", .loopback 7000, 0⟩) ∧
    ∃ g, Generator.create 1031 .standard = .ok g ∧ (g.ids [9, 9, 4]).length = 3 ∧
      ∀ id ∈ g.ids [9, 9, 4], ∀ other, (shard .standard).select shire ⟨id, 1⟩ = .ok other →
        other.id ≠ 1031 := by
  have early : ∀ now ∈ ([9, 9, 4] : List UInt64), now.toNat < 2 ^ (63 - 10 - 12) := by simp
  have formed : Cluster.Formed "game" shire := .upsert (.upsert (.upsert .empty _) _) _
  refine ⟨by decide, early, ?_, ?_⟩
  · obtain ⟨g, worker, created, -, brings⟩ :=
      @shard_names_minter .standard (by decide) 7 [9, 9, 4] early
    cases created
    exact ⟨_, rfl, rfl, fun id minted =>
      ((brings id minted "game" shire formed 1).2.2 _ (by decide) rfl).1 (by decide)⟩
  · obtain ⟨g, worker, created, -, brings⟩ :=
      @shard_names_minter .standard (by decide) 1031 [9, 9, 4] early
    cases created
    exact ⟨_, rfl, rfl, fun id minted =>
      ((brings id minted "game" shire formed 1).2.2 ⟨1031, "game", .loopback 7001, 0⟩
        (by decide) rfl).2 (by decide)⟩

end Selector
end ClusterWire
