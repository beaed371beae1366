import ClusterWire.Cluster.Selector

/-! Views of the cluster as they come about: servers register, report their
load and leave, in any order. Whatever selector chooses, it chooses a member
of the type it was asked for. -/
namespace ClusterWire

namespace Cluster

theorem mem_of_insert {info m : ServerInfo} {ms : List ServerInfo} (held : m ∈ insert info ms) :
    m = info ∨ m ∈ ms := by
  fun_induction insert info ms with
  | case1 => exact .inl (List.mem_singleton.mp held)
  | case2 n rest _ => exact (List.mem_cons.mp held)
  | case3 n rest _ _ =>
    exact (List.mem_cons.mp held).imp_right (List.mem_cons_of_mem n)
  | case4 n rest _ _ ih =>
    rcases List.mem_cons.mp held with rfl | held
    · exact .inr List.mem_cons_self
    · exact (ih held).imp_right (List.mem_cons_of_mem n)

theorem mem_of_least? {ms : List ServerInfo} {m : ServerInfo} (least : least? ms = some m) :
    m ∈ ms := by
  induction ms generalizing m with
  | nil => cases least
  | cons n rest ih =>
    unfold least? at least
    split at least
    · rename_i best found
      split at least
      · cases least
        exact List.mem_cons_of_mem n (ih found)
      · cases least
        exact List.mem_cons_self
    · cases least
      exact List.mem_cons_self

end Cluster

theorem Selector.mem_of_select {s : Selector} {c : Cluster} {ctx : CallContext}
    {server : ServerInfo} (chosen : s.select c ctx = .ok server) : server ∈ c.members := by
  have found : ∀ {option : Option ServerInfo} {fault : ClusterFault},
      Selector.orElse option fault = .ok server → option = some server := by
    intro option fault same
    cases option with
    | none => cases same
    | some info =>
      cases same
      rfl
  cases s with
  | hash => exact List.mem_of_getElem? (found chosen)
  | leastLoaded => exact Cluster.mem_of_least? (found chosen)
  | explicit id => exact List.mem_of_find?_eq_some (found chosen)
  | shard layout =>
    unfold select at chosen
    dsimp only at chosen
    split at chosen
    · split at chosen
      · cases chosen
      · exact List.mem_of_find?_eq_some (found chosen)
    · cases chosen

namespace Clusters

/-- The views that come about from one. -/
inductive Reached (first : Clusters) : Clusters → Prop where
  | start : Reached first first
  | register {cs : Clusters} (before : Reached first cs) (info : ServerInfo) :
      Reached first (cs.register info).1
  | unregister {cs : Clusters} (before : Reached first cs) (type : ServerType) (id : UInt32) :
      Reached first (cs.unregister type id).1
  | updateLoad {cs : Clusters} (before : Reached first cs) (type : ServerType) (id load : UInt32) :
      Reached first (cs.updateLoad type id load).1

/-- A cluster holds servers of its own type only. -/
def Typed (cs : Clusters) : Prop := ∀ c ∈ cs.all, ∀ m ∈ c.members, m.type = c.type

theorem typed_insert {info : ServerInfo} {all : List Cluster} (typed : Typed ⟨all⟩) :
    Typed ⟨insert info all⟩ := by
  have fresh : ∀ c : Cluster, c.type = info.type → (∀ m ∈ c.members, m.type = c.type) →
      ∀ m ∈ (c.upsert info).members, m.type = (c.upsert info).type := by
    intro c same own m held
    rcases Cluster.mem_of_insert held with rfl | held
    · exact same.symm
    · exact own m held
  have empty := fresh (.empty info.type) rfl fun _ held => (nomatch held)
  intro c held
  induction all with
  | nil =>
    cases List.mem_singleton.mp held
    exact empty
  | cons d rest ih =>
    have front := typed d List.mem_cons_self
    have behind : Typed ⟨rest⟩ := fun c held => typed c (List.mem_cons_of_mem d held)
    unfold insert at held
    split at held
    · rename_i same
      rcases List.mem_cons.mp held with rfl | held
      · exact fresh d same.symm front
      · exact behind c held
    · split at held
      · rcases List.mem_cons.mp held with rfl | held
        · exact empty
        · exact typed c held
      · rcases List.mem_cons.mp held with rfl | held
        · exact front
        · exact ih behind held

theorem typed_modify {cs : Clusters} (typed : cs.Typed) (type : ServerType)
    {f : Cluster → Cluster} (kept : ∀ c, (f c).type = c.type)
    (own : ∀ c, (∀ m ∈ c.members, m.type = c.type) → ∀ m ∈ (f c).members, m.type = c.type) :
    (cs.modify type f).Typed := by
  intro c held
  obtain ⟨d, old, rfl⟩ := List.mem_map.mp held
  split
  · intro m inside
    rw [kept d]
    exact own d (typed d old) m inside
  · exact typed d old

theorem typed_of_reached {first cs : Clusters} (typed : first.Typed)
    (reached : Reached first cs) : cs.Typed := by
  induction reached with
  | start => exact typed
  | register before info ih => exact typed_insert ih
  | unregister before type id ih =>
    exact typed_modify ih type (fun _ => rfl) fun c own m held =>
      own m (List.mem_filter.mp held).1
  | updateLoad before type id load ih =>
    refine typed_modify ih type (fun _ => rfl) fun c own m held => ?_
    obtain ⟨n, old, rfl⟩ := List.mem_map.mp held
    split
    · exact own n old
    · exact own n old

theorem type_of_find? {cs : Clusters} {type : ServerType} {c : Cluster}
    (found : cs.find? type = some c) : c.type = type := by
  have same := List.find?_some found
  exact eq_of_beq same

/-- A member of the cluster of a type is a server of that type. -/
theorem Typed.type_of_mem {cs : Clusters} (typed : cs.Typed) {type : ServerType} {c : Cluster}
    {m : ServerInfo} (found : cs.find? type = some c) (held : m ∈ c.members) : m.type = type :=
  (typed c (List.mem_of_find?_eq_some found) m held).trans (type_of_find? found)

theorem find?_register (cs : Clusters) (info : ServerInfo) :
    ∃ c, (cs.register info).1.find? info.type = some c ∧ info ∈ c.members := by
  obtain ⟨all⟩ := cs
  have fresh : ∀ c : Cluster, info ∈ (c.upsert info).members := fun c =>
    Cluster.mem_insert_self info c.members
  show ∃ c, (insert info all).find? (·.type == info.type) = some c ∧ _
  induction all with
  | nil => exact ⟨_, List.find?_cons_of_pos (beq_self_eq_true _), fresh _⟩
  | cons d rest ih =>
    unfold insert
    split
    · rename_i same
      exact ⟨_, List.find?_cons_of_pos (beq_iff_eq.mpr same.symm), fresh _⟩
    · rename_i other
      split
      · exact ⟨_, List.find?_cons_of_pos (beq_self_eq_true _), fresh _⟩
      · have past : ¬ (d.type == info.type) = true := fun same => other (eq_of_beq same).symm
        obtain ⟨c, found, held⟩ := ih
        refine ⟨c, ?_, held⟩
        exact (List.find?_cons_of_neg (p := fun x : Cluster => x.type == info.type) past).trans found

theorem find?_modify {cs : Clusters} {type : ServerType} {f : Cluster → Cluster}
    (kept : ∀ c, (f c).type = c.type) :
    (cs.modify type f).find? type = (cs.find? type).map f := by
  unfold modify find?
  rw [List.find?_map]
  have same : ((fun c : Cluster => c.type == type) ∘ fun c => if c.type = type then f c else c) =
      fun c : Cluster => c.type == type := by
    funext c
    simp only [Function.comp]
    split
    · rw [kept]
    · rfl
  rw [same]
  cases found : cs.all.find? (fun c : Cluster => c.type == type) with
  | none => rfl
  | some c =>
    have own : c.type = type := type_of_find? found
    exact congrArg some (if_pos own)

/-- All others of a type can leave, one after another. -/
theorem reached_alone {first cs : Clusters} (reached : Reached first cs) {type : ServerType}
    {c : Cluster} (found : cs.find? type = some c) (id : UInt32) :
    ∃ view c', Reached first view ∧ view.find? type = some c' ∧
      ∀ m, m ∈ c'.members ↔ m ∈ c.members ∧ m.id = id := by
  have leave : ∀ (leaving : List UInt32) (cs : Clusters) (c : Cluster), Reached first cs →
      cs.find? type = some c →
      ∃ view c', Reached first view ∧ view.find? type = some c' ∧
        ∀ m, m ∈ c'.members ↔ m ∈ c.members ∧ m.id ∉ leaving := by
    intro leaving
    induction leaving with
    | nil =>
      intro cs c reached found
      exact ⟨cs, c, reached, found, fun m => by simp⟩
    | cons one others ih =>
      intro cs c reached found
      have left : (cs.unregister type one).1.find? type = some (c.remove one) := by
        show (cs.modify type (·.remove one)).find? type = _
        rw [find?_modify (f := (·.remove one)) fun _ => rfl, found]
        rfl
      obtain ⟨view, c', reached', found', members⟩ :=
        ih _ _ (.unregister reached type one) left
      refine ⟨view, c', reached', found', fun m => ?_⟩
      rw [members]
      simp [Cluster.remove, and_assoc]
  obtain ⟨view, c', reached', found', members⟩ :=
    leave ((c.members.map (·.id)).filter (· ≠ id)) cs c reached found
  refine ⟨view, c', reached', found', fun m => (members m).trans ?_⟩
  constructor
  · rintro ⟨held, stays⟩
    refine ⟨held, Classical.byContradiction fun other => stays ?_⟩
    exact List.mem_filter.mpr ⟨List.mem_map_of_mem held, decide_eq_true other⟩
  · rintro ⟨held, own⟩
    refine ⟨held, fun gone => ?_⟩
    exact of_decide_eq_true (List.mem_filter.mp gone).2 own

end Clusters
end ClusterWire
