import ClusterWire.Cluster.Endpoint
import ClusterWire.Proofs.Cluster.Search
import ClusterWire.Proofs.Cluster.Views

/-! What a change of the view does to what is found in it: it reaches one server of one type,
and clusters and members stay in their order. -/
namespace ClusterWire

namespace Cluster

variable {members : List ServerInfo}

theorem find?_insert (info : ServerInfo) (members : List ServerInfo) (id : UInt32) :
    (insert info members).find? (·.id == id) =
      if info.id = id then some info else members.find? (·.id == id) := by
  fun_induction insert info members with
  | case1 => by_cases own : info.id = id <;> simp [own]
  | case2 m rest _ => by_cases own : info.id = id <;> simp [own, List.find?_cons]
  | case3 m rest _ same => by_cases own : info.id = id <;> simp [own, ← same]
  | case4 m rest _ other ih =>
    rw [List.find?_cons, List.find?_cons, ih]
    by_cases own : info.id = id
    · have past : (m.id == id) = false := beq_eq_false_iff_ne.mpr fun same =>
        other (own.trans same.symm)
      simp only [past, if_pos own]
    · simp only [if_neg own]

theorem find?_remove (members : List ServerInfo) (gone id : UInt32) :
    (members.filter (·.id != gone)).find? (·.id == id) =
      if gone = id then none else members.find? (·.id == id) := by
  rw [List.find?_filter]
  by_cases own : gone = id
  · subst own
    rw [if_pos rfl]
    exact List.find?_eq_none.mpr fun m _ both => by simp at both
  · rw [if_neg own]
    congr 1
    funext m
    by_cases same : m.id = id
    · simp [same, Ne.symm own]
    · simp [same]

theorem find?_setLoad (members : List ServerInfo) (own load id : UInt32) :
    (members.map fun m => if m.id = own then { m with load := load } else m).find? (·.id == id) =
      if own = id then (members.find? (·.id == id)).map ({ · with load := load })
      else members.find? (·.id == id) := by
  have same : ((fun m : ServerInfo => m.id == id) ∘
      fun m => if m.id = own then { m with load := load } else m) = fun m => m.id == id := by
    funext m
    simp only [Function.comp]
    split <;> rfl
  rw [List.find?_map, same]
  cases found : members.find? (·.id == id) with
  | none => simp
  | some m =>
    have at' : m.id = id := by simpa using List.find?_some found
    by_cases asked : own = id
    · simp [at', asked]
    · simp [at', asked, Ne.symm asked]

theorem ascending_insert (ascending : Ascending members) (info : ServerInfo) :
    Ascending (insert info members) := by
  fun_induction insert info members with
  | case1 => exact List.pairwise_singleton _ _
  | case2 m rest before =>
    obtain ⟨above, _⟩ := List.pairwise_cons.mp ascending
    refine List.pairwise_cons.mpr ⟨fun n held => ?_, ascending⟩
    rcases List.mem_cons.mp held with rfl | held
    · exact before
    · exact UInt32.lt_trans before (above n held)
  | case3 m rest _ same =>
    obtain ⟨above, tail⟩ := List.pairwise_cons.mp ascending
    exact List.pairwise_cons.mpr ⟨same ▸ above, tail⟩
  | case4 m rest behind other ih =>
    obtain ⟨above, tail⟩ := List.pairwise_cons.mp ascending
    refine List.pairwise_cons.mpr ⟨fun n held => ?_, ih tail⟩
    rcases mem_of_insert held with rfl | held
    · exact (UInt32.lt_or_lt_of_ne other).resolve_left behind
    · exact above n held

theorem ascending_setLoad (ascending : Ascending members) (own load : UInt32) :
    Ascending (members.map fun m => if m.id = own then { m with load := load } else m) := by
  refine List.Pairwise.map _ (fun m n before => ?_) ascending
  split <;> split <;> exact before

theorem find?_of_mem (ascending : Ascending members) {m : ServerInfo} (held : m ∈ members) :
    members.find? (·.id == m.id) = some m := by
  obtain ⟨front, back, rfl⟩ := List.append_of_mem held
  obtain ⟨_, _, across⟩ := List.pairwise_append.mp ascending
  have other := other_of_below fun n held => across n held m List.mem_cons_self
  rw [List.find?_append, find?_of_other other]
  simp

end Cluster

namespace Clusters

/-- Clusters in the order of their types, none of them twice. -/
def Lined (all : List Cluster) : Prop := all.Pairwise (·.type < ·.type)

theorem type_of_insert {info : ServerInfo} {all : List Cluster} {c : Cluster}
    (held : c ∈ insert info all) : c.type = info.type ∨ ∃ d ∈ all, d.type = c.type := by
  induction all with
  | nil => exact .inl (List.mem_singleton.mp held ▸ rfl)
  | cons d rest ih =>
    unfold insert at held
    split at held
    · rcases List.mem_cons.mp held with rfl | held
      · exact .inr ⟨d, List.mem_cons_self, rfl⟩
      · exact .inr ⟨c, List.mem_cons_of_mem d held, rfl⟩
    · split at held
      · rcases List.mem_cons.mp held with rfl | held
        · exact .inl rfl
        · exact .inr ⟨c, held, rfl⟩
      · rcases List.mem_cons.mp held with rfl | held
        · exact .inr ⟨c, List.mem_cons_self, rfl⟩
        · rcases ih held with same | ⟨e, old, same⟩
          · exact .inl same
          · exact .inr ⟨e, List.mem_cons_of_mem d old, same⟩

theorem lined_insert {all : List Cluster} (lined : Lined all) (info : ServerInfo) :
    Lined (insert info all) := by
  induction all with
  | nil => exact List.pairwise_singleton _ _
  | cons d rest ih =>
    obtain ⟨above, tail⟩ := List.pairwise_cons.mp lined
    unfold insert
    split
    · exact List.pairwise_cons.mpr ⟨above, tail⟩
    · rename_i other
      split
      · rename_i before
        refine List.pairwise_cons.mpr ⟨fun c held => ?_, lined⟩
        rcases List.mem_cons.mp held with rfl | held
        · exact before
        · exact String.lt_trans before (above c held)
      · rename_i behind
        have after : d.type < info.type := by
          rcases Std.lt_trichotomy info.type d.type with before | same | after
          · exact absurd before behind
          · exact absurd same other
          · exact after
        refine List.pairwise_cons.mpr ⟨fun c held => ?_, ih tail⟩
        rcases type_of_insert held with same | ⟨e, old, same⟩
        · exact same ▸ after
        · exact same ▸ above e old

theorem find?_insert {all : List Cluster} (lined : Lined all) (info : ServerInfo)
    (type : ServerType) :
    (insert info all).find? (·.type == type) =
      if info.type = type then
        some (((all.find? (·.type == type)).getD (.empty info.type)).upsert info)
      else all.find? (·.type == type) := by
  have past : ∀ {c : Cluster}, c.type ≠ type → (c.type == type) = false :=
    fun other => beq_eq_false_iff_ne.mpr other
  have fresh : ∀ c : Cluster, (c.upsert info).type = c.type := fun _ => rfl
  by_cases own : info.type = type
  · subst own
    rw [if_pos rfl]
    induction all with
    | nil => simp [insert, fresh, Cluster.empty]
    | cons d rest ih =>
      obtain ⟨above, tail⟩ := List.pairwise_cons.mp lined
      unfold insert
      split
      · rename_i same
        simp [fresh, same]
      · rename_i other
        split
        · rename_i before
          have none : rest.find? (·.type == info.type) = none :=
            List.find?_eq_none.mpr fun c held same =>
              String.lt_irrefl _ (String.lt_trans before (eq_of_beq same ▸ above c held))
          simp [fresh, Cluster.empty, Ne.symm other, none]
        · simp only [List.find?_cons, past (Ne.symm other), ih tail]
  · rw [if_neg own]
    induction all with
    | nil => simp [insert, fresh, Cluster.empty, own]
    | cons d rest ih =>
      unfold insert
      split
      · rename_i same
        simp [fresh, ← same, own]
      · split
        · simp [fresh, Cluster.empty, own]
        · rw [List.find?_cons, List.find?_cons, ih (List.pairwise_cons.mp lined).2]

theorem find?_modify_other {cs : Clusters} {type other : ServerType} {f : Cluster → Cluster}
    (kept : ∀ c, (f c).type = c.type) (differ : type ≠ other) :
    (cs.modify type f).find? other = cs.find? other := by
  have same : ((fun c : Cluster => c.type == other) ∘ fun c => if c.type = type then f c else c) =
      fun c : Cluster => c.type == other := by
    funext c
    simp only [Function.comp]
    split
    · rw [kept]
    · rfl
  unfold modify find?
  rw [List.find?_map, same]
  cases found : cs.all.find? (·.type == other) with
  | none => rfl
  | some c =>
    have own : c.type = other := type_of_find? found
    exact congrArg some (if_neg (own ▸ Ne.symm differ))

theorem find?_modify_eq {cs : Clusters} {own type : ServerType} {f : Cluster → Cluster}
    (kept : ∀ c, (f c).type = c.type) :
    (cs.modify own f).find? type =
      if own = type then (cs.find? type).map f else cs.find? type := by
  split
  · rename_i same
    subst same
    exact find?_modify kept
  · rename_i differ
    exact find?_modify_other kept differ

theorem lined_modify {cs : Clusters} {type : ServerType} {f : Cluster → Cluster}
    (kept : ∀ c, (f c).type = c.type) (lined : Lined cs.all) : Lined (cs.modify type f).all := by
  have same : ∀ c : Cluster, (if c.type = type then f c else c).type = c.type := by
    intro c
    split
    · exact kept c
    · rfl
  refine List.Pairwise.map _ (fun c d before => ?_) lined
  rw [same, same]
  exact before

end Clusters

/-- A change of the view that a server asks for. -/
inductive Change where
  | register (info : ServerInfo)
  | unregister (type : ServerType) (id : UInt32)
  | updateLoad (type : ServerType) (id load : UInt32)

namespace Change

def type : Change → ServerType
  | register info => info.type
  | unregister type _ | updateLoad type _ _ => type

def id : Change → UInt32
  | register info => info.id
  | unregister _ id | updateLoad _ id _ => id

/-- What is known of the server afterwards. -/
def next : Change → Option ServerInfo → Option ServerInfo
  | register info, _ => some info
  | unregister _ _, _ => none
  | updateLoad _ _ load, known => known.map ({ · with load := load })

/-- What becomes of the cluster of its type, if there is one. -/
def within : Change → Option Cluster → Option Cluster
  | register info, c => some ((c.getD (.empty info.type)).upsert info)
  | unregister _ id, c => c.map (·.remove id)
  | updateLoad _ id load, c => c.map (·.setLoad id load)

def apply : Change → Clusters → Clusters
  | register info, cs => (cs.register info).1
  | unregister type id, cs => (cs.unregister type id).1
  | updateLoad type id load, cs => (cs.updateLoad type id load).1

end Change

namespace Clusters

/-- A change reaches the cluster of its own type only. -/
theorem find?_apply {cs : Clusters} (lined : Lined cs.all) (change : Change)
    (type : ServerType) :
    (change.apply cs).find? type =
      if change.type = type then change.within (cs.find? type) else cs.find? type := by
  cases change with
  | register info => exact find?_insert lined info type
  | unregister own id => exact find?_modify_eq fun _ => rfl
  | updateLoad own id load => exact find?_modify_eq fun _ => rfl

theorem find?_within (change : Change) (c : Option Cluster) (id : UInt32) :
    (change.within c).bind (·.find? id) =
      if change.id = id then change.next (c.bind (·.find? id)) else c.bind (·.find? id) := by
  cases change with
  | register info =>
    have entered := Cluster.find?_insert info (c.getD (.empty info.type)).members id
    refine entered.trans ?_
    cases c <;> rfl
  | unregister type gone =>
    cases c with
    | none => simp [Change.within, Change.next]
    | some c => exact Cluster.find?_remove c.members gone id
  | updateLoad type own load =>
    cases c with
    | none => simp [Change.within, Change.next]
    | some c => exact Cluster.find?_setLoad c.members own load id

/-- A change is a change of what is known of one server. -/
theorem member?_apply {cs : Clusters} (lined : Lined cs.all) (change : Change)
    (type : ServerType) (id : UInt32) :
    (change.apply cs).member? type id =
      if change.type = type ∧ change.id = id then change.next (cs.member? type id)
      else cs.member? type id := by
  unfold member?
  rw [find?_apply lined]
  by_cases own : change.type = type
  · rw [if_pos own, find?_within]
    simp only [own, true_and]
  · rw [if_neg own, if_neg fun both => own both.1]

/-- Views in which servers are found: clusters and members in their order, members at home. -/
structure Sound (cs : Clusters) : Prop where
  lined : Lined cs.all
  ascending : ∀ c ∈ cs.all, Cluster.Ascending c.members
  typed : cs.Typed

theorem sound_empty : Sound .empty where
  lined := .nil
  ascending _ held := nomatch held
  typed _ held := nomatch held

theorem ascending_of_insert {info : ServerInfo} {all : List Cluster}
    (ascending : ∀ c ∈ all, Cluster.Ascending c.members) :
    ∀ c ∈ insert info all, Cluster.Ascending c.members := by
  have fresh := Cluster.ascending_insert (.nil : Cluster.Ascending []) info
  induction all with
  | nil =>
    intro c held
    cases List.mem_singleton.mp held
    exact fresh
  | cons d rest ih =>
    have front := ascending d List.mem_cons_self
    have behind : ∀ c ∈ rest, Cluster.Ascending c.members :=
      fun c held => ascending c (List.mem_cons_of_mem d held)
    intro c held
    unfold insert at held
    split at held
    · rcases List.mem_cons.mp held with rfl | held
      · exact Cluster.ascending_insert front info
      · exact behind c held
    · split at held
      · rcases List.mem_cons.mp held with rfl | held
        · exact fresh
        · exact ascending c held
      · rcases List.mem_cons.mp held with rfl | held
        · exact front
        · exact ih behind c held

theorem ascending_of_modify {cs : Clusters} {type : ServerType} {f : Cluster → Cluster}
    (kept : ∀ c, Cluster.Ascending c.members → Cluster.Ascending (f c).members)
    (ascending : ∀ c ∈ cs.all, Cluster.Ascending c.members) :
    ∀ c ∈ (cs.modify type f).all, Cluster.Ascending c.members := by
  intro c held
  obtain ⟨d, old, rfl⟩ := List.mem_map.mp held
  split
  · exact kept d (ascending d old)
  · exact ascending d old

theorem Sound.apply {cs : Clusters} (sound : cs.Sound) (change : Change) :
    (change.apply cs).Sound := by
  have typed : (change.apply cs).Typed := by
    refine typed_of_reached sound.typed ?_
    cases change with
    | register info => exact .register .start info
    | unregister type id => exact .unregister .start type id
    | updateLoad type id load => exact .updateLoad .start type id load
  cases change with
  | register info =>
    exact ⟨lined_insert sound.lined info, ascending_of_insert sound.ascending, typed⟩
  | unregister type id =>
    exact ⟨lined_modify (fun _ => rfl) sound.lined,
      ascending_of_modify (fun _ ascending => ascending.filter _) sound.ascending, typed⟩
  | updateLoad type id load =>
    exact ⟨lined_modify (fun _ => rfl) sound.lined,
      ascending_of_modify (fun _ ascending => Cluster.ascending_setLoad ascending id load)
        sound.ascending, typed⟩

/-- The members of a type are the servers that are found under it. -/
theorem Sound.mem_members {cs : Clusters} (sound : cs.Sound) {type : ServerType} {m : ServerInfo} :
    m ∈ cs.members type ↔ cs.member? type m.id = some m := by
  unfold members member?
  cases found : cs.find? type with
  | none => simp
  | some c =>
    have ascending := sound.ascending c (List.mem_of_find?_eq_some found)
    exact ⟨Cluster.find?_of_mem ascending, List.mem_of_find?_eq_some⟩

theorem Sound.own_of_member? {cs : Clusters} (sound : cs.Sound) {type : ServerType} {id : UInt32}
    {m : ServerInfo} (known : cs.member? type id = some m) : m.type = type ∧ m.id = id := by
  obtain ⟨c, found, held⟩ := Option.bind_eq_some_iff.mp known
  refine ⟨sound.typed.type_of_mem found (List.mem_of_find?_eq_some held), ?_⟩
  simpa using List.find?_some held

variable {cs : Clusters}

theorem find?_of_mem (lined : Lined cs.all) {c : Cluster} (held : c ∈ cs.all) :
    cs.find? c.type = some c := by
  obtain ⟨front, back, all⟩ := List.append_of_mem held
  obtain ⟨_, _, across⟩ := List.pairwise_append.mp (all ▸ lined)
  have before : front.find? (·.type == c.type) = none :=
    List.find?_eq_none.mpr fun d early same =>
      String.lt_irrefl _ (eq_of_beq same ▸ across d early c List.mem_cons_self)
  rw [find?, all, List.find?_append, before]
  simp

/-- The servers that stand in a view. -/
def listed (cs : Clusters) : List ServerInfo := cs.all.flatMap (·.members)

theorem Sound.mem_listed (sound : cs.Sound) {m : ServerInfo} :
    m ∈ cs.listed ↔ cs.member? m.type m.id = some m := by
  rw [← sound.mem_members, listed, List.mem_flatMap, members]
  constructor
  · rintro ⟨c, held, inside⟩
    rw [sound.typed c held m inside, find?_of_mem sound.lined held]
    exact inside
  · intro inside
    cases found : cs.find? m.type with
    | none =>
      rw [found] at inside
      cases inside
    | some c =>
      rw [found] at inside
      exact ⟨c, List.mem_of_find?_eq_some found, inside⟩

theorem Sound.listed_apart (sound : cs.Sound) :
    cs.listed.Pairwise fun m n => ¬(m.type = n.type ∧ m.id = n.id) := by
  refine List.pairwise_flatMap.mpr ⟨fun c held => ?_, ?_⟩
  · refine (sound.ascending c held).imp fun {m n} before same => ?_
    exact UInt32.lt_irrefl _ (same.2 ▸ before)
  · refine sound.lined.imp_of_mem fun {c d} one other before m first n second same => ?_
    have type : c.type = d.type :=
      (sound.typed c one m first).symm.trans (same.1.trans (sound.typed d other n second))
    exact String.lt_irrefl _ (type ▸ before)

def registerAll (infos : List ServerInfo) (cs : Clusters) : Clusters :=
  infos.foldl (fun cs info => (cs.register info).1) cs

theorem Sound.registerAll (sound : cs.Sound) (infos : List ServerInfo) :
    (registerAll infos cs).Sound := by
  induction infos generalizing cs with
  | nil => exact sound
  | cons info others ih => exact ih (sound.apply (.register info))

/-- Of the servers registered under one type and id the last one is found. -/
theorem member?_registerAll (sound : cs.Sound) (infos : List ServerInfo) (type : ServerType)
    (id : UInt32) :
    (registerAll infos cs).member? type id =
      (infos.reverse.find? fun i => i.type == type && i.id == id).or (cs.member? type id) := by
  induction infos generalizing cs with
  | nil => rfl
  | cons info others ih =>
    have entered := member?_apply sound.lined (.register info) type id
    refine (ih (sound.apply (.register info))).trans ?_
    rw [entered, List.reverse_cons, List.find?_append, Option.or_assoc, List.find?_singleton]
    congr 1
    by_cases own : info.type = type ∧ info.id = id
    · simp [Change.type, Change.id, Change.next, own]
    · simp [Change.type, Change.id, own]

end Clusters
end ClusterWire
