import ClusterWire.Cluster

/-! Members looked up by halving. While the ids of the members grow strictly, halving finds
the place of an id, and what is then done at that place is what the cluster does. -/
namespace ClusterWire.Cluster

/-- Members in the order of their ids, none of them twice. -/
def Ascending (members : List ServerInfo) : Prop := members.Pairwise (·.id < ·.id)

/-- Halves the window of `size` members from `base` on until one is left. -/
def narrow (id : UInt32) (members : List ServerInfo) (base size : Nat) : Nat :=
  if size ≤ 1 then base
  else if members[base + size / 2]?.any (id < ·.id) then narrow id members base (size - size / 2)
  else narrow id members (base + size / 2) (size - size / 2)
termination_by size

/-- The index of an id, or else the one where it belongs. -/
def search (id : UInt32) (members : List ServerInfo) : Except Nat Nat :=
  let base := narrow id members 0 members.length
  match members[base]? with
  | none => .error base
  | some m =>
    if m.id = id then .ok base
    else if m.id < id then .error (base + 1)
    else .error base

def pick (id : UInt32) (members : List ServerInfo) : Option ServerInfo :=
  match search id members with
  | .ok i => members[i]?
  | .error _ => none

def place (info : ServerInfo) (members : List ServerInfo) : List ServerInfo :=
  match search info.id members with
  | .ok i => members.set i info
  | .error i => members.insertIdx i info

def pull (id : UInt32) (members : List ServerInfo) : List ServerInfo :=
  match search id members with
  | .ok i => members.eraseIdx i
  | .error _ => members

def refresh (id load : UInt32) (members : List ServerInfo) : List ServerInfo :=
  match search id members with
  | .ok i => members.modify i fun m => { m with load := load }
  | .error _ => members

/-- All members behind the window have greater ids, and the first one inside has no greater
id unless the window starts with all members. -/
structure Window (id : UInt32) (members : List ServerInfo) (base size : Nat) : Prop where
  inside : base + size ≤ members.length
  low : base = 0 ∨ ∀ m, members[base]? = some m → m.id ≤ id
  high : ∀ j m, base + size ≤ j → members[j]? = some m → id < m.id

theorem Ascending.lt {members : List ServerInfo} (ascending : Ascending members) {i j : Nat}
    {m n : ServerInfo} (before : i < j) (one : members[i]? = some m) (other : members[j]? = some n) :
    m.id < n.id := by
  obtain ⟨inside, rfl⟩ := List.getElem?_eq_some_iff.mp one
  obtain ⟨further, rfl⟩ := List.getElem?_eq_some_iff.mp other
  exact List.pairwise_iff_getElem.mp ascending i j inside further before

theorem window_narrow {id : UInt32} {members : List ServerInfo} (ascending : Ascending members)
    {base size : Nat} (some : 0 < size) (window : Window id members base size) :
    Window id members (narrow id members base size) 1 := by
  have fits := window.inside
  fun_induction narrow id members base size with
  | case1 base size small =>
    have one : size = 1 := by omega
    exact one ▸ window
  | case2 base size large beyond ih =>
    obtain ⟨n, here, far⟩ := (Option.any_eq_true _ _).mp beyond
    refine ih (by omega) ⟨by omega, window.low, fun j m behind found => ?_⟩ (by omega)
    rcases Nat.lt_or_ge (base + size / 2) j with further | nearer
    · exact UInt32.lt_trans (of_decide_eq_true far) (ascending.lt further here found)
    · have same : j = base + size / 2 := by omega
      rw [same, here] at found
      cases found
      exact of_decide_eq_true far
  | case3 base size large near ih =>
    refine ih (by omega) ⟨by omega, .inr fun m found => ?_,
      fun j m behind found => window.high j m (by omega) found⟩ (by omega)
    refine UInt32.not_lt.mp fun far => near ?_
    simp [found, far]

/-- Halving stops at the last member whose id is not greater, or at the first member. -/
theorem narrow_splits {members : List ServerInfo} (ascending : Ascending members)
    (some : members ≠ []) (id : UInt32) :
    ∃ front m back, members = front ++ m :: back ∧
      narrow id members 0 members.length = front.length ∧
      (front = [] ∨ m.id ≤ id) ∧ ∀ n ∈ back, id < n.id := by
  have whole : Window id members 0 members.length :=
    ⟨Nat.le_of_eq (Nat.zero_add _), .inl rfl, fun j m behind found => by
      have inside := (List.getElem?_eq_some_iff.mp found).1
      omega⟩
  have window := window_narrow ascending (List.length_pos_iff.mpr some) whole
  generalize narrow id members 0 members.length = base at window
  have inside : base < members.length := window.inside
  refine ⟨members.take base, members[base], members.drop (base + 1), ?_, ?_, ?_, ?_⟩
  · rw [List.getElem_cons_drop, List.take_append_drop]
  · exact (List.length_take_of_le (Nat.le_of_lt inside)).symm
  · refine window.low.imp (fun start => ?_) fun low => low _ (List.getElem?_eq_getElem inside)
    rw [start, List.take_zero]
  · intro n held
    obtain ⟨k, found⟩ := List.getElem?_of_mem held
    rw [List.getElem?_drop] at found
    exact window.high _ n (Nat.le_add_right _ k) found

/-- Where a search ends among members. -/
inductive Located (id : UInt32) : List ServerInfo → Except Nat Nat → Prop where
  | found (front : List ServerInfo) (m : ServerInfo) (back : List ServerInfo) (own : m.id = id)
      (below : ∀ n ∈ front, n.id < id) (above : ∀ n ∈ back, id < n.id) :
      Located id (front ++ m :: back) (.ok front.length)
  | missing (front back : List ServerInfo) (below : ∀ n ∈ front, n.id < id)
      (above : ∀ n ∈ back, id < n.id) : Located id (front ++ back) (.error front.length)

theorem search_located {members : List ServerInfo} (ascending : Ascending members) (id : UInt32) :
    Located id members (search id members) := by
  by_cases none : members = []
  · subst none
    have stop : narrow id [] 0 0 = 0 := by
      rw [narrow, if_pos (Nat.zero_le 1)]
    simp only [search, List.getElem?_nil, List.length_nil, stop]
    exact .missing [] [] (by simp) (by simp)
  · obtain ⟨front, m, back, rfl, stop, low, above⟩ := narrow_splits ascending none id
    obtain ⟨_, behind, across⟩ := List.pairwise_append.mp ascending
    have below : ∀ n ∈ front, n.id < m.id := fun n held => across n held m List.mem_cons_self
    have here : (front ++ m :: back)[front.length]? = some m := by simp
    simp only [search, stop, here]
    by_cases own : m.id = id
    · rw [if_pos own]
      exact .found front m back own (own ▸ below) above
    · rw [if_neg own]
      by_cases under : m.id < id
      · rw [if_pos under]
        have further : ∀ n ∈ front ++ [m], n.id < id := by
          intro n held
          rcases List.mem_append.mp held with held | held
          · exact UInt32.lt_trans (below n held) under
          · exact List.mem_singleton.mp held ▸ under
        have located := Located.missing (front ++ [m]) back further above
        rwa [List.append_assoc, List.length_append] at located
      · rw [if_neg under]
        have greater : id < m.id := by
          rcases UInt32.lt_or_lt_of_ne own with less | more
          · exact absurd less under
          · exact more
        have start : front = [] := low.resolve_right fun le => UInt32.not_le.mpr greater le
        subst start
        refine .missing [] (m :: back) (by simp) fun n held => ?_
        rcases List.mem_cons.mp held with rfl | held
        · exact greater
        · exact above n held

/-! The members around a place. -/

section around

variable {info m : ServerInfo} {id : UInt32} {front back members : List ServerInfo}

theorem insert_append (below : ∀ n ∈ front, n.id < info.id) (rest : List ServerInfo) :
    insert info (front ++ rest) = front ++ insert info rest := by
  induction front with
  | nil => rfl
  | cons n front ih =>
    have under := below n List.mem_cons_self
    rw [List.cons_append, insert, if_neg (UInt32.lt_asymm under),
      if_neg (UInt32.ne_of_lt under).symm, ih fun m held => below m (List.mem_cons_of_mem n held)]
    rfl

theorem insert_above (above : ∀ n ∈ back, info.id < n.id) : insert info back = info :: back := by
  cases back with
  | nil => rfl
  | cons n back => rw [insert, if_pos (above n List.mem_cons_self)]

theorem insert_own (own : m.id = info.id) (back : List ServerInfo) :
    insert info (m :: back) = info :: back := by
  rw [insert, if_neg (own ▸ UInt32.lt_irrefl _), if_pos own.symm]

theorem insertIdx_length (front back : List ServerInfo) (info : ServerInfo) :
    (front ++ back).insertIdx front.length info = front ++ info :: back := by
  induction front with
  | nil => simp
  | cons n front ih => simp [ih]

theorem modify_length (front back : List ServerInfo) (m : ServerInfo) (f : ServerInfo → ServerInfo) :
    (front ++ m :: back).modify front.length f = front ++ f m :: back := by
  induction front with
  | nil => simp
  | cons n front ih => simp [ih]

theorem other_of_below (below : ∀ n ∈ front, n.id < id) : ∀ n ∈ front, n.id ≠ id :=
  fun n held => UInt32.ne_of_lt (below n held)

theorem other_of_above (above : ∀ n ∈ back, id < n.id) : ∀ n ∈ back, n.id ≠ id :=
  fun n held => (UInt32.ne_of_lt (above n held)).symm

theorem find?_of_other (other : ∀ n ∈ members, n.id ≠ id) : members.find? (·.id == id) = none :=
  List.find?_eq_none.mpr fun n held same => other n held (eq_of_beq same)

theorem filter_of_other (other : ∀ n ∈ members, n.id ≠ id) :
    members.filter (·.id != id) = members :=
  List.filter_eq_self.mpr fun n held => bne_iff_ne.mpr (other n held)

theorem map_of_other (other : ∀ n ∈ members, n.id ≠ id) (f : ServerInfo → ServerInfo) :
    (members.map fun n => if n.id = id then f n else n) = members := by
  conv => rhs; rw [← List.map_id members]
  exact List.map_congr_left fun n held => if_neg (other n held)

end around

/-! What is done at the place of an id. -/

variable {members : List ServerInfo}

theorem pick_eq_find? (ascending : Ascending members) (id : UInt32) :
    pick id members = members.find? (·.id == id) := by
  have located := search_located ascending id
  unfold pick
  generalize search id members = spot at located
  cases located with
  | found front m back own below above =>
    simp [find?_of_other (other_of_below below), own]
  | missing front back below above =>
    simp [find?_of_other (other_of_below below), find?_of_other (other_of_above above)]

theorem place_eq_insert (ascending : Ascending members) (info : ServerInfo) :
    place info members = insert info members := by
  have located := search_located ascending info.id
  unfold place
  generalize search info.id members = spot at located
  cases located with
  | found front m back own below above =>
    rw [insert_append below, insert_own own]
    simp
  | missing front back below above =>
    rw [insert_append below, insert_above above]
    exact insertIdx_length front back info

theorem pull_eq_filter (ascending : Ascending members) (id : UInt32) :
    pull id members = members.filter (·.id != id) := by
  have located := search_located ascending id
  unfold pull
  generalize search id members = spot at located
  cases located with
  | found front m back own below above =>
    simp [filter_of_other (other_of_below below), filter_of_other (other_of_above above), own,
      List.eraseIdx_append_of_length_le]
  | missing front back below above =>
    simp [filter_of_other (other_of_below below), filter_of_other (other_of_above above)]

theorem refresh_eq_map (ascending : Ascending members) (id load : UInt32) :
    refresh id load members =
      members.map fun m => if m.id = id then { m with load := load } else m := by
  have located := search_located ascending id
  unfold refresh
  generalize search id members = spot at located
  cases located with
  | found front m back own below above =>
    rw [List.map_append, List.map_cons, map_of_other (other_of_below below),
      map_of_other (other_of_above above), if_pos own]
    exact modify_length front back m _
  | missing front back below above =>
    rw [List.map_append, map_of_other (other_of_below below), map_of_other (other_of_above above)]

end ClusterWire.Cluster
