import ClusterWire.Session

/-! What one operation does to the two views of the session table: the session that
an identity resolves to, and the identities that a session lists. -/
namespace ClusterWire.Sessions

theorem session?_id {t : Sessions} {id : SessionId} {s : Session} (known : t.session? id = some s) :
    s.id = id := by
  simpa using List.find?_some known

/-! Lists of bindings. -/

theorem lookup_filter (bound : List (Int64 × SessionId)) (keeps : Int64 → Bool) (i : Int64) :
    (bound.filter fun b => keeps b.1).lookup i = if keeps i then bound.lookup i else none := by
  induction bound with
  | nil => simp
  | cons b rest ih =>
    obtain ⟨j, id⟩ := b
    by_cases same : i = j
    · subst same
      by_cases kept : keeps i = true
      · simp [kept]
      · simpa [kept] using ih
    · have other : (i == j) = false := by simpa using same
      by_cases kept : keeps j = true
      · simpa [kept, List.lookup_cons, other] using ih
      · simpa [kept, List.lookup_cons, other] using ih

theorem lookup_concat (bound : List (Int64 × SessionId)) (i j : Int64) (id : SessionId) :
    (bound ++ [(i, id)]).lookup j = (bound.lookup j).or (if j = i then some id else none) := by
  rw [List.lookup_append]
  by_cases same : j = i
  · simp [same]
  · have other : (j == i) = false := by simpa using same
    simp [List.lookup_cons, other, same]

/-! Sessions that change one by one. -/

@[simp] theorem resolve_modify (t : Sessions) (id : SessionId) (f : Session → Session) (i : Int64) :
    (t.modify id f).resolve i = t.resolve i := rfl

@[simp] theorem tracked_modify (t : Sessions) (id : SessionId) (f : Session → Session) :
    (t.modify id f).tracked = t.tracked := rfl

theorem identitiesOf_eq {t : Sessions} {id : SessionId} {s : Session}
    (known : t.session? id = some s) : t.identitiesOf id = s.identities := by
  simp [identitiesOf, known]

theorem identitiesOf_none {t : Sessions} {id : SessionId} (unknown : t.session? id = none) :
    t.identitiesOf id = [] := by
  simp [identitiesOf, unknown]

theorem session?_modify_self {t : Sessions} {id : SessionId} {s : Session} {f : Session → Session}
    (keeps : ∀ s, (f s).id = s.id) (known : t.session? id = some s) :
    (t.modify id f).session? id = some (f s) := by
  rw [session?_modify t id id keeps, known, Option.map_some, if_pos (session?_id known)]

theorem identitiesOf_modify_self {t : Sessions} {id : SessionId} {s : Session}
    {f : Session → Session} (keeps : ∀ s, (f s).id = s.id) (known : t.session? id = some s) :
    (t.modify id f).identitiesOf id = (f s).identities :=
  identitiesOf_eq (session?_modify_self keeps known)

theorem session?_modify_other (t : Sessions) {id other : SessionId} {f : Session → Session}
    (keeps : ∀ s, (f s).id = s.id) (differs : other ≠ id) :
    (t.modify id f).session? other = t.session? other := by
  rw [session?_modify t id other keeps]
  cases there : t.session? other with
  | none => rfl
  | some s =>
    have apart : s.id ≠ id := session?_id there ▸ differs
    rw [Option.map_some, if_neg apart]

theorem identitiesOf_modify_other (t : Sessions) {id other : SessionId} {f : Session → Session}
    (keeps : ∀ s, (f s).id = s.id) (differs : other ≠ id) :
    (t.modify id f).identitiesOf other = t.identitiesOf other := by
  rw [identitiesOf, identitiesOf, session?_modify_other t keeps differs]

/-- The sessions of the table, in the order in which they were opened. -/
def ids (t : Sessions) : List SessionId := t.all.map (·.id)

theorem ids_modify (t : Sessions) (id : SessionId) {f : Session → Session}
    (keeps : ∀ s, (f s).id = s.id) : (t.modify id f).ids = t.ids := by
  rw [ids, modify, List.map_map]
  refine List.map_congr_left fun s _ => ?_
  by_cases same : s.id = id <;> simp [same, keeps]

theorem isSome_session?_modify (t : Sessions) (id other : SessionId) {f : Session → Session}
    (keeps : ∀ s, (f s).id = s.id) :
    ((t.modify id f).session? other).isSome = (t.session? other).isSome := by
  rw [session?_modify t id other keeps, Option.isSome_map]

/-! Messages for a session. -/

theorem session?_send {t : Sessions} {id : SessionId} {s : Session} {m : Message}
    (known : t.session? id = some s) (accepts : s.accepts = true) :
    (t.send id m).1.session? id = some { s with queue := s.queue ++ [m] } := by
  rw [send, session?_modify_self (fun s => s.id_send m) known, Session.send, if_pos accepts]

theorem session?_send_other (t : Sessions) {id other : SessionId} (differs : other ≠ id)
    (m : Message) : (t.send id m).1.session? other = t.session? other :=
  session?_modify_other t (fun s => s.id_send m) differs

/-! Taking an identity off the session that it is bound to. -/

theorem resolve_unbind (t : Sessions) (i j : Int64) :
    (t.unbind i).resolve j = if j = i then none else t.resolve j := by
  rw [resolve, unbind, lookup_filter t.bound (· != i)]
  by_cases same : j = i <;> simp [same, resolve]

/-- The table with an identity gone from the list of another session. -/
def movedOff (t : Sessions) (i : Int64) (id : SessionId) : Sessions :=
  match t.resolve i with
  | some previous => if previous = id then t else t.modify previous (·.removeIdentity i)
  | none => t

theorem bind_of_pos (t : Sessions) {i : Int64} (positive : 0 < i) (id : SessionId) :
    t.bind i id =
      ({ (t.movedOff i id).unbind i with
          bound := ((t.movedOff i id).unbind i).bound ++ [(i, id)] }.modify id (·.addIdentity i),
        true) := by
  rw [bind, if_neg (by simpa using positive)]
  rfl

theorem bind_of_not_pos (t : Sessions) {i : Int64} (small : ¬ 0 < i) (id : SessionId) :
    t.bind i id = (t, false) := by
  rw [bind, if_pos (by simpa using small)]

theorem bound_movedOff (t : Sessions) (i : Int64) (id : SessionId) :
    (t.movedOff i id).bound = t.bound := by
  unfold movedOff
  split
  · split <;> rfl
  · rfl

theorem tracked_bind (t : Sessions) (i : Int64) (id : SessionId) :
    (t.bind i id).1.tracked = t.tracked := by
  by_cases positive : 0 < i
  · rw [bind_of_pos t positive]
    change (t.movedOff i id).tracked = t.tracked
    unfold movedOff
    split
    · split <;> rfl
    · rfl
  · rw [bind_of_not_pos t positive]

theorem resolve_bind (t : Sessions) {i : Int64} (positive : 0 < i) (id : SessionId) (j : Int64) :
    (t.bind i id).1.resolve j = if j = i then some id else t.resolve j := by
  have unbound := resolve_unbind (t.movedOff i id) i j
  rw [resolve, resolve, bound_movedOff] at unbound
  rw [bind_of_pos t positive, resolve_modify, resolve, lookup_concat, unbound]
  by_cases same : j = i <;> simp [same, resolve]

theorem ids_movedOff (t : Sessions) (i : Int64) (id : SessionId) :
    (t.movedOff i id).ids = t.ids := by
  unfold movedOff
  split
  · split
    · rfl
    · exact ids_modify t _ fun _ => rfl
  · rfl

theorem ids_bind (t : Sessions) (i : Int64) (id : SessionId) : (t.bind i id).1.ids = t.ids := by
  by_cases positive : 0 < i
  · rw [bind_of_pos t positive]
    refine (ids_modify _ id fun s => s.id_addIdentity i).trans ?_
    exact ids_movedOff t i id
  · rw [bind_of_not_pos t positive]

theorem isSome_session?_movedOff (t : Sessions) (i : Int64) (id other : SessionId) :
    ((t.movedOff i id).session? other).isSome = (t.session? other).isSome := by
  unfold movedOff
  split
  · split
    · rfl
    · exact isSome_session?_modify t _ other fun _ => rfl
  · rfl

/-! Release, teardown and opening. -/

theorem release_of_bound {t : Sessions} {i : Int64} {id : SessionId}
    (bound : t.resolve i = some id) :
    t.release i id = ((t.unbind i).modify id (·.removeIdentity i), true) := by
  rw [release, if_pos bound]

theorem release_of_stale {t : Sessions} {i : Int64} {id : SessionId}
    (stale : t.resolve i ≠ some id) : t.release i id = (t, false) := by
  rw [release, if_neg stale]

theorem tracked_release (t : Sessions) (i : Int64) (id : SessionId) :
    (t.release i id).1.tracked = t.tracked := by
  unfold release
  split <;> rfl

theorem ids_release (t : Sessions) (i : Int64) (id : SessionId) :
    (t.release i id).1.ids = t.ids := by
  unfold release
  split
  · exact ids_modify (t.unbind i) id fun _ => rfl
  · rfl

/-- The identities that a session lists and that resolve to it. -/
def releasedBy (t : Sessions) (id : SessionId) : List Int64 :=
  (t.identitiesOf id).filter fun i => t.resolve i == some id

def forget (t : Sessions) (id : SessionId) : Sessions :=
  { t with tracked := t.tracked.filter (· != id)
           bound := t.bound.filter fun b => !(t.releasedBy id).contains b.1 }

def retired (s : Session) : Session := { s with identities := [], closed := true }

theorem disconnect_eq (t : Sessions) (id : SessionId) :
    t.disconnect id = ((t.forget id).modify id retired, t.releasedBy id) := rfl

@[simp] theorem session?_forget (t : Sessions) (id other : SessionId) :
    (t.forget id).session? other = t.session? other := rfl

theorem resolve_disconnect (t : Sessions) (id : SessionId) (i : Int64) :
    (t.disconnect id).1.resolve i = if i ∈ t.releasedBy id then none else t.resolve i := by
  rw [disconnect_eq, resolve_modify, resolve, forget, lookup_filter t.bound (!(t.releasedBy id).contains ·)]
  by_cases gone : i ∈ t.releasedBy id <;> simp [gone, resolve]

theorem ids_disconnect (t : Sessions) (id : SessionId) : (t.disconnect id).1.ids = t.ids :=
  ids_modify (t.forget id) id (f := retired) fun _ => rfl

theorem tracked_disconnect (t : Sessions) (id : SessionId) :
    (t.disconnect id).1.tracked = t.tracked.filter (· != id) := rfl

def newcomer (t : Sessions) : SessionId := ⟨t.all.length + 1⟩

theorem session?_create (t : Sessions) (remote : SocketAddress) (family : Family) (type : UInt8)
    (id : SessionId) :
    (t.create remote family type).1.session? id = (t.session? id).or
      (if id = t.newcomer then some ⟨t.newcomer, remote, family, type, [], false, true, []⟩
        else none) := by
  simp only [create, session?, List.find?_append, newcomer]
  by_cases same : id = ⟨t.all.length + 1⟩
  · simp [same]
  · have other : ((⟨t.all.length + 1⟩ : SessionId) == id) = false := by
      simpa using fun h => same h.symm
    simp [other, same]

theorem ids_create (t : Sessions) (remote : SocketAddress) (family : Family) (type : UInt8) :
    (t.create remote family type).1.ids = t.ids ++ [t.newcomer] := by
  simp [create, ids, newcomer]

theorem mem_ids {t : Sessions} {id : SessionId} {s : Session} (known : t.session? id = some s) :
    id ∈ t.ids :=
  List.mem_map.mpr ⟨s, List.mem_of_find?_eq_some known, session?_id known⟩

@[simp] theorem resolve_create (t : Sessions) (remote : SocketAddress) (family : Family)
    (type : UInt8) (i : Int64) : (t.create remote family type).1.resolve i = t.resolve i := rfl

theorem identitiesOf_create (t : Sessions) (remote : SocketAddress) (family : Family)
    (type : UInt8) (id : SessionId) :
    (t.create remote family type).1.identitiesOf id = t.identitiesOf id := by
  rw [identitiesOf, identitiesOf, session?_create]
  cases t.session? id with
  | some s => rfl
  | none =>
    by_cases same : id = t.newcomer <;> simp [same]

end ClusterWire.Sessions
