import ClusterWire.Proofs.Session.Views

/-! Bindings are kept twice: in the table, which gives one session for an identity, and
with each session, which lists its identities. The two sides agree after any run, and a
session lists its identities in the order in which they became bound to it. -/
namespace ClusterWire

/-- What happens to a session table. `alter` is whatever else befalls a session. -/
inductive SessionEvent where
  | create (remote : SocketAddress) (family : Family) (type : UInt8)
  | bind (identity : Int64) (id : SessionId)
  | release (identity : Int64) (id : SessionId)
  | disconnect (id : SessionId)
  | alter (id : SessionId) (change : Session → Session)

namespace Sessions

/-- Leaves a session who it is, of which family, and whose. -/
structure Harmless (change : Session → Session) : Prop where
  id : ∀ s, (change s).id = s.id
  family : ∀ s, (change s).family = s.family
  identities : ∀ s, (change s).identities = s.identities

def step (t : Sessions) : SessionEvent → Sessions
  | .create remote family type => (t.create remote family type).1
  | .bind i id => (t.bind i id).1
  | .release i id => (t.release i id).1
  | .disconnect id => (t.disconnect id).1
  | .alter id change => t.modify id change

/-- Identities are bound to sessions of the table, open or closed, and such sessions are torn
down. -/
def Admits (t : Sessions) : SessionEvent → Prop
  | .bind _ id | .disconnect id => (t.session? id).isSome
  | .alter _ change => Harmless change
  | _ => True

def after (events : List SessionEvent) : Sessions := events.foldl step empty

/-- Whatever may happen to a table from the start on. -/
inductive Run : List SessionEvent → Sessions → Prop where
  | start : Run [] empty
  | step {past : List SessionEvent} {t : Sessions} (event : SessionEvent) :
      Run past t → t.Admits event → Run (past ++ [event]) (t.step event)

theorem after_concat (past : List SessionEvent) (event : SessionEvent) :
    after (past ++ [event]) = (after past).step event := by
  simp [after]

theorem after_of_run {events : List SessionEvent} {t : Sessions} (run : Run events t) :
    after events = t := by
  induction run with
  | start => rfl
  | step event _ _ ih => rw [after_concat, ih]

/-- A relation of a session to what becomes of it, to which binding, release and teardown keep. -/
structure Lasts (related : Session → Session → Prop) : Prop where
  refl : ∀ s, related s s
  trans : ∀ s u v, related s u → related u v → related s v
  adds : ∀ s i, related s (s.addIdentity i)
  removes : ∀ s i, related s (s.removeIdentity i)
  retires : ∀ s, related s (retired s)

section

variable {related : Session → Session → Prop} (lasts : Lasts related) {t : Sessions}
  {own : SessionId} {s : Session} (known : t.session? own = some s)
include lasts known

theorem related_modify (id : SessionId) {f : Session → Session} (keeps : ∀ s, (f s).id = s.id)
    (mild : id = own → ∀ s, related s (f s)) :
    ∃ u, (t.modify id f).session? own = some u ∧ related s u := by
  by_cases same : id = own
  · exact ⟨f s, same ▸ session?_modify_self keeps (same ▸ known), mild same s⟩
  · exact ⟨s, (session?_modify_other t keeps (Ne.symm same)).trans known, lasts.refl s⟩

theorem related_movedOff (i : Int64) (id : SessionId) :
    ∃ u, (t.movedOff i id).session? own = some u ∧ related s u := by
  unfold movedOff
  split
  · split
    · exact ⟨s, known, lasts.refl s⟩
    · exact related_modify lasts known _ (fun _ => rfl) fun _ s => lasts.removes s i
  · exact ⟨s, known, lasts.refl s⟩

/-- What becomes of a session in one event. -/
theorem related_step (event : SessionEvent) (alters : ∀ id change, event = .alter id change →
      (∀ s, (change s).id = s.id) ∧ (id = own → ∀ s, related s (change s))) :
    ∃ u, (t.step event).session? own = some u ∧ related s u := by
  cases event with
  | create remote family type =>
    refine ⟨s, ?_, lasts.refl s⟩
    rw [step, session?_create, known]
    rfl
  | bind i id =>
    rw [step]
    by_cases positive : 0 < i
    · rw [bind_of_pos t positive]
      obtain ⟨u, moved, first⟩ := related_movedOff lasts known i id
      obtain ⟨v, added, second⟩ := related_modify lasts (t := { (t.movedOff i id).unbind i with
          bound := ((t.movedOff i id).unbind i).bound ++ [(i, id)] }) moved id
        (fun s => s.id_addIdentity i) fun _ s => lasts.adds s i
      exact ⟨v, added, lasts.trans s u v first second⟩
    · rw [bind_of_not_pos t positive]
      exact ⟨s, known, lasts.refl s⟩
  | release i id =>
    rw [step, release]
    split
    · exact related_modify lasts (t := t.unbind i) known id (fun _ => rfl) fun _ s =>
        lasts.removes s i
    · exact ⟨s, known, lasts.refl s⟩
  | disconnect id =>
    exact related_modify lasts (t := t.forget id) known id (f := retired) (fun _ => rfl)
      fun _ s => lasts.retires s
  | alter id change =>
    obtain ⟨keeps, mild⟩ := alters id change rfl
    exact related_modify lasts known id keeps mild

end

structure Consistent (t : Sessions) : Prop where
  numbered : ∀ id ∈ t.ids, id.number ≤ t.ids.length
  agree : ∀ i id, t.resolve i = some id ↔ i ∈ t.identitiesOf id
  nodup : ∀ id, (t.identitiesOf id).Nodup
  positive : ∀ id, ∀ i ∈ t.identitiesOf id, 0 < i

theorem consistent_empty : Consistent empty where
  numbered := by simp [empty, ids]
  agree i id := by simp [empty, resolve, identitiesOf, session?]
  nodup id := by simp [empty, identitiesOf, session?]
  positive id i held := by simp [empty, identitiesOf, session?] at held

theorem session_of_mem {t : Sessions} {id : SessionId} {i : Int64}
    (held : i ∈ t.identitiesOf id) : ∃ s, t.session? id = some s := by
  cases known : t.session? id with
  | some s => exact ⟨s, rfl⟩
  | none =>
    rw [identitiesOf_none known] at held
    cases held

/-- What binding does: the identity goes to the end of the session's list, unless it is
there already, and off every other list. -/
structure Binds (t : Sessions) (i : Int64) (id : SessionId) (u : Sessions) : Prop where
  resolve : ∀ j, u.resolve j = if j = i then some id else t.resolve j
  here : u.identitiesOf id =
    if i ∈ t.identitiesOf id then t.identitiesOf id else t.identitiesOf id ++ [i]
  elsewhere : ∀ other, other ≠ id → u.identitiesOf other = (t.identitiesOf other).filter (· != i)

/-- What a release does that is not stale. -/
structure Releases (t : Sessions) (i : Int64) (id : SessionId) (u : Sessions) : Prop where
  resolve : ∀ j, u.resolve j = if j = i then none else t.resolve j
  here : u.identitiesOf id = (t.identitiesOf id).filter (· != i)
  elsewhere : ∀ other, other ≠ id → u.identitiesOf other = t.identitiesOf other

/-- What teardown does. -/
structure Clears (t : Sessions) (id : SessionId) (u : Sessions) : Prop where
  resolve : ∀ j, u.resolve j = if t.resolve j = some id then none else t.resolve j
  here : u.identitiesOf id = []
  elsewhere : ∀ other, other ≠ id → u.identitiesOf other = t.identitiesOf other

namespace Consistent

variable {t : Sessions}

theorem only (consistent : Consistent t) {i : Int64} {id other : SessionId}
    (held : i ∈ t.identitiesOf id) (also : i ∈ t.identitiesOf other) : id = other := by
  have here := (consistent.agree i id).mpr held
  rw [(consistent.agree i other).mpr also] at here
  exact (Option.some.inj here).symm

/-- An identity that does not resolve to a session is not on its list. -/
theorem filter_eq_self (consistent : Consistent t) {i : Int64} {id : SessionId}
    (other : t.resolve i ≠ some id) :
    (t.identitiesOf id).filter (· != i) = t.identitiesOf id := by
  rw [List.filter_eq_self]
  intro j held
  have differs : j ≠ i := by
    rintro rfl
    exact other ((consistent.agree j id).mpr held)
  simpa using differs

theorem identitiesOf_movedOff (consistent : Consistent t) (i : Int64) (id other : SessionId) :
    (t.movedOff i id).identitiesOf other =
      if other = id then t.identitiesOf id else (t.identitiesOf other).filter (· != i) := by
  unfold movedOff
  split
  · rename_i previous bound
    have elsewhere : ∀ other, other ≠ previous →
        (t.identitiesOf other).filter (· != i) = t.identitiesOf other := by
      intro other differs
      refine consistent.filter_eq_self fun here => differs ?_
      rw [bound] at here
      exact (Option.some.inj here).symm
    by_cases same : previous = id
    · rw [if_pos same]
      by_cases own : other = id
      · rw [if_pos own, own]
      · rw [if_neg own, elsewhere other (same ▸ own)]
    · rw [if_neg same]
      by_cases source : other = previous
      · obtain ⟨s, known⟩ := session_of_mem ((consistent.agree i previous).mp bound)
        subst source
        rw [if_neg same, identitiesOf_eq known]
        exact identitiesOf_modify_self (fun _ => rfl) known
      · refine (identitiesOf_modify_other t (f := (·.removeIdentity i)) (fun _ => rfl) source).trans ?_
        by_cases own : other = id
        · rw [if_pos own, own]
        · rw [if_neg own, elsewhere other source]
  · rename_i free
    have stays : (t.identitiesOf other).filter (· != i) = t.identitiesOf other := by
      refine consistent.filter_eq_self fun here => ?_
      rw [free] at here
      cases here
    by_cases own : other = id
    · rw [if_pos own, own]
    · rw [if_neg own, stays]

theorem binds (consistent : Consistent t) {i : Int64} (positive : 0 < i) {id : SessionId}
    (known : (t.session? id).isSome) : Binds t i id (t.bind i id).1 := by
  have moved := consistent.identitiesOf_movedOff i id
  have keeps : ∀ s : Session, (s.addIdentity i).id = s.id := fun s => s.id_addIdentity i
  have there : ((t.movedOff i id).session? id).isSome := by
    rw [isSome_session?_movedOff]
    exact known
  obtain ⟨s, entry⟩ := Option.isSome_iff_exists.mp there
  have own : s.identities = t.identitiesOf id := by
    have list := moved id
    rwa [if_pos rfl, identitiesOf_eq entry] at list
  rw [bind_of_pos t positive]
  exact {
    resolve := by
      have resolves := resolve_bind t positive id
      rwa [bind_of_pos t positive] at resolves
    here := by
      refine (identitiesOf_modify_self keeps entry).trans ?_
      rw [← own]
      unfold Session.addIdentity
      split <;> rfl
    elsewhere := fun other differs => by
      refine (identitiesOf_modify_other _ keeps differs).trans ?_
      exact (moved other).trans (if_neg differs) }

theorem releases (consistent : Consistent t) {i : Int64} {id : SessionId}
    (bound : t.resolve i = some id) : Releases t i id (t.release i id).1 := by
  obtain ⟨s, known⟩ := session_of_mem ((consistent.agree i id).mp bound)
  rw [release_of_bound bound]
  exact {
    resolve := resolve_unbind t i
    here := by
      rw [identitiesOf_eq known]
      exact identitiesOf_modify_self (t := t.unbind i) (fun _ => rfl) known
    elsewhere := fun other differs => identitiesOf_modify_other _ (fun _ => rfl) differs }

/-- All that a session lists is still bound to it. -/
theorem releasedBy_eq (consistent : Consistent t) (id : SessionId) :
    t.releasedBy id = t.identitiesOf id := by
  rw [releasedBy, List.filter_eq_self]
  intro i held
  simpa using (consistent.agree i id).mpr held

theorem clears (consistent : Consistent t) (id : SessionId) :
    Clears t id (t.disconnect id).1 where
  resolve j := by
    rw [resolve_disconnect, consistent.releasedBy_eq]
    simp only [consistent.agree]
  here := by
    rw [disconnect_eq]
    cases known : t.session? id with
    | some s => exact identitiesOf_modify_self (t := t.forget id) (f := retired) (fun _ => rfl) known
    | none =>
      refine identitiesOf_none ?_
      rw [session?_modify (t.forget id) id id (f := retired) fun _ => rfl, session?_forget, known]
      rfl
  elsewhere other differs := by
    rw [disconnect_eq]
    exact identitiesOf_modify_other (t.forget id) (f := retired) (fun _ => rfl) differs

/-- The next number is free. -/
theorem newcomer_unknown (consistent : Consistent t) : t.session? t.newcomer = none := by
  cases known : t.session? t.newcomer with
  | none => rfl
  | some s =>
    have bounded := consistent.numbered _ (mem_ids known)
    simp only [newcomer, ids, List.length_map] at bounded
    omega

end Consistent

theorem identitiesOf_alter (t : Sessions) {id : SessionId} {change : Session → Session}
    (harmless : Harmless change) (other : SessionId) :
    (t.modify id change).identitiesOf other = t.identitiesOf other := by
  rw [identitiesOf, identitiesOf, session?_modify t id other harmless.id, Option.map_map]
  congr 2
  funext s
  by_cases same : s.id = id <;> simp [same, harmless.identities]

theorem Consistent.of_views {t u : Sessions} (consistent : Consistent t) (ids : u.ids = t.ids)
    (resolve : ∀ i, u.resolve i = t.resolve i)
    (list : ∀ id, u.identitiesOf id = t.identitiesOf id) : Consistent u where
  numbered := ids ▸ consistent.numbered
  agree i id := by rw [resolve, list, consistent.agree]
  nodup id := list id ▸ consistent.nodup id
  positive id := list id ▸ consistent.positive id

theorem Binds.consistent {t u : Sessions} {i : Int64} {id : SessionId} (before : Consistent t)
    (ids : u.ids = t.ids) (positive : 0 < i) (binds : Binds t i id u) : Consistent u := by
  have mem : ∀ j other, j ∈ u.identitiesOf other ↔
      (j = i ∧ other = id) ∨ (j ≠ i ∧ j ∈ t.identitiesOf other) := by
    intro j other
    by_cases own : other = id
    · subst own
      rw [binds.here]
      by_cases same : j = i <;> by_cases held : i ∈ t.identitiesOf other <;> simp [same, held]
    · rw [binds.elsewhere other own]
      by_cases same : j = i <;> simp [same, own]
  refine ⟨ids ▸ before.numbered, fun j other => ?_, fun other => ?_, fun other j held => ?_⟩
  · rw [binds.resolve, mem]
    by_cases same : j = i
    · simp [same, eq_comm]
    · simp [same, before.agree]
  · by_cases own : other = id
    · subst own
      rw [binds.here]
      split
      · exact before.nodup other
      · rename_i free
        refine List.nodup_append.mpr ⟨before.nodup other, by simp, fun j held k new => ?_⟩
        rw [List.mem_singleton.mp new]
        exact fun same => free (same ▸ held)
    · rw [binds.elsewhere other own]
      exact (before.nodup other).filter _
  · rcases (mem j other).mp held with ⟨rfl, -⟩ | ⟨-, held⟩
    · exact positive
    · exact before.positive other j held

theorem Releases.consistent {t u : Sessions} {i : Int64} {id : SessionId} (before : Consistent t)
    (ids : u.ids = t.ids) (bound : t.resolve i = some id) (releases : Releases t i id u) :
    Consistent u := by
  have list : ∀ other, u.identitiesOf other = (t.identitiesOf other).filter (· != i) := by
    intro other
    by_cases own : other = id
    · rw [own, releases.here]
    · rw [releases.elsewhere other own, before.filter_eq_self]
      rw [bound]
      exact fun h => own (Option.some.inj h).symm
  refine ⟨ids ▸ before.numbered, fun j other => ?_, fun other => ?_, fun other j held => ?_⟩
  · rw [releases.resolve, list]
    by_cases same : j = i <;> simp [same, before.agree]
  · rw [list]
    exact (before.nodup other).filter _
  · rw [list] at held
    exact before.positive other j (List.mem_filter.mp held).1

theorem Clears.consistent {t u : Sessions} {id : SessionId} (before : Consistent t)
    (ids : u.ids = t.ids) (clears : Clears t id u) : Consistent u := by
  have list : ∀ other, u.identitiesOf other = if other = id then [] else t.identitiesOf other := by
    intro other
    by_cases own : other = id
    · rw [if_pos own, own, clears.here]
    · rw [if_neg own, clears.elsewhere other own]
  refine ⟨ids ▸ before.numbered, fun j other => ?_, fun other => ?_, fun other j held => ?_⟩
  · rw [clears.resolve, list]
    by_cases own : other = id
    · by_cases gone : t.resolve j = some id <;> simp [own, gone]
    · by_cases gone : t.resolve j = some id
      · have elsewhere : j ∉ t.identitiesOf other := fun held =>
          own (before.only held ((before.agree j id).mp gone))
        simp [own, gone, elsewhere]
      · simp [own, gone, before.agree]
  · rw [list]
    split
    · exact .nil
    · exact before.nodup other
  · rw [list] at held
    split at held
    · cases held
    · exact before.positive other j held

theorem consistent_step {t : Sessions} (consistent : Consistent t) (event : SessionEvent)
    (admits : t.Admits event) : Consistent (t.step event) := by
  cases event with
  | create remote family type =>
    have list := identitiesOf_create t remote family type
    refine ⟨?_, fun i id => ?_, fun id => ?_, fun id => ?_⟩
    · rw [step, ids_create]
      intro id held
      rw [List.length_append, List.length_singleton]
      rcases List.mem_append.mp held with old | new
      · exact Nat.le_succ_of_le (consistent.numbered id old)
      · rw [List.mem_singleton.mp new]
        simp [newcomer, ids]
    · rw [step, resolve_create, list, consistent.agree]
    · rw [step, list]
      exact consistent.nodup id
    · rw [step, list]
      exact consistent.positive id
  | bind i id =>
    by_cases positive : 0 < i
    · exact (consistent.binds positive admits).consistent consistent (ids_bind t i id) positive
    · rw [step, bind_of_not_pos t positive]
      exact consistent
  | release i id =>
    by_cases bound : t.resolve i = some id
    · exact (consistent.releases bound).consistent consistent (ids_release t i id) bound
    · rw [step, release_of_stale bound]
      exact consistent
  | disconnect id => exact (consistent.clears id).consistent consistent (ids_disconnect t id)
  | alter id change =>
    exact consistent.of_views (ids_modify t id admits.id) (fun _ => rfl)
      (identitiesOf_alter t admits)

theorem consistent_of_run {events : List SessionEvent} {t : Sessions} (run : Run events t) :
    Consistent t := by
  induction run with
  | start => exact consistent_empty
  | step event _ admits ih => exact consistent_step ih event admits

/-! The order of the lists. -/

/-- The identity became bound to the session by the event at place `n`, and has been ever
since. -/
structure BoundSince (events : List SessionEvent) (n : Nat) (i : Int64) (id : SessionId) : Prop where
  lt : n < events.length
  before : (after (events.take n)).resolve i ≠ some id
  since : ∀ k, n < k → k ≤ events.length → (after (events.take k)).resolve i = some id

/-- `i` became bound to the session before `j` did. -/
def Older (events : List SessionEvent) (id : SessionId) (i j : Int64) : Prop :=
  ∃ m n, m < n ∧ BoundSince events m i id ∧ BoundSince events n j id

theorem BoundSince.concat {past : List SessionEvent} {n : Nat} {i : Int64} {id : SessionId}
    (bound : BoundSince past n i id) {event : SessionEvent}
    (still : (after (past ++ [event])).resolve i = some id) :
    BoundSince (past ++ [event]) n i id where
  lt := by
    have := bound.lt
    simp only [List.length_append, List.length_singleton]
    omega
  before := by
    rw [List.take_append_of_le_length (Nat.le_of_lt bound.lt)]
    exact bound.before
  since k later inside := by
    rw [List.length_append, List.length_singleton] at inside
    by_cases last : k = past.length + 1
    · rwa [last, List.take_of_length_le (by simp)]
    · rw [List.take_append_of_le_length (by omega)]
      exact bound.since k later (by omega)

theorem boundSince_now {past : List SessionEvent} {i : Int64} {id : SessionId}
    (free : (after past).resolve i ≠ some id) {event : SessionEvent}
    (bound : (after (past ++ [event])).resolve i = some id) :
    BoundSince (past ++ [event]) past.length i id where
  lt := by simp
  before := by simpa using free
  since k later inside := by
    rwa [List.take_of_length_le]
    simp only [List.length_append, List.length_singleton]
    omega

/-- One event takes identities off a list, or puts one that was not bound to the session
at its end. -/
theorem list_step {t : Sessions} (consistent : Consistent t) (event : SessionEvent)
    (admits : t.Admits event) (id : SessionId) :
    ((t.step event).identitiesOf id).Sublist (t.identitiesOf id) ∨
      ∃ i, t.resolve i ≠ some id ∧ (t.step event).identitiesOf id = t.identitiesOf id ++ [i] := by
  cases event with
  | create remote family type => exact .inl (identitiesOf_create t remote family type id ▸ .refl _)
  | alter other change => exact .inl (identitiesOf_alter t admits id ▸ .refl _)
  | disconnect other =>
    have clears := consistent.clears other
    by_cases own : id = other
    · subst own
      exact .inl (clears.here ▸ List.nil_sublist _)
    · exact .inl (clears.elsewhere id own ▸ .refl _)
  | release i other =>
    by_cases bound : t.resolve i = some other
    · have releases := consistent.releases bound
      by_cases own : id = other
      · subst own
        exact .inl (releases.here ▸ List.filter_sublist)
      · exact .inl (releases.elsewhere id own ▸ .refl _)
    · rw [step, release_of_stale bound]
      exact .inl (.refl _)
  | bind i other =>
    by_cases positive : 0 < i
    · have binds := consistent.binds positive admits
      by_cases own : id = other
      · subst own
        have here := binds.here
        split at here
        · exact .inl (here ▸ .refl _)
        · rename_i free
          exact .inr ⟨i, fun bound => free ((consistent.agree i id).mp bound), here⟩
      · exact .inl (binds.elsewhere id own ▸ List.filter_sublist)
    · rw [step, bind_of_not_pos t positive]
      exact .inl (.refl _)

theorem boundSince_of_run {events : List SessionEvent} {t : Sessions} (run : Run events t)
    {i : Int64} {id : SessionId} (bound : t.resolve i = some id) :
    ∃ n, BoundSince events n i id := by
  induction run with
  | start => cases bound
  | @step past t event behind admits ih =>
    have now := after_of_run behind
    have then' := after_of_run (behind.step event admits)
    by_cases before : t.resolve i = some id
    · obtain ⟨n, since⟩ := ih before
      exact ⟨n, since.concat (then' ▸ bound)⟩
    · exact ⟨past.length, boundSince_now (now ▸ before) (then' ▸ bound)⟩

/-- A session's list is in the order in which its identities became bound to it. -/
theorem older_of_run {events : List SessionEvent} {t : Sessions} (run : Run events t)
    (id : SessionId) : (t.identitiesOf id).Pairwise (Older events id) := by
  induction run with
  | start => exact .nil
  | @step past t event behind admits ih =>
    have before := consistent_of_run behind
    have later := consistent_step before event admits
    have now := after_of_run (behind.step event admits)
    have still : ∀ i ∈ (t.step event).identitiesOf id,
        (after (past ++ [event])).resolve i = some id := by
      intro i held
      rw [now]
      exact (later.agree i id).mpr held
    have carry : ∀ i ∈ (t.step event).identitiesOf id, ∀ j ∈ (t.step event).identitiesOf id,
        Older past id i j → Older (past ++ [event]) id i j := by
      rintro i first j second ⟨m, n, less, one, other⟩
      exact ⟨m, n, less, one.concat (still i first), other.concat (still j second)⟩
    rcases list_step before event admits id with fewer | ⟨i, free, more⟩
    · exact (ih.sublist fewer).imp_of_mem fun first second => carry _ first _ second
    · rw [more] at carry still ⊢
      refine List.pairwise_append.mpr ⟨?_, List.pairwise_singleton _ _, fun j held k new => ?_⟩
      · exact ih.imp_of_mem fun first second =>
          carry _ (List.mem_append_left _ first) _ (List.mem_append_left _ second)
      -- What was there has been bound since an earlier event than the last.
      · rw [List.mem_singleton.mp new]
        obtain ⟨m, since⟩ := boundSince_of_run behind ((before.agree j id).mpr held)
        refine ⟨m, past.length, since.lt, since.concat ?_, boundSince_now ?_ ?_⟩
        · exact still j (List.mem_append_left _ held)
        · rwa [after_of_run behind]
        · exact still i (by simp)

/-- The two sides of a table say the same. An identity resolves to the session that lists it, and
to no other. Lists hold positive identities, each once and on one list only, in the order in which
they became bound, so that the primary identity is the oldest. Binding moves an identity to the end
of a list, a release that is not stale takes it off, teardown gives what the session listed and
clears the list; no other identity is touched. -/
structure Agrees (events : List SessionEvent) (t : Sessions) : Prop where
  resolves : ∀ i id, t.resolve i = some id ↔ i ∈ t.identitiesOf id
  nodup : ∀ id, (t.identitiesOf id).Nodup
  positive : ∀ id, ∀ i ∈ t.identitiesOf id, 0 < i
  apart : ∀ i id other, i ∈ t.identitiesOf id → i ∈ t.identitiesOf other → id = other
  ordered : ∀ id, (t.identitiesOf id).Pairwise (Older events id)
  oldest : ∀ id s i, t.session? id = some s → s.primary? = some i →
    ∀ j ∈ t.identitiesOf id, j ≠ i → Older events id i j
  binds : ∀ i id, (t.session? id).isSome →
    if 0 < i then (t.bind i id).2 = true ∧ Binds t i id (t.bind i id).1
    else t.bind i id = (t, false)
  releases : ∀ i id, if t.resolve i = some id then
      (t.release i id).2 = true ∧ Releases t i id (t.release i id).1
    else t.release i id = (t, false)
  clears : ∀ id, (t.disconnect id).2 = t.identitiesOf id ∧ Clears t id (t.disconnect id).1

/-- They do after any run. -/
theorem two_sides_agree {events : List SessionEvent} {t : Sessions} (run : Run events t) :
    Agrees events t := by
  have consistent := consistent_of_run run
  refine ⟨consistent.agree, consistent.nodup, consistent.positive,
    fun i id other => consistent.only, older_of_run run, fun id s i known first j held other => ?_,
    fun i id known => ?_, fun i id => ?_, fun id => ?_⟩
  · have order := older_of_run run id
    rw [identitiesOf_eq known] at order held
    obtain ⟨rest, list⟩ := List.head?_eq_some_iff.mp first
    rw [list] at order held
    exact (List.pairwise_cons.mp order).1 j ((List.mem_cons.mp held).resolve_left other)
  · by_cases positive : 0 < i
    · rw [if_pos positive]
      exact ⟨by rw [bind_of_pos t positive], consistent.binds positive known⟩
    · rw [if_neg positive]
      exact bind_of_not_pos t positive id
  · by_cases bound : t.resolve i = some id
    · rw [if_pos bound]
      exact ⟨by rw [release_of_bound bound], consistent.releases bound⟩
    · rw [if_neg bound]
      exact release_of_stale bound
  · exact ⟨consistent.releasedBy_eq id, consistent.clears id⟩

/-- An identity moves to another session and comes back, behind the one that stayed. The
other session releases it too late, and is torn down. -/
def wandering : List SessionEvent :=
  [.create (.loopback 5000) .external 0, .create (.loopback 5001) .internal 1, .bind 7 ⟨1⟩,
    .bind 9 ⟨1⟩, .bind 7 ⟨2⟩, .bind 7 ⟨1⟩, .release 7 ⟨2⟩, .disconnect ⟨2⟩]

theorem wandering_run : Run wandering (after wandering) := by
  refine .step (.disconnect ⟨2⟩) (.step (.release 7 ⟨2⟩) (.step (.bind 7 ⟨1⟩) (.step (.bind 7 ⟨2⟩)
    (.step (.bind 9 ⟨1⟩) (.step (.bind 7 ⟨1⟩) (.step (.create (.loopback 5001) .internal 1)
      (.step (.create (.loopback 5000) .external 0) .start trivial) trivial) ?_) ?_) ?_) ?_)
    trivial) ?_ <;> rfl

theorem two_sides_agree_wandering :
    (after wandering).resolve 7 = some ⟨1⟩ ∧ (after wandering).identitiesOf ⟨1⟩ = [9, 7] ∧
    Older wandering ⟨1⟩ 9 7 := by
  have agrees := two_sides_agree wandering_run
  exact ⟨by decide, by decide, agrees.oldest ⟨1⟩ _ 9 rfl rfl 7 (by decide) (by decide)⟩

end Sessions
end ClusterWire
