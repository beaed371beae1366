import ClusterWire.Proofs.Session.Bindings
import ClusterWire.Push

/-! Fan-out of a push. First every identity of the list is visited: a client's session is offered
the push at its first identity, links collect theirs. Then every link is visited. At every moment
of the walk it is known from the table before the push which sessions have been offered their
frame, and which identities have been found not to be reached. -/
namespace ClusterWire.Push

/-- The identities of a list that are bound to a session. -/
def targetsOf (t : Sessions) (identities : List Int64) (id : SessionId) : List Int64 :=
  identities.filter (t.resolve · == some id)

/-- The frame of a push for a session, with the identities behind it. -/
def frameFor (serializers : Serializers) (protocol : ProtocolId) (value : Json) (s : Session)
    (targets : List Int64) : Except PushFault Message :=
  match s.family with
  | .external => frame serializers protocol s value
  | .internal => frame serializers protocol s (PushEnvelope.toJson ⟨targets, value⟩)

section Lists

variable {t : Sessions} {done : List Int64} {i : Int64}

theorem targetsOf_bound {id : SessionId} (bound : t.resolve i = some id) :
    targetsOf t (done ++ [i]) id = targetsOf t done id ++ [i] := by
  simp [targetsOf, List.filter_append, bound]

theorem targetsOf_free {id : SessionId} (free : t.resolve i ≠ some id) :
    targetsOf t (done ++ [i]) id = targetsOf t done id := by
  simp [targetsOf, List.filter_append, free]

theorem mem_targetsOf {id : SessionId} :
    i ∈ targetsOf t done id ↔ i ∈ done ∧ t.resolve i = some id := by
  simp [targetsOf]

theorem exists_bound_iff {id : SessionId} :
    (∃ i ∈ done, t.resolve i = some id) ↔ targetsOf t done id ≠ [] := by
  constructor
  · rintro ⟨i, listed, bound⟩
    exact List.ne_nil_of_mem (mem_targetsOf.mpr ⟨listed, bound⟩)
  · intro some
    obtain ⟨i, held⟩ := List.exists_mem_of_ne_nil _ some
    exact ⟨i, mem_targetsOf.mp held⟩

end Lists

/-! Walks that may end with a fault. -/

section Walks

variable {α β ε : Type} {step : β → α → Except ε β} {start last : β}

/-- What every step of a walk keeps holds behind the walk, if it comes through. -/
theorem foldlM_ok (keeps : List α → β → Prop) {all : List α}
    (next : ∀ front x back f g, all = front ++ x :: back → keeps front f → step f x = .ok g →
      keeps (front ++ [x]) g) {front rest : List α} (split : all = front ++ rest)
    (held : keeps front start) (run : rest.foldlM step start = .ok last) : keeps all last := by
  induction rest generalizing front start with
  | nil =>
    cases run
    rwa [split, List.append_nil]
  | cons x rest ih =>
    rw [List.foldlM_cons] at run
    cases first : step start x with
    | error fault =>
      rw [first] at run
      cases run
    | ok h =>
      rw [first] at run
      exact ih (by rw [split, List.append_assoc]; rfl) (next front x rest start h split held first)
        run

/-- A walk that ends with a fault has come through as far as the step that fails. -/
theorem foldlM_error {all : List α} {fault : ε} (run : all.foldlM step start = .error fault) :
    ∃ front x back here, all = front ++ x :: back ∧ front.foldlM step start = .ok here ∧
      step here x = .error fault := by
  induction all generalizing start with
  | nil => cases run
  | cons x rest ih =>
    rw [List.foldlM_cons] at run
    cases first : step start x with
    | error other =>
      rw [first] at run
      cases run
      exact ⟨[], x, rest, start, rfl, rfl, first⟩
    | ok next =>
      rw [first] at run
      obtain ⟨front, y, back, here, rfl, walked, stops⟩ := ih run
      exact ⟨x :: front, y, back, here, rfl, by rw [List.foldlM_cons, first]; exact walked, stops⟩

end Walks

/-! Links with the identities behind them. -/

theorem ids_addTarget {id : SessionId} {i : Int64} {links : List (SessionId × List Int64)} :
    (addTarget id i links).map (·.1) =
      if id ∈ links.map (·.1) then links.map (·.1) else links.map (·.1) ++ [id] := by
  induction links with
  | nil => simp [addTarget]
  | cons link rest ih =>
    obtain ⟨other, targets⟩ := link
    by_cases same : other = id
    · simp [addTarget, same]
    · simp only [addTarget, if_neg same, List.map_cons, ih, List.mem_cons, Ne.symm same, false_or]
      split <;> simp

theorem nodup_addTarget {id : SessionId} {i : Int64} {links : List (SessionId × List Int64)}
    (distinct : (links.map (·.1)).Nodup) : ((addTarget id i links).map (·.1)).Nodup := by
  rw [ids_addTarget]
  split
  · exact distinct
  · rename_i free
    refine List.nodup_append.mpr ⟨distinct, by simp, fun a held b new => ?_⟩
    rw [List.mem_singleton.mp new]
    exact fun same => free (same ▸ held)

theorem mem_addTarget {id : SessionId} {i : Int64} {links : List (SessionId × List Int64)}
    (distinct : (links.map (·.1)).Nodup) {other : SessionId} {targets : List Int64} :
    (other, targets) ∈ addTarget id i links ↔
      if other = id then (∃ before, (id, before) ∈ links ∧ targets = before ++ [i]) ∨
        id ∉ links.map (·.1) ∧ targets = [i]
      else (other, targets) ∈ links := by
  induction links with
  | nil => by_cases same : other = id <;> simp [addTarget, same]
  | cons link rest ih =>
    obtain ⟨head, before⟩ := link
    obtain ⟨fresh, tail⟩ := List.nodup_cons.mp distinct
    have behind := ih tail
    by_cases here : head = id
    · subst here
      simp only [addTarget, if_true, List.mem_cons]
      by_cases same : other = head
      · subst same
        have gone : ∀ targets, (other, targets) ∉ rest := fun targets held =>
          fresh (List.mem_map.mpr ⟨_, held, rfl⟩)
        simp [gone]
      · simp [same]
    · simp only [addTarget, if_neg here, List.mem_cons, behind]
      by_cases same : other = id
      · subst same
        simp [Ne.symm here]
      · simp [same]

/-! What has been written for clients. -/

/-- What is kept for a serialize type is the payload as its serializer writes it. -/
def Written (serializers : Serializers) (value : Json) (bodies : Bodies) : Prop :=
  ∀ serializeType body, bodies.lookup serializeType = some body →
    ∃ z, serializers.get serializeType = .ok z ∧ body = z.encode value

section Bodies

variable {serializers : Serializers} {protocol : ProtocolId} {value : Json} {bodies : Bodies}

theorem Written.keep (written : Written serializers value bodies) {serializeType : UInt8}
    {z : Serializer} (known : serializers.get serializeType = .ok z) :
    Written serializers value ((serializeType, z.encode value) :: bodies) := by
  intro other body found
  rw [List.lookup_cons] at found
  split at found
  · rename_i same
    cases found
    exact ⟨z, by rw [eq_of_beq same, known], rfl⟩
  · exact written other body found

/-- A client is given what its own serializer writes, whether it was written now or before. -/
theorem Written.write (written : Written serializers value bodies) (serializeType : UInt8) :
    (∃ z kept, serializers.get serializeType = .ok z ∧ Written serializers value kept ∧
      bodies.write serializers value serializeType = .ok (z.encode value, kept)) ∨
    ∃ fault, serializers.get serializeType = .error fault ∧
      bodies.write serializers value serializeType = .error (.codec fault) := by
  unfold Bodies.write
  cases found : bodies.lookup serializeType with
  | some body =>
    obtain ⟨z, known, rfl⟩ := written serializeType body found
    exact .inl ⟨z, bodies, known, written, rfl⟩
  | none =>
    cases known : serializers.get serializeType with
    | ok z => exact .inl ⟨z, _, rfl, written.keep known, rfl⟩
    | error fault => exact .inr ⟨fault, rfl, rfl⟩

theorem frame_eq {s : Session} {z : Serializer} (known : serializers.get s.serializeType = .ok z)
    (value : Json) :
    frame serializers protocol s value = .ok (.push s.family protocol (z.encode value)) := by
  simp only [frame, known]

end Bodies

/-! Where a push stands. -/

/-- The session has been offered its frame, once the identities of `done` and the links of
`visited` have been seen to. -/
def isOffered (t : Sessions) (done : List Int64) (visited : List SessionId) (s : Session) : Bool :=
  match s.family with
  | .external => !(targetsOf t done s.id).isEmpty
  | .internal => visited.contains s.id

/-- The identity has been found not to be reached. On a client's session only the identity for
which the session was offered the frame learns of a refusal. -/
def isLost (t : Sessions) (done : List Int64) (visited : List SessionId) (i : Int64) : Bool :=
  match (t.resolve i).bind t.session? with
  | none => true
  | some s =>
    !s.accepts &&
      match s.family with
      | .external => (targetsOf t done s.id).head? == some i
      | .internal => visited.contains s.id

structure Fanout.Stands (serializers : Serializers) (protocol : ProtocolId) (value : Json)
    (t : Sessions) (done : List Int64) (visited : List SessionId) (f : Fanout) : Prop where
  bound : f.sessions.bound = t.bound
  unknown : ∀ id, t.session? id = none → f.sessions.session? id = none
  spared : ∀ id s, t.session? id = some s → isOffered t done visited s = false →
    f.sessions.session? id = some s
  reached : ∀ id s, t.session? id = some s → isOffered t done visited s = true →
    ∃ m, frameFor serializers protocol value s (targetsOf t done id) = .ok m ∧
      f.sessions.session? id = some (s.send m)
  offered : ∀ id s, t.session? id = some s → s.family = .external →
    (id ∈ f.offered ↔ targetsOf t done id ≠ [])
  links : ∀ id targets, (id, targets) ∈ f.links ↔
    (∃ s, t.session? id = some s ∧ s.family = .internal) ∧ targets = targetsOf t done id ∧
      targets ≠ []
  distinct : (f.links.map (·.1)).Nodup
  lost : ∀ i, i ∈ f.undelivered ↔ i ∈ done ∧ isLost t done visited i = true
  written : Written serializers value f.bodies

/-- What the visit of an identity comes to, by the session that the identity is bound to. -/
inductive Fanout.Visits (serializers : Serializers) (protocol : ProtocolId) (value : Json)
    (t : Sessions) (f : Fanout) (i : Int64) : Except (PushFault × Fanout) Fanout → Prop where
  | unbound (gone : (t.resolve i).bind t.session? = none) :
      Visits serializers protocol value t f i (.ok (f.lose [i]))
  | link {s : Session} (known : (t.resolve i).bind t.session? = some s)
      (internal : s.family = .internal) :
      Visits serializers protocol value t f i (.ok { f with links := addTarget s.id i f.links })
  | again {s : Session} (known : (t.resolve i).bind t.session? = some s)
      (external : s.family = .external) (seen : s.id ∈ f.offered) :
      Visits serializers protocol value t f i (.ok f)
  | first {s : Session} {m : Message} {bodies : Bodies}
      (known : (t.resolve i).bind t.session? = some s) (external : s.family = .external)
      (fresh : s.id ∉ f.offered) (framed : frame serializers protocol s value = .ok m)
      (written : Written serializers value bodies) :
      Visits serializers protocol value t f i
        (.ok (({ f with offered := f.offered ++ [s.id], bodies := bodies } : Fanout).offer s.id m
          [i]))
  | stop {s : Session} {fault : CodecFault} (known : (t.resolve i).bind t.session? = some s)
      (external : s.family = .external) (fresh : s.id ∉ f.offered)
      (unserved : serializers.get s.serializeType = .error fault) :
      Visits serializers protocol value t f i
        (.error (.codec fault, { f with offered := f.offered ++ [s.id] }))

namespace Fanout

variable {serializers : Serializers} {protocol : ProtocolId} {value : Json} {t : Sessions}
  {done : List Int64} {visited : List SessionId} {f g : Fanout} {i : Int64}

theorem stands_start : Stands serializers protocol value t [] [] { sessions := t } where
  bound := rfl
  unknown _ gone := gone
  spared _ _ known _ := known
  reached id s _ offered := by
    cases family : s.family <;> simp [isOffered, family, targetsOf] at offered
  offered := by simp [targetsOf]
  links := by simp [targetsOf]
  distinct := .nil
  lost := by simp
  written := by simp [Written]

theorem offer_eq (f : Fanout) (id : SessionId) (m : Message) (identities : List Int64) :
    f.offer id m identities =
      { f with
        sessions := (f.sessions.send id m).1
        undelivered := f.undelivered ++ if f.sessions.accepts id then [] else identities } := by
  unfold offer lose Sessions.send
  dsimp only
  cases f.sessions.accepts id <;> simp

theorem session?_send (u : Sessions) (id : SessionId) (m : Message) (other : SessionId) :
    (u.send id m).1.session? other =
      (u.session? other).map fun s => if other = id then s.send m else s := by
  rw [Sessions.send, Sessions.session?_modify _ _ _ fun s => s.id_send m]
  cases known : u.session? other with
  | none => rfl
  | some s => simp [Sessions.session?_id known]

theorem accepts_eq {u : Sessions} {id : SessionId} {s : Session} (known : u.session? id = some s) :
    u.accepts id = s.accepts := by
  simp [Sessions.accepts, known]

theorem session_of_bind {s : Session} (known : (t.resolve i).bind t.session? = some s) :
    t.resolve i = some s.id ∧ t.session? s.id = some s := by
  obtain ⟨id, bound, entry⟩ := Option.bind_eq_some_iff.mp known
  rw [Sessions.session?_id entry]
  exact ⟨bound, entry⟩

theorem frameFor_external {s : Session} (external : s.family = .external) (targets : List Int64) :
    frameFor serializers protocol value s targets = frame serializers protocol s value := by
  simp only [frameFor, external]

theorem frameFor_internal {s : Session} (internal : s.family = .internal) (targets : List Int64) :
    frameFor serializers protocol value s targets =
      frame serializers protocol s (PushEnvelope.toJson ⟨targets, value⟩) := by
  simp only [frameFor, internal]

theorem isOffered_link {id : SessionId} {other : SessionId} {s : Session}
    (known : t.session? other = some s) (differs : other ≠ id) :
    isOffered t done (visited ++ [id]) s = isOffered t done visited s := by
  rw [← Sessions.session?_id known] at differs
  cases family : s.family <;> simp [isOffered, family, differs]

theorem isLost_link {id : SessionId} {s : Session} (known : t.session? id = some s)
    (internal : s.family = .internal) (j : Int64) : isLost t done (visited ++ [id]) j =
      (isLost t done visited j || (t.resolve j == some id && !s.accepts)) := by
  by_cases here : t.resolve j = some id
  · cases taken : s.accepts <;>
      simp [isLost, here, known, internal, Sessions.session?_id known, taken]
  · have plain : isLost t done (visited ++ [id]) j = isLost t done visited j := by
      unfold isLost
      cases other : (t.resolve j).bind t.session? with
      | none => rfl
      | some u =>
        have apart : u.id ≠ id := fun same => here (same ▸ (session_of_bind other).1)
        simp [apart]
    simp [plain, here]

theorem isOffered_concat (s : Session) : isOffered t (done ++ [i]) visited s =
    (isOffered t done visited s || (s.family == .external && t.resolve i == some s.id)) := by
  cases family : s.family with
  | internal => simp [isOffered, family]
  | external =>
    by_cases bound : t.resolve i = some s.id
    · simp [isOffered, family, targetsOf_bound bound, bound]
    · simp [isOffered, family, targetsOf_free bound, bound]

/-- An identity that is not the first one on a client's session changes nothing for the others. -/
theorem isLost_concat (seen : ∀ s, (t.resolve i).bind t.session? = some s →
    s.family = .external → targetsOf t done s.id ≠ []) (j : Int64) :
    isLost t (done ++ [i]) visited j = isLost t done visited j := by
  unfold isLost
  cases known : (t.resolve j).bind t.session? with
  | none => rfl
  | some s =>
    cases family : s.family with
    | internal => simp only [family]
    | external =>
      by_cases bound : t.resolve i = some s.id
      · have same : (t.resolve i).bind t.session? = some s := by
          rw [bound, Option.bind_some]
          exact (session_of_bind known).2
        obtain ⟨first, rest, list⟩ := List.exists_cons_of_ne_nil (seen s same family)
        simp only [targetsOf_bound bound, list, List.cons_append, List.head?_cons]
      · simp only [targetsOf_free bound]

theorem isLost_first {s : Session} (known : (t.resolve i).bind t.session? = some s)
    (external : s.family = .external) (first : targetsOf t done s.id = []) (j : Int64) :
    isLost t (done ++ [i]) visited j = (isLost t done visited j || (i == j && !s.accepts)) := by
  obtain ⟨bound, entry⟩ := session_of_bind known
  by_cases here : (t.resolve j).bind t.session? = some s
  · have list : targetsOf t (done ++ [i]) s.id = [i] := by rw [targetsOf_bound bound, first]; rfl
    simp [isLost, here, external, first, list, Bool.and_comm]
  · have differs : i ≠ j := fun same => here (same ▸ known)
    have plain : isLost t (done ++ [i]) visited j = isLost t done visited j := by
      unfold isLost
      cases other : (t.resolve j).bind t.session? with
      | none => rfl
      | some u =>
        have apart : t.resolve i ≠ some u.id := by
          intro same
          rw [bound] at same
          have back := (session_of_bind other).2
          rw [← Option.some.inj same, entry] at back
          exact here (other.trans back.symm)
        simp only [targetsOf_free apart]
    simp [plain, differs]

namespace Stands

section Step

variable (stands : Stands serializers protocol value t done visited f)
include stands

theorem resolve (i : Int64) : f.sessions.resolve i = t.resolve i := by
  rw [Sessions.resolve, stands.bound, Sessions.resolve]

/-- Sessions that are offered a frame stay who they are. -/
theorem found {id : SessionId} {s : Session} (known : t.session? id = some s) :
    ∃ s', f.sessions.session? id = some s' ∧ s'.id = s.id ∧ s'.family = s.family ∧
      (isOffered t done visited s = false → s' = s) := by
  cases offered : isOffered t done visited s with
  | false => exact ⟨s, stands.spared id s known offered, rfl, rfl, fun _ => rfl⟩
  | true =>
    obtain ⟨m, -, sent⟩ := stands.reached id s known offered
    exact ⟨s.send m, sent, s.id_send m, s.family_send m, nofun⟩

theorem gone (unknown : (t.resolve i).bind t.session? = none) :
    (f.sessions.resolve i).bind f.sessions.session? = none := by
  rw [stands.resolve]
  cases bound : t.resolve i with
  | none => rfl
  | some id =>
    rw [bound] at unknown
    exact stands.unknown id unknown

theorem holder {s : Session} (known : (t.resolve i).bind t.session? = some s) :
    ∃ s', (f.sessions.resolve i).bind f.sessions.session? = some s' ∧ s'.id = s.id ∧
      s'.family = s.family ∧ (isOffered t done visited s = false → s' = s) := by
  obtain ⟨bound, entry⟩ := session_of_bind known
  obtain ⟨s', there, same⟩ := stands.found entry
  exact ⟨s', by rw [stands.resolve, bound, Option.bind_some, there], same⟩

theorem mem_links {id : SessionId} {s : Session} (known : t.session? id = some s)
    (internal : s.family = .internal) :
    id ∈ f.links.map (·.1) ↔ targetsOf t done id ≠ [] := by
  constructor
  · intro held
    obtain ⟨⟨other, targets⟩, link, rfl⟩ := List.mem_map.mp held
    obtain ⟨-, rfl, filled⟩ := (stands.links other targets).mp link
    exact filled
  · intro filled
    exact List.mem_map.mpr ⟨_, (stands.links id _).mpr ⟨⟨s, known, internal⟩, rfl, filled⟩, rfl⟩

/-- What is seen to be done for other sessions than that of the next identity stays so. -/
theorem spared_concat {id : SessionId} {s : Session} (known : t.session? id = some s)
    (spared : isOffered t (done ++ [i]) visited s = false) : f.sessions.session? id = some s := by
  rw [isOffered_concat, Bool.or_eq_false_iff] at spared
  exact stands.spared id s known spared.1

theorem reached_concat {id : SessionId} {s : Session} (known : t.session? id = some s)
    (free : t.resolve i ≠ some id) (reached : isOffered t (done ++ [i]) visited s = true) :
    ∃ m, frameFor serializers protocol value s (targetsOf t (done ++ [i]) id) = .ok m ∧
      f.sessions.session? id = some (s.send m) := by
  rw [targetsOf_free free]
  refine stands.reached id s known ?_
  rw [← Sessions.session?_id known] at free
  simpa [isOffered_concat, free] using reached

/-- The identity is bound to no session that is known. -/
theorem lose (gone : (t.resolve i).bind t.session? = none) :
    Stands serializers protocol value t (done ++ [i]) visited (f.lose [i]) := by
  have free : ∀ id s, t.session? id = some s → t.resolve i ≠ some id := by
    intro id s known bound
    rw [bound, Option.bind_some, known] at gone
    cases gone
  constructor
  · exact stands.bound
  · exact stands.unknown
  · exact fun id s known => stands.spared_concat known
  · exact fun id s known => stands.reached_concat known (free id s known)
  · intro id s known external
    rw [targetsOf_free (free id s known)]
    exact stands.offered id s known external
  · intro id targets
    refine (stands.links id targets).trans (and_congr_right fun ⟨s, known, _⟩ => ?_)
    rw [targetsOf_free (free id s known)]
  · exact stands.distinct
  · intro j
    rw [isLost_concat (by simp [gone])]
    simp only [Fanout.lose, List.mem_append, List.mem_singleton, stands.lost, or_and_right]
    refine or_congr_right (iff_self_and.mpr fun same => ?_)
    simp [isLost, same, gone]
  · exact stands.written

section External

variable {s : Session} (known : (t.resolve i).bind t.session? = some s)
  (external : s.family = .external)
include known external

theorem links_external (id : SessionId) (targets : List Int64) : (id, targets) ∈ f.links ↔
    (∃ s, t.session? id = some s ∧ s.family = .internal) ∧
      targets = targetsOf t (done ++ [i]) id ∧ targets ≠ [] := by
  obtain ⟨bound, entry⟩ := session_of_bind known
  refine (stands.links id targets).trans (and_congr_right fun ⟨u, other, internal⟩ => ?_)
  have free : t.resolve i ≠ some id := by
    rw [bound]
    rintro ⟨⟩
    cases entry.symm.trans other
    cases external.symm.trans internal
  rw [targetsOf_free free]

/-- One more identity on a client's session that was offered the push. -/
theorem pass (again : s.id ∈ f.offered) :
    Stands serializers protocol value t (done ++ [i]) visited f := by
  obtain ⟨bound, entry⟩ := session_of_bind known
  have seen := (stands.offered s.id s entry external).mp again
  constructor
  · exact stands.bound
  · exact stands.unknown
  · exact fun id u other => stands.spared_concat other
  · intro id u other reached
    by_cases here : id = s.id
    · subst here
      cases entry.symm.trans other
      rw [frameFor_external external, ← frameFor_external external (targetsOf t done s.id)]
      exact stands.reached s.id s entry (by simp [isOffered, external, seen])
    · refine stands.reached_concat other ?_ reached
      rw [bound]
      exact fun same => here (Option.some.inj same).symm
  · intro id u other outside
    refine (stands.offered id u other outside).trans ?_
    by_cases here : t.resolve i = some id
    · cases bound.symm.trans here
      simp [targetsOf_bound here, seen]
    · rw [targetsOf_free here]
  · exact stands.links_external known external
  · exact stands.distinct
  · intro j
    have first : ∀ u, (t.resolve i).bind t.session? = some u → u.family = .external →
        targetsOf t done u.id ≠ [] := by
      intro u same _
      cases known.symm.trans same
      exact seen
    rw [isLost_concat first, stands.lost, List.mem_append, List.mem_singleton]
    refine and_congr_left fun lost => (or_iff_left_of_imp fun same => ?_).symm
    have head : (targetsOf t done s.id).head? = some i := by
      simp only [isLost, same, known, external, Bool.and_eq_true] at lost
      simpa using lost.2
    exact same ▸ (mem_targetsOf.mp (List.mem_of_head? head)).1
  · exact stands.written

/-- The first identity on a client's session: the session is offered the push. -/
theorem offer (first : s.id ∉ f.offered) {m : Message}
    (framed : frame serializers protocol s value = .ok m) {bodies : Bodies}
    (written : Written serializers value bodies) :
    Stands serializers protocol value t (done ++ [i]) visited
      (({ f with offered := f.offered ++ [s.id], bodies := bodies } : Fanout).offer s.id m
        [i]) := by
  obtain ⟨bound, entry⟩ := session_of_bind known
  have none : targetsOf t done s.id = [] := by
    simpa using mt (stands.offered s.id s entry external).mpr first
  have own : f.sessions.session? s.id = some s :=
    stands.spared s.id s entry (by simp [isOffered, external, none])
  have apart : ∀ id, id ≠ s.id → t.resolve i ≠ some id := by
    intro id differs same
    exact differs (Option.some.inj (bound.symm.trans same)).symm
  rw [offer_eq]
  constructor
  · exact stands.bound
  · intro id gone
    simp only [session?_send, stands.unknown id gone, Option.map_none]
  · intro id u there spared
    by_cases here : id = s.id
    · subst here
      cases entry.symm.trans there
      simp [isOffered, external, targetsOf_bound bound] at spared
    · simp [session?_send, stands.spared_concat there spared, here]
  · intro id u there reached
    by_cases here : id = s.id
    · subst here
      cases entry.symm.trans there
      exact ⟨m, by rw [frameFor_external external, framed], by simp [session?_send, own]⟩
    · obtain ⟨m', sent, queued⟩ := stands.reached_concat there (apart id here) reached
      exact ⟨m', sent, by simp [session?_send, queued, here]⟩
  · intro id u there outside
    simp only [List.mem_append, List.mem_singleton, stands.offered id u there outside]
    by_cases here : id = s.id
    · subst here
      simp [targetsOf_bound bound]
    · simp [targetsOf_free (apart id here), here]
  · exact stands.links_external known external
  · exact stands.distinct
  · intro j
    rw [isLost_first known external none, accepts_eq own]
    simp only [List.mem_append, stands.lost, List.mem_singleton]
    have fresh : isLost t done visited i = false := by
      simp [isLost, known, external, none]
    by_cases same : j = i
    · subst same
      cases s.accepts <;> simp [fresh]
    · have differs : (i == j) = false := by simpa using Ne.symm same
      cases s.accepts <;> simp [same, differs]
  · exact written

end External

end Step

/-- An identity behind a link is put to the others there. -/
theorem collect (stands : Stands serializers protocol value t done [] f) {s : Session}
    (known : (t.resolve i).bind t.session? = some s) (internal : s.family = .internal) :
    Stands serializers protocol value t (done ++ [i]) []
      { f with links := addTarget s.id i f.links } := by
  obtain ⟨bound, entry⟩ := session_of_bind known
  have apart : ∀ id, id ≠ s.id → t.resolve i ≠ some id := by
    intro id differs same
    exact differs (Option.some.inj (bound.symm.trans same)).symm
  constructor
  · exact stands.bound
  · exact stands.unknown
  · exact fun id u there => stands.spared_concat there
  · intro id u there reached
    have here : id ≠ s.id := by
      rintro rfl
      cases entry.symm.trans there
      simp [isOffered, internal] at reached
    exact stands.reached_concat there (apart id here) reached
  · intro id u there outside
    have here : id ≠ s.id := by
      rintro rfl
      cases entry.symm.trans there
      cases internal.symm.trans outside
    rw [targetsOf_free (apart id here)]
    exact stands.offered id u there outside
  · intro id targets
    rw [mem_addTarget stands.distinct]
    by_cases here : id = s.id
    · subst here
      rw [if_pos rfl, targetsOf_bound bound, stands.mem_links entry internal]
      constructor
      · rintro (⟨before, held, rfl⟩ | ⟨none, rfl⟩)
        · rw [((stands.links s.id before).mp held).2.1]
          exact ⟨⟨s, entry, internal⟩, rfl, by simp⟩
        · have none := Classical.not_not.mp none
          exact ⟨⟨s, entry, internal⟩, by simp [none], by simp⟩
      · rintro ⟨-, rfl, -⟩
        by_cases none : targetsOf t done s.id = []
        · exact .inr ⟨by simp [none], by simp [none]⟩
        · exact .inl ⟨_, (stands.links s.id _).mpr ⟨⟨s, entry, internal⟩, rfl, none⟩, rfl⟩
    · rw [if_neg here, targetsOf_free (apart id here)]
      exact stands.links id targets
  · exact nodup_addTarget stands.distinct
  · intro j
    have plain : ∀ u, (t.resolve i).bind t.session? = some u → u.family = .external →
        targetsOf t done u.id ≠ [] := by
      intro u same outside
      cases known.symm.trans same
      cases internal.symm.trans outside
    rw [isLost_concat plain, List.mem_append, List.mem_singleton, stands.lost]
    refine and_congr_left fun lost => (or_iff_left_of_imp fun same => ?_).symm
    simp [isLost, same, known, internal] at lost
  · exact stands.written

theorem visits (stands : Stands serializers protocol value t done [] f) (i : Int64) :
    Visits serializers protocol value t f i (f.visit serializers protocol value i) := by
  unfold Fanout.visit
  cases known : (t.resolve i).bind t.session? with
  | none =>
    rw [stands.gone known]
    exact .unbound known
  | some s =>
    obtain ⟨-, entry⟩ := session_of_bind known
    obtain ⟨s', found, id, family, same⟩ := stands.holder known
    rw [found]
    cases kind : s.family with
    | internal =>
      simp only [family, kind, id]
      exact .link known kind
    | external =>
      simp only [family, kind, id]
      by_cases again : s.id ∈ f.offered
      · rw [if_pos again]
        exact .again known kind again
      · rw [if_neg again]
        have none : targetsOf t done s.id = [] := by
          simpa using mt (stands.offered s.id s entry kind).mpr again
        rw [same (by simp [isOffered, kind, none])]
        rcases stands.written.write s.serializeType with
          ⟨z, kept, own, written, body⟩ | ⟨fault, unserved, body⟩
        · simp only [body]
          exact .first known kind again (by rw [frame_eq own, kind]) written
        · simp only [body]
          exact .stop known kind again unserved

theorem visit (stands : Stands serializers protocol value t done [] f)
    (step : f.visit serializers protocol value i = .ok g) :
    Stands serializers protocol value t (done ++ [i]) [] g := by
  have visits := stands.visits i
  rw [step] at visits
  cases visits with
  | unbound gone => exact stands.lose gone
  | link known internal => exact stands.collect known internal
  | again known external seen => exact stands.pass known external seen
  | first known external fresh framed written =>
    exact stands.offer known external fresh framed written

/-- A link is offered its envelope. -/
theorem visitLink (stands : Stands serializers protocol value t done visited f) {id : SessionId}
    {targets : List Int64} (listed : (id, targets) ∈ f.links) (fresh : id ∉ visited)
    (step : f.visitLink serializers protocol value (id, targets) = .ok g) :
    Stands serializers protocol value t done (visited ++ [id]) g ∧ g.links = f.links := by
  obtain ⟨⟨s, entry, internal⟩, list, -⟩ := (stands.links id targets).mp listed
  have name := Sessions.session?_id entry
  have own : f.sessions.session? id = some s := by
    refine stands.spared id s entry ?_
    simpa [isOffered, internal, name] using fresh
  unfold Fanout.visitLink at step
  rw [own] at step
  dsimp only at step
  cases framed : frame serializers protocol s (PushEnvelope.toJson ⟨targets, value⟩) with
  | error fault =>
    rw [framed] at step
    cases step
  | ok m =>
    rw [framed] at step
    cases step
    rw [offer_eq, name]
    refine ⟨?_, rfl⟩
    constructor
    · exact stands.bound
    · intro other gone
      simp only [session?_send, stands.unknown other gone, Option.map_none]
    · intro other u there spared
      have here : other ≠ id := by
        rintro rfl
        cases entry.symm.trans there
        simp [isOffered, internal, name] at spared
      rw [isOffered_link there here] at spared
      simp [session?_send, stands.spared other u there spared, here]
    · intro other u there reached
      by_cases here : other = id
      · subst here
        cases entry.symm.trans there
        exact ⟨m, by rw [frameFor_internal internal, ← list, framed], by simp [session?_send, own]⟩
      · rw [isOffered_link there here] at reached
        obtain ⟨m', sent, queued⟩ := stands.reached other u there reached
        exact ⟨m', sent, by simp [session?_send, queued, here]⟩
    · exact stands.offered
    · exact stands.links
    · exact stands.distinct
    · intro j
      rw [isLost_link entry internal, accepts_eq own]
      by_cases here : t.resolve j = some id
      · have lost : isLost t done visited j = false := by
          simp [isLost, here, entry, internal, name, fresh]
        have mem : j ∈ targets ↔ j ∈ done := by simp [list, mem_targetsOf, here]
        cases s.accepts <;> simp [stands.lost, lost, here, mem]
      · have apart : j ∉ targets := by simp [list, mem_targetsOf, here]
        cases s.accepts <;> simp [stands.lost, here, apart]
    · exact stands.written

end Stands

variable {identities : List Int64}

theorem stands_walk
    (walk : identities.foldlM (Fanout.visit serializers protocol value) { sessions := t } = .ok f) :
    Stands serializers protocol value t identities [] f :=
  foldlM_ok (fun done f => Stands serializers protocol value t done [] f)
    (fun _ _ _ _ _ _ stands step => stands.visit step) (List.nil_append _).symm stands_start walk

/-- The links are visited as the first walk leaves them, each once. -/
theorem stands_tour_front (walked : Stands serializers protocol value t identities [] f)
    {front rest : List (SessionId × List Int64)} (split : f.links = front ++ rest)
    (tour : front.foldlM (Fanout.visitLink serializers protocol value) f = .ok g) :
    Stands serializers protocol value t identities (front.map (·.1)) g ∧ g.links = f.links := by
  refine foldlM_ok (fun seen h => Stands serializers protocol value t identities
    (seen.map (·.1)) h ∧ h.links = f.links) ?_ (List.nil_append _).symm ⟨walked, rfl⟩ tour
  rintro seen ⟨id, targets⟩ back h k cut ⟨stands, kept⟩ step
  have listed : (id, targets) ∈ h.links := by simp [kept, split, cut]
  have fresh : id ∉ seen.map (·.1) := by
    have distinct := stands.distinct
    rw [kept, split, cut, List.append_assoc, List.map_append, List.cons_append,
      List.map_cons] at distinct
    exact fun held => (List.nodup_append.mp distinct).2.2 id held id List.mem_cons_self rfl
  obtain ⟨next, same⟩ := stands.visitLink listed fresh step
  exact ⟨by rw [List.map_append]; exact next, same.trans kept⟩

theorem stands_tour (walked : Stands serializers protocol value t identities [] f)
    (tour : f.links.foldlM (Fanout.visitLink serializers protocol value) f = .ok g) :
    Stands serializers protocol value t identities (g.links.map (·.1)) g := by
  obtain ⟨toured, same⟩ := stands_tour_front walked (List.append_nil _).symm tour
  exact same ▸ toured

end Fanout

end ClusterWire.Push
