import ClusterWire.Proofs.Push.Fanout

/-! Pushes to everyone. The sessions are gone through in whatever order they are listed in. At every
moment of the walk it is known from the table before the push which sessions have been offered
their frame, and how many took it. -/
namespace ClusterWire.Push

/-- The sessions with an identity, in the order of a list: those that a push to everyone is for. -/
def audience (t : Sessions) (order : List SessionId) : List Session :=
  (order.filterMap t.session?).filter (!·.identities.isEmpty)

section Lists

variable {t : Sessions} {order : List SessionId} {s : Session}

theorem mem_audience : s ∈ audience t order ↔
    s.id ∈ order ∧ t.session? s.id = some s ∧ s.identities ≠ [] := by
  simp only [audience, List.mem_filter, List.mem_filterMap, Bool.not_eq_true', List.isEmpty_eq_false_iff]
  constructor
  · rintro ⟨⟨id, listed, known⟩, named⟩
    rw [Sessions.session?_id known]
    exact ⟨listed, known, named⟩
  · rintro ⟨listed, known, named⟩
    exact ⟨⟨s.id, listed, known⟩, named⟩

theorem audience_append (front back : List SessionId) :
    audience t (front ++ back) = audience t front ++ audience t back := by
  rw [audience, List.filterMap_append, List.filter_append]
  rfl

theorem audience_cons {id : SessionId} (known : t.session? id = some s) (named : s.identities ≠ [])
    (back : List SessionId) : audience t (id :: back) = s :: audience t back := by
  simp [audience, known, named]

theorem audience_skip {id : SessionId} (anonymous : ∀ s, t.session? id = some s → s.identities = [])
    (back : List SessionId) : audience t (id :: back) = audience t back := by
  cases known : t.session? id with
  | none => simp [audience, known]
  | some s => simp [audience, known, anonymous s known]

theorem ids_audience (t : Sessions) (order : List SessionId) :
    ((audience t order).map (·.id)).Sublist order := by
  induction order with
  | nil => exact .slnil
  | cons id rest ih =>
    by_cases anonymous : ∀ s, t.session? id = some s → s.identities = []
    · rw [audience_skip anonymous]
      exact ih.cons id
    · obtain ⟨s, known, named⟩ : ∃ s, t.session? id = some s ∧ s.identities ≠ [] := by
        simpa using anonymous
      rw [audience_cons known named, List.map_cons, Sessions.session?_id known]
      exact ih.cons_cons id

end Lists

/-- Where a push to everyone stands, once the sessions of `done` have been seen to. -/
structure Broadcast.Stands (serializers : Serializers) (protocol : ProtocolId) (value : Json)
    (t : Sessions) (done : List SessionId) (b : Broadcast) : Prop where
  unknown : ∀ id, t.session? id = none → b.sessions.session? id = none
  spared : ∀ id s, t.session? id = some s → s ∉ audience t done → b.sessions.session? id = some s
  reached : ∀ s ∈ audience t done, ∃ m,
    frameFor serializers protocol value s s.identities = .ok m ∧
      b.sessions.session? s.id = some (s.send m)
  counted : b.count = (audience t done).countP (·.accepts)
  written : Written serializers value b.bodies

/-- What the visit of a session comes to. -/
inductive Broadcast.Visits (serializers : Serializers) (protocol : ProtocolId) (value : Json)
    (t : Sessions) (b : Broadcast) (id : SessionId) : Except (PushFault × Broadcast) Broadcast → Prop
  where
  | silent (anonymous : ∀ s, t.session? id = some s → s.identities = []) :
      Visits serializers protocol value t b id (.ok b)
  | called {s : Session} {m : Message} {bodies : Bodies} (known : t.session? id = some s)
      (named : s.identities ≠ [])
      (framed : frameFor serializers protocol value s s.identities = .ok m)
      (written : Written serializers value bodies) :
      Visits serializers protocol value t b id
        (.ok (({ b with bodies := bodies } : Broadcast).offer s.id m))
  | stop {s : Session} {fault : CodecFault} (known : t.session? id = some s)
      (named : s.identities ≠ []) (unserved : serializers.get s.serializeType = .error fault) :
      Visits serializers protocol value t b id (.error (.codec fault, b))

namespace Broadcast

open Fanout (session?_send accepts_eq frameFor_external frameFor_internal)

variable {serializers : Serializers} {protocol : ProtocolId} {value : Json} {t : Sessions}
  {done : List SessionId} {b c : Broadcast} {id : SessionId} {s : Session}

theorem stands_start : Stands serializers protocol value t [] { sessions := t } where
  unknown _ gone := gone
  spared _ _ known _ := known
  reached := by simp [audience]
  counted := rfl
  written := by simp [Written]

theorem offer_eq (b : Broadcast) (id : SessionId) (m : Message) :
    b.offer id m = { b with
      sessions := (b.sessions.send id m).1
      count := b.count + if b.sessions.accepts id then 1 else 0 } := by
  unfold offer Sessions.send
  dsimp only
  cases b.sessions.accepts id <;> rfl

namespace Stands

variable (stands : Stands serializers protocol value t done b)
include stands

/-- A session that nobody is bound to is passed over. -/
theorem skip (anonymous : ∀ s, t.session? id = some s → s.identities = []) :
    Stands serializers protocol value t (done ++ [id]) b := by
  have same : audience t (done ++ [id]) = audience t done := by
    rw [audience_append, audience_skip anonymous]
    exact List.append_nil _
  exact {
    unknown := stands.unknown
    spared := same ▸ stands.spared
    reached := same ▸ stands.reached
    counted := same ▸ stands.counted
    written := stands.written }

theorem offer (fresh : id ∉ done) (known : t.session? id = some s) (named : s.identities ≠ [])
    {m : Message} (framed : frameFor serializers protocol value s s.identities = .ok m)
    {bodies : Bodies} (written : Written serializers value bodies) :
    Stands serializers protocol value t (done ++ [id])
      (({ b with bodies := bodies } : Broadcast).offer s.id m) := by
  have name := Sessions.session?_id known
  have outside : s ∉ audience t done := fun held => fresh (name ▸ (mem_audience.mp held).1)
  have own : b.sessions.session? s.id = some s := name ▸ stands.spared id s known outside
  have longer : audience t (done ++ [id]) = audience t done ++ [s] := by
    rw [audience_append, audience_cons known named]
    rfl
  rw [offer_eq]
  constructor
  · intro other gone
    simp only [session?_send, stands.unknown other gone, Option.map_none]
  · intro other u there spared
    rw [longer, List.mem_append, not_or] at spared
    have differs : other ≠ s.id := by
      rintro rfl
      rw [name, known] at there
      cases there
      exact spared.2 List.mem_cons_self
    simp [session?_send, stands.spared other u there spared.1, differs]
  · intro u held
    rw [longer] at held
    rcases List.mem_append.mp held with before | here
    · obtain ⟨m', sent, there⟩ := stands.reached u before
      have differs : u.id ≠ s.id := fun same => fresh (name ▸ same ▸ (mem_audience.mp before).1)
      exact ⟨m', sent, by simp [session?_send, there, differs]⟩
    · cases List.mem_singleton.mp here
      exact ⟨m, framed, by simp [session?_send, own]⟩
  · rw [longer, List.countP_append, List.countP_singleton, ← stands.counted, accepts_eq own]
  · exact written

theorem found (fresh : id ∉ done) : b.sessions.session? id = t.session? id := by
  cases known : t.session? id with
  | none => exact stands.unknown id known
  | some s =>
    refine stands.spared id s known fun held => fresh ?_
    exact Sessions.session?_id known ▸ (mem_audience.mp held).1

theorem visits (fresh : id ∉ done) :
    Visits serializers protocol value t b id (b.visit serializers protocol value id) := by
  unfold Broadcast.visit
  rw [stands.found fresh]
  cases known : t.session? id with
  | none => exact .silent (by simp [known])
  | some s =>
    cases silent : s.identities.isEmpty with
    | true =>
      simp only [silent, if_true]
      exact .silent (by simpa [known] using silent)
    | false =>
      have named : s.identities ≠ [] := by simpa using silent
      simp only [silent, Bool.false_eq_true, if_false]
      cases family : s.family with
      | internal =>
        dsimp only
        cases own : serializers.get s.serializeType with
        | error fault =>
          simp only [frame, own]
          exact .stop known named own
        | ok z =>
          rw [frame_eq own]
          refine .called known named ?_ stands.written
          rw [frameFor_internal family, frame_eq own]
      | external =>
        dsimp only
        rcases stands.written.write s.serializeType with
          ⟨z, bodies, own, kept, body⟩ | ⟨fault, unserved, body⟩
        · rw [body]
          refine .called known named ?_ kept
          rw [frameFor_external family, frame_eq own, family]
        · rw [body]
          exact .stop known named unserved

theorem visit (fresh : id ∉ done) (step : b.visit serializers protocol value id = .ok c) :
    Stands serializers protocol value t (done ++ [id]) c := by
  have visits := stands.visits fresh
  rw [step] at visits
  cases visits with
  | silent anonymous => exact stands.skip anonymous
  | called known named framed written => exact stands.offer fresh known named framed written

end Stands

theorem stands_walk {order : List SessionId} (once : order.Nodup)
    (walk : order.foldlM (visit serializers protocol value) { sessions := t } = .ok b) :
    Stands serializers protocol value t order b := by
  refine foldlM_ok (fun done b => Stands serializers protocol value t done b) ?_
    (List.nil_append _).symm stands_start walk
  rintro front id back b c rfl stands step
  exact stands.visit (fun held => (List.nodup_append.mp once).2.2 id held id List.mem_cons_self rfl)
    step

theorem exists_stands {order : List SessionId} (once : order.Nodup) {u : Sessions} {count : Nat}
    (sent : broadcast serializers t order protocol value = (u, .ok count)) :
    ∃ b, Stands serializers protocol value t order b ∧ u = b.sessions ∧ count = b.count := by
  cases push : protocol.isPush with
  | false =>
    simp only [broadcast, push, Bool.not_false, if_true] at sent
    cases sent
  | true =>
    simp only [broadcast, push, Bool.not_true, Bool.false_eq_true, if_false] at sent
    cases walk : order.foldlM (visit serializers protocol value) { sessions := t } with
    | error stop =>
      rw [walk] at sent
      cases sent
    | ok b =>
      rw [walk] at sent
      cases sent
      exact ⟨b, stands_walk once walk, rfl, rfl⟩

end Broadcast
end ClusterWire.Push
