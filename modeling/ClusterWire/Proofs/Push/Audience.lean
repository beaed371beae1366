import ClusterWire.Proofs.Push.Faults
import ClusterWire.Proofs.Push.Reports
import ClusterWire.Proofs.Transcoding

/-! Who gets a push to many, and what is read there. Where every session has a serializer, a push
comes through, and each session that takes messages gets one frame if an identity of the list is
bound to it. A client reads the payload; at the far end of a link the payload is read together
with the identities that it is for. -/
namespace ClusterWire

namespace PushEnvelope

theorem toJson_eq (e : PushEnvelope) :
    e.toJson = .object [("body", e.body), ("targets", .ofIdentities e.targets)] := rfl

theorem shape_toJson (e : PushEnvelope) : shape e.toJson = .ok e := by
  have targets : Json.Shape.list Json.Shape.int64 (.ofIdentities e.targets) = .ok e.targets :=
    Json.list_ofList Json.int64_ofInt64 e.targets
  have differ : ("targets" == "body") = false ∧ ("body" == "targets") = false := ⟨rfl, rfl⟩
  rw [toJson_eq]
  generalize Json.ofIdentities e.targets = v at targets
  simp [shape, Json.Shape.record, Json.Shape.recordWith, Json.Shape.checkGiven,
    Json.Shape.complete, Json.Shape.Field.required, Json.Shape.Field.optional, Json.Shape.any,
    targets, differ, List.lookup_cons, bind, Except.bind, Except.map, pure, Except.pure]

theorem floatFree_toJson {e : PushEnvelope} (free : e.body.FloatFree) : e.toJson.FloatFree := by
  rw [toJson_eq]
  apply Json.FloatFree.object
  simp only [List.forall_mem_cons]
  refine ⟨free, .array fun v held => ?_, by simp⟩
  obtain ⟨i, -, rfl⟩ := List.mem_map.mp held
  exact Json.floatFree_ofInt64 i

theorem orderly_toJson {e : PushEnvelope} (orderly : e.body.Orderly) : e.toJson.Orderly := by
  refine Json.orderly_ofFields ?_
  simp only [List.forall_mem_cons]
  refine ⟨.array fun v held => ?_, orderly, by simp⟩
  obtain ⟨i, -, rfl⟩ := List.mem_map.mp held
  exact Json.orderly_ofInt64 i

/-- An envelope is one level deeper than its body, and leaves room for its list. -/
theorem nested_toJson {e : PushEnvelope} {levels : Nat} (nested : e.body.Nested (levels + 1)) :
    e.toJson.Nested (levels + 2) := by
  rw [toJson_eq]
  apply Json.Nested.object
  simp only [List.forall_mem_cons]
  refine ⟨nested, .array fun v held => ?_, by simp⟩
  obtain ⟨i, -, rfl⟩ := List.mem_map.mp held
  exact Json.nested_ofInt64 levels i

theorem decodeAs_toJson (z : Serializer) {e : PushEnvelope} (portable : e.toJson.Portable) :
    z.decodeAs shape (z.encode e.toJson) = .ok e := by
  have body := (z.decode_encode portable.lawful).mpr portable.nested
  simp only [Serializer.decodeAs, body, bind, Except.bind, shape_toJson]
  rfl

end PushEnvelope

namespace Push

/-- The serializer of every session is known. -/
def Served (serializers : Serializers) (t : Sessions) : Prop :=
  ∀ s ∈ t.all, serializers.contains s.serializeType = true

/-- The frame of a push for a session, with what is read out of it: by a client the payload,
behind a link the payload and the identities that it is for. -/
structure Conveys (z : Serializer) (protocol : ProtocolId) (value : Json) (s : Session)
    (targets : List Int64) (m : Message) : Prop where
  kind : m.kind = .response
  sequence : m.sequence = 0
  protocol : m.protocol = protocol
  family : m.family = s.family
  bare : s.family = .external → z.decode m.body = .ok value
  envelope : s.family = .internal → z.decodeAs PushEnvelope.shape m.body = .ok ⟨targets, value⟩

variable {serializers : Serializers} {protocol : ProtocolId} {value : Json} {t : Sessions}

theorem get_of_served (served : Served serializers t) {id : SessionId} {s : Session}
    (known : t.session? id = some s) : ∃ z, serializers.get s.serializeType = .ok z := by
  obtain ⟨z, found⟩ := Option.isSome_iff_exists.mp (served s (List.mem_of_find?_eq_some known))
  exact ⟨z, by simp only [Serializers.get, found]⟩

/-- A push ends with a fault only where a session has no serializer. -/
theorem Halts.not_served {targets : Session → List Int64} {plan : List Session} {u : Sessions}
    {fault : PushFault} (halts : Halts serializers protocol value t targets plan u fault)
    (known : ∀ s ∈ plan, t.session? s.id = some s) : ¬ Served serializers t := by
  intro served
  obtain ⟨s, back, split, missing, -⟩ := halts.fault
  have held : s ∈ plan := by
    rw [split]
    simp
  rw [served s (List.mem_of_find?_eq_some (known s held))] at missing
  cases missing

theorem exists_report (served : Served serializers t) (push : protocol.isPush = true)
    (value : Json) (identities : List Int64) :
    ∃ u report, many serializers t identities protocol value = (u, .ok report) := by
  cases outcome : many serializers t identities protocol value with
  | mk u result =>
    cases result with
    | ok report => exact ⟨u, report, rfl⟩
    | error fault =>
      have halts := many_halts push outcome
      exact (halts.not_served (fun s held => session?_of_recipient held) served).elim

theorem exists_count (served : Served serializers t) (push : protocol.isPush = true) (value : Json)
    {order : List SessionId} (once : order.Nodup) :
    ∃ u count, broadcast serializers t order protocol value = (u, .ok count) := by
  cases outcome : broadcast serializers t order protocol value with
  | mk u result =>
    cases result with
    | ok count => exact ⟨u, count, rfl⟩
    | error fault =>
      have halts := broadcast_halts once push outcome
      exact (halts.not_served (fun s held => (mem_audience.mp held).2.1) served).elim

theorem conveys_frameFor {s : Session} {z : Serializer}
    (known : serializers.get s.serializeType = .ok z) (free : value.FloatFree)
    (orderly : value.Orderly) (nested : value.Nested 126) {targets : List Int64} {m : Message}
    (framed : frameFor serializers protocol value s targets = .ok m) :
    Conveys z protocol value s targets m := by
  cases family : s.family with
  | external =>
    rw [Fanout.frameFor_external family, frame_eq known] at framed
    cases framed
    exact {
      kind := rfl, sequence := rfl, protocol := rfl, family := rfl
      bare := fun _ => (z.decode_encode (free.lawful orderly)).mpr nested.succ
      envelope := fun internal => by rw [family] at internal; cases internal }
  | internal =>
    rw [Fanout.frameFor_internal family, frame_eq known] at framed
    cases framed
    have portable : (PushEnvelope.toJson ⟨targets, value⟩).Portable :=
      ⟨PushEnvelope.floatFree_toJson free, PushEnvelope.orderly_toJson orderly,
        PushEnvelope.nested_toJson nested⟩
    exact {
      kind := rfl, sequence := rfl, protocol := rfl, family := rfl
      bare := fun external => by rw [family] at external; cases external
      envelope := fun _ => PushEnvelope.decodeAs_toJson z portable }

/-- A push to many comes through if every session has a serializer. A session that takes messages
and that an identity of the list is bound to gets one frame: a response that answers nothing, of
the push's protocol and the session's family. A client reads the payload out of it; behind a link
the payload is read, and the identities of the list that are bound to the link, in the order of
the list and as often as they stand there. Every other session gets nothing. -/
theorem many_fans_out (served : Served serializers t) (push : protocol.isPush = true)
    (free : value.FloatFree) (orderly : value.Orderly) (nested : value.Nested 126)
    (identities : List Int64) :
    ∃ u report, many serializers t identities protocol value = (u, .ok report) ∧
      (∀ id, t.session? id = none → u.session? id = none) ∧
      ∀ id s, t.session? id = some s →
        (s.accepts = true ∧ (∃ i ∈ identities, t.resolve i = some id) →
          ∃ z m, serializers.get s.serializeType = .ok z ∧
            u.queueOf id = t.queueOf id ++ [m] ∧
            Conveys z protocol value s (identities.filter (t.resolve · == some id)) m) ∧
        (¬ (s.accepts = true ∧ ∃ i ∈ identities, t.resolve i = some id) →
          u.queueOf id = t.queueOf id) := by
  obtain ⟨u, report, sent⟩ := exists_report served push value identities
  refine ⟨u, report, sent, ?_, fun id s known => ⟨?_, ?_⟩⟩
  · obtain ⟨f, stands, rfl, -⟩ := exists_stands sent
    exact stands.unknown
  · rintro ⟨accepts, bound⟩
    obtain ⟨z, found⟩ := get_of_served served known
    obtain ⟨m, framed, there⟩ := (offered_once sent known).2 (exists_bound_iff.mp bound)
    refine ⟨z, m, found, ?_, conveys_frameFor found free orderly nested framed⟩
    simp only [Sessions.queueOf, known, there, Session.queue_send, accepts, if_true]
  · intro out
    by_cases bound : ∃ i ∈ identities, t.resolve i = some id
    · obtain ⟨m, -, there⟩ := (offered_once sent known).2 (exists_bound_iff.mp bound)
      have refuses : s.accepts = false := by simpa [bound] using out
      simp only [Sessions.queueOf, known, there, Session.queue_send, refuses, Bool.false_eq_true,
        if_false]
    · have there := (offered_once sent known).1 (by simpa using mt exists_bound_iff.mpr bound)
      simp only [Sessions.queueOf, known, there]

open Sessions (after)

/-- Two clients with identities, one of which closes its session, and a link with two more. -/
def lobby : List SessionEvent :=
  [.create (.loopback 5000) .external 0, .create (.loopback 5001) .internal 1,
    .create (.loopback 5002) .external 1, .bind 7 ⟨1⟩, .bind 9 ⟨1⟩, .bind 21 ⟨2⟩, .bind 22 ⟨2⟩,
    .bind 5 ⟨3⟩, .alter ⟨3⟩ (·.close)]

theorem many_fans_out_lobby : ∃ u report,
    many .standard (after lobby) [21, 7, 5, 22, 9, 23, 7, 21] ⟨30, -1⟩ (.string "raid") =
      (u, .ok report) ∧
    (∃ (z : Serializer) (m : Message), u.queueOf ⟨1⟩ = [m] ∧
      z.decode m.body = .ok (.string "raid")) ∧
    (∃ (z : Serializer) (m : Message), u.queueOf ⟨2⟩ = [m] ∧
      z.decodeAs PushEnvelope.shape m.body = .ok ⟨[21, 22, 21], .string "raid"⟩) ∧
    u.queueOf ⟨3⟩ = [] := by
  have served : Served .standard (after lobby) := by
    unfold Served
    decide
  have push : (⟨30, -1⟩ : ProtocolId).isPush = true := rfl
  obtain ⟨u, report, sent, -, offered⟩ := many_fans_out served push
    (.string "raid") (.string "raid") (.string 126 "raid") [21, 7, 5, 22, 9, 23, 7, 21]
  obtain ⟨z, m, -, queued, conveys⟩ := (offered ⟨1⟩ _ rfl).1 ⟨rfl, 7, by decide, rfl⟩
  obtain ⟨z', m', -, queued', conveys'⟩ := (offered ⟨2⟩ _ rfl).1 ⟨rfl, 21, by decide, rfl⟩
  exact ⟨u, report, sent, ⟨z, m, queued, conveys.bare rfl⟩,
    ⟨z', m', queued', conveys'.envelope rfl⟩, (offered ⟨3⟩ _ rfl).2 (by decide)⟩

end Push
end ClusterWire
