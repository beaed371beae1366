import ClusterWire.Proofs.Push.Audience
import ClusterWire.Proofs.Session.Roll
import ClusterWire.Proofs.Session.Teardown

/-! Pushes to everyone, and pushes to all identities that are bound. The one goes through the
sessions that are tracked, the other through the identities. They come to the same, since a session
that is tracked no longer is closed and takes nothing, whatever has been bound to it since. -/
namespace ClusterWire

theorem Session.send_of_closed {s : Session} (closed : s.closed = true) (m : Message) :
    s.send m = s := by
  have refuses : ¬ s.accepts = true := by simp [accepts, closed]
  rw [send, if_neg refuses, close, ← closed]

namespace Push

variable {serializers : Serializers} {protocol : ProtocolId} {value : Json} {t u : Sessions}
  {order : List SessionId} {count : Nat}

section Run

open Sessions (Run Lasting Roll)

variable {events : List SessionEvent} (run : Run events t) (lasting : Lasting events)
  (served : Served serializers t) (all : order.Perm t.tracked)
  (sent : broadcast serializers t order protocol value = (u, .ok count))
include run lasting served all sent

/-- Every session with an identity is offered a frame for all of them, as far as can be told: one
that is not tracked takes nothing anyway. -/
theorem broadcast_offers {id : SessionId} {s : Session} (known : t.session? id = some s) :
    (s.identities = [] → u.session? id = some s) ∧
    (s.identities ≠ [] → ∃ m, frameFor serializers protocol value s s.identities = .ok m ∧
      u.session? id = some (s.send m)) := by
  obtain ⟨b, stands, rfl, -⟩ :=
    Broadcast.exists_stands (all.nodup_iff.mpr (Sessions.nodup_tracked run)) sent
  have name := Sessions.session?_id known
  refine ⟨fun silent => stands.spared id s known fun held => (mem_audience.mp held).2.2 silent,
    fun named => ?_⟩
  by_cases listed : id ∈ order
  · rw [← name]
    exact stands.reached s (mem_audience.mpr ⟨name.symm ▸ listed, name.symm ▸ known, named⟩)
  · have closed := Sessions.closed_of_untracked run lasting known fun held =>
      listed (all.symm.subset held)
    obtain ⟨z, found⟩ := get_of_served served known
    obtain ⟨m, framed⟩ : ∃ m, frameFor serializers protocol value s s.identities = .ok m := by
      cases family : s.family with
      | external => exact ⟨_, by rw [Fanout.frameFor_external family, frame_eq found]⟩
      | internal => exact ⟨_, by rw [Fanout.frameFor_internal family, frame_eq found]⟩
    refine ⟨m, framed, ?_⟩
    rw [Session.send_of_closed closed]
    exact stands.spared id s known fun held => listed (name ▸ (mem_audience.mp held).1)

theorem queueOf_broadcast {id : SessionId} {s : Session} (known : t.session? id = some s) :
    (s.accepts = true → s.identities ≠ [] → ∃ m,
      frameFor serializers protocol value s s.identities = .ok m ∧
        u.queueOf id = t.queueOf id ++ [m]) ∧
    (¬ (s.accepts = true ∧ s.identities ≠ []) → u.queueOf id = t.queueOf id) := by
  obtain ⟨spared, offered⟩ := broadcast_offers run lasting served all sent known
  refine ⟨fun accepts named => ?_, fun out => ?_⟩
  · obtain ⟨m, framed, there⟩ := offered named
    exact ⟨m, framed, by simp [Sessions.queueOf, known, there, s.queue_send m, accepts]⟩
  · by_cases silent : s.identities = []
    · rw [Sessions.queueOf, spared silent, ← known]
      rfl
    · obtain ⟨m, -, there⟩ := offered silent
      have refuses : s.accepts = false := by simpa [silent] using out
      simp [Sessions.queueOf, known, there, s.queue_send m, refuses]

/-- The number that a push to everyone gives is that of the sessions that took the frame. -/
theorem count_broadcast :
    count = (t.ids.filter fun id => u.queueOf id ≠ t.queueOf id).length := by
  have once := all.nodup_iff.mpr (Sessions.nodup_tracked run)
  obtain ⟨b, stands, -, rfl⟩ := Broadcast.exists_stands once sent
  rw [stands.counted, List.countP_eq_length_filter, ← List.length_map (fun s : Session => s.id)]
  have fresh : (((audience t order).filter (·.accepts)).map (·.id)).Nodup :=
    once.sublist ((List.filter_sublist.map _).trans (ids_audience t order))
  refine ((List.perm_ext_iff_of_nodup fresh ((Sessions.nodup_ids run).filter _)).mpr
    fun id => ?_).length_eq
  rw [List.mem_map, List.mem_filter, decide_eq_true_iff]
  constructor
  · rintro ⟨s, held, rfl⟩
    obtain ⟨listed, accepts⟩ := List.mem_filter.mp held
    obtain ⟨-, known, named⟩ := mem_audience.mp listed
    obtain ⟨m, -, grown⟩ := (queueOf_broadcast run lasting served all sent known).1 accepts named
    exact ⟨Sessions.mem_ids known, by simp [grown]⟩
  · rintro ⟨opened, grown⟩
    obtain ⟨s, known⟩ := Option.isSome_iff_exists.mp (Sessions.isSome_session?_iff.mpr opened)
    have name := Sessions.session?_id known
    obtain ⟨accepts, named⟩ : s.accepts = true ∧ s.identities ≠ [] := by
      by_contra out
      exact grown ((queueOf_broadcast run lasting served all sent known).2 out)
    -- A session that takes messages is not closed, and so it is tracked.
    have listed : id ∈ order := by
      refine all.symm.subset ?_
      by_contra gone
      have closed := Sessions.closed_of_untracked run lasting known gone
      simp [Session.accepts, closed] at accepts
    exact ⟨s, List.mem_filter.mpr ⟨mem_audience.mpr ⟨name ▸ listed, name.symm ▸ known, named⟩,
      accepts⟩, name⟩

end Run

open Sessions (Run Lasting Roll roll_flatMap after)

/-- After any run in which no closed session opens again, and with a serializer for every session, a
push to everyone that goes through the tracked sessions in whatever order does what a push to many
does that lists every identity that is bound, those of one session in the order in which they
became bound. A session that takes messages and has identities gets one frame, for all of them in
that order; nothing else is sent, and the number that is given is that of the sessions that took the
frame. -/
theorem broadcast_reaches_all {events : List SessionEvent} (run : Run events t)
    (lasting : Lasting events) (served : Served serializers t) (push : protocol.isPush = true)
    (value : Json) (all : order.Perm t.tracked) {identities : List Int64}
    (roll : Roll events t identities) :
    ∃ u count v report, broadcast serializers t order protocol value = (u, .ok count) ∧
      many serializers t identities protocol value = (v, .ok report) ∧
      (∀ id, u.session? id = v.session? id) ∧
      (∀ id s, t.session? id = some s →
        (s.accepts = true → s.identities ≠ [] → ∃ m,
          frameFor serializers protocol value s s.identities = .ok m ∧
            u.queueOf id = t.queueOf id ++ [m]) ∧
        (¬ (s.accepts = true ∧ s.identities ≠ []) → u.queueOf id = t.queueOf id)) ∧
      count = (t.ids.filter fun id => u.queueOf id ≠ t.queueOf id).length := by
  have once := all.nodup_iff.mpr (Sessions.nodup_tracked run)
  obtain ⟨u, count, sent⟩ := exists_count served push value once
  obtain ⟨v, report, pushed⟩ := exists_report served push value identities
  refine ⟨u, count, v, report, sent, pushed, fun id => ?_,
    fun id s known => queueOf_broadcast run lasting served all sent known,
    count_broadcast run lasting served all sent⟩
  cases known : t.session? id with
  | none =>
    obtain ⟨b, stands, rfl, -⟩ := Broadcast.exists_stands once sent
    obtain ⟨f, also, rfl, -⟩ := exists_stands pushed
    rw [stands.unknown id known, also.unknown id known]
  | some s =>
    have listed : targetsOf t identities id = s.identities := by
      rw [targetsOf, roll.filter_eq run, Sessions.identitiesOf_eq known]
    obtain ⟨spared, offered⟩ := broadcast_offers run lasting served all sent known
    obtain ⟨also, reached⟩ := offered_once pushed known
    rw [listed] at also reached
    by_cases silent : s.identities = []
    · rw [spared silent, also silent]
    · obtain ⟨m, framed, there⟩ := offered silent
      obtain ⟨m', framed', there'⟩ := reached silent
      cases framed.symm.trans framed'
      rw [there, there']

/-- A link and two clients, with identities that are bound in turn. The second client is gone when
one more is bound to it. -/
def hall : List SessionEvent :=
  [.create (.loopback 5000) .internal 1, .create (.loopback 5001) .external 0,
    .create (.loopback 5002) .external 0, .bind 21 ⟨1⟩, .bind 7 ⟨2⟩, .bind 20 ⟨1⟩, .disconnect ⟨3⟩,
    .bind 9 ⟨3⟩]

theorem hall_run : Run hall (after hall) := by
  refine .step (.bind 9 ⟨3⟩) (.step (.disconnect ⟨3⟩) (.step (.bind 20 ⟨1⟩) (.step (.bind 7 ⟨2⟩)
    (.step (.bind 21 ⟨1⟩) (.step (.create (.loopback 5002) .external 0)
      (.step (.create (.loopback 5001) .external 0) (.step (.create (.loopback 5000) .internal 1)
        .start trivial) trivial) trivial) ?_) ?_) ?_) ?_) ?_ <;> rfl

theorem broadcast_reaches_all_hall : ∃ u count v report,
    broadcast .standard (after hall) [⟨2⟩, ⟨1⟩] ⟨30, -1⟩ .null = (u, .ok count) ∧
    many .standard (after hall) [9, 7, 21, 20] ⟨30, -1⟩ .null = (v, .ok report) ∧
    (∀ id, u.session? id = v.session? id) ∧
    (∃ m, u.queueOf ⟨1⟩ = [m]) ∧ u.queueOf ⟨3⟩ = [] := by
  have push : (⟨30, -1⟩ : ProtocolId).isPush = true := rfl
  have lasting : Lasting hall := by simp [Lasting, hall]
  have served : Served .standard (after hall) := by
    unfold Served
    decide
  have roll : Roll hall (after hall) ([⟨3⟩, ⟨2⟩, ⟨1⟩].flatMap (after hall).identitiesOf) := by
    refine roll_flatMap hall_run (by decide) fun id named => ?_
    obtain ⟨i, held⟩ := List.exists_mem_of_ne_nil _ named
    obtain ⟨s, known⟩ := Sessions.session_of_mem held
    exact (by decide : ∀ id ∈ (after hall).ids, id ∈ ([⟨3⟩, ⟨2⟩, ⟨1⟩] : List SessionId)) id
      (Sessions.mem_ids known)
  obtain ⟨u, count, v, report, sent, pushed, same, queues, -⟩ := broadcast_reaches_all hall_run
    lasting served push .null (by decide : [⟨2⟩, ⟨1⟩].Perm (after hall).tracked) roll
  obtain ⟨m, -, taken⟩ := (queues ⟨1⟩ _ rfl).1 rfl (by decide)
  exact ⟨u, count, v, report, sent, pushed, same, ⟨m, taken⟩, (queues ⟨3⟩ _ rfl).2 (by decide)⟩

end Push
end ClusterWire
