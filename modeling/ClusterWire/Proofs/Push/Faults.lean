import ClusterWire.Proofs.Invocation.Series
import ClusterWire.Proofs.Push.Broadcast
import Mathlib.Data.List.Basic

/-! Pushes that end with a fault. The one thing that can go wrong on the way is that the type of a
session has no serializer; the push ends there, and who came before has been offered a frame. Those
in front are told by the table before the push, for pushes to many and to everyone alike. -/
namespace ClusterWire

namespace Serializers

variable {serializers : Serializers} {type : UInt8}

theorem contains_of_get {z : Serializer} (known : serializers.get type = .ok z) :
    serializers.contains type = true := by
  unfold get at known
  split at known
  · rename_i found
    rw [contains, found]
    rfl
  · cases known

theorem get_error {fault : CodecFault} (unknown : serializers.get type = .error fault) :
    serializers.contains type = false ∧ fault = .unknownSerializer type := by
  unfold get at unknown
  split at unknown
  · cases unknown
  · rename_i missing
    cases unknown
    exact ⟨by rw [contains, missing]; rfl, rfl⟩

end Serializers

namespace Push

/-- The sessions that identities of a list are bound to, by the first such identity. -/
def holders (t : Sessions) (identities : List Int64) : List Session :=
  (identities.filterMap fun i => (t.resolve i).bind t.session?).eraseDups

/-- The sessions that a push to many is for, in its order: clients first, and then links. -/
def recipients (t : Sessions) (identities : List Int64) : List Session :=
  (holders t identities).filter (·.family == .external) ++
    (holders t identities).filter (·.family == .internal)

section Lists

variable {t : Sessions} {front : List Int64} {i : Int64} {s : Session}

theorem mem_holders : s ∈ holders t front ↔
    t.session? s.id = some s ∧ targetsOf t front s.id ≠ [] := by
  rw [holders, List.mem_eraseDups, List.mem_filterMap, ← exists_bound_iff]
  constructor
  · rintro ⟨i, listed, known⟩
    obtain ⟨bound, entry⟩ := Fanout.session_of_bind known
    exact ⟨entry, i, listed, bound⟩
  · rintro ⟨entry, i, listed, bound⟩
    exact ⟨i, listed, by rw [bound, Option.bind_some, entry]⟩

theorem holders_concat_none (unknown : (t.resolve i).bind t.session? = none) :
    holders t (front ++ [i]) = holders t front := by
  simp [holders, unknown]

/-- An identity brings up its session, if no identity in front has done so. -/
theorem holders_first (known : (t.resolve i).bind t.session? = some s)
    (first : targetsOf t front s.id = []) : holders t (front ++ [i]) = holders t front ++ [s] := by
  have fresh : ¬ ∃ i ∈ front, (t.resolve i).bind t.session? = some s := fun held =>
    (mem_holders.mp (List.mem_eraseDups.mpr (List.mem_filterMap.mpr held))).2 first
  rw [holders, List.filterMap_append, List.eraseDups_append]
  simp [known, List.removeAll, fresh, List.eraseDups_cons, holders]

theorem holders_again (known : (t.resolve i).bind t.session? = some s)
    (seen : targetsOf t front s.id ≠ []) : holders t (front ++ [i]) = holders t front := by
  have held : ∃ i ∈ front, (t.resolve i).bind t.session? = some s := List.mem_filterMap.mp
    (List.mem_eraseDups.mp (mem_holders.mpr ⟨(Fanout.session_of_bind known).2, seen⟩))
  rw [holders, List.filterMap_append, List.eraseDups_append]
  simp [known, List.removeAll, held, holders]

theorem holders_append (t : Sessions) (front back : List Int64) :
    ∃ more, holders t (front ++ back) = holders t front ++ more := by
  rw [holders, List.filterMap_append, List.eraseDups_append]
  exact ⟨_, rfl⟩

end Lists

/-- The sessions of a list in front of the first one whose type has no serializer. -/
def spoken (serializers : Serializers) (plan : List Session) : List Session :=
  plan.takeWhile (serializers.contains ·.serializeType)

/-- Where a push to the sessions of a plan ends with a fault: those in front of the first one without
a serializer have been offered their frame, and no other session has been touched. -/
structure Halts (serializers : Serializers) (protocol : ProtocolId) (value : Json) (t : Sessions)
    (targets : Session → List Int64) (plan : List Session) (u : Sessions) (fault : PushFault) :
    Prop where
  fault : ∃ s back, plan = spoken serializers plan ++ s :: back ∧
    serializers.contains s.serializeType = false ∧
    fault = .codec (.unknownSerializer s.serializeType)
  offered : ∀ s ∈ spoken serializers plan, ∃ m,
    frameFor serializers protocol value s (targets s) = .ok m ∧
      u.session? s.id = some (s.send m)
  spared : ∀ id, (∀ s ∈ spoken serializers plan, s.id ≠ id) → u.session? id = t.session? id

/-- No frame has come into the queue of any session. -/
def Quiet (t u : Sessions) : Prop := ∀ id, u.queueOf id = t.queueOf id

variable {serializers : Serializers} {protocol : ProtocolId} {value : Json} {t u : Sessions}
  {fault : PushFault}

theorem contains_of_frameFor {s : Session} {targets : List Int64} {m : Message}
    (framed : frameFor serializers protocol value s targets = .ok m) :
    serializers.contains s.serializeType = true := by
  cases own : serializers.get s.serializeType with
  | ok z => exact Serializers.contains_of_get own
  | error fault =>
    unfold frameFor frame at framed
    rw [own] at framed
    split at framed <;> cases framed

theorem spoken_eq {front : List Session} {s : Session} {e : CodecFault}
    (served : ∀ s ∈ front, serializers.contains s.serializeType = true)
    (unknown : serializers.get s.serializeType = .error e) (back : List Session) :
    spoken serializers (front ++ s :: back) = front := by
  rw [spoken, List.takeWhile_append_of_pos served, List.takeWhile_cons_of_neg, List.append_nil]
  simp [(Serializers.get_error unknown).1]

theorem halts_of_split {targets : Session → List Int64} {front back : List Session} {s : Session}
    {e : CodecFault} (unknown : serializers.get s.serializeType = .error e)
    (offered : ∀ s ∈ front, ∃ m, frameFor serializers protocol value s (targets s) = .ok m ∧
      u.session? s.id = some (s.send m))
    (spared : ∀ id, (∀ s ∈ front, s.id ≠ id) → u.session? id = t.session? id) :
    Halts serializers protocol value t targets (front ++ s :: back) u (.codec e) := by
  have served : ∀ s ∈ front, serializers.contains s.serializeType = true := fun s held => by
    obtain ⟨m, framed, -⟩ := offered s held
    exact contains_of_frameFor framed
  have reached := spoken_eq served unknown back
  obtain ⟨missing, rfl⟩ := Serializers.get_error unknown
  exact {
    fault := ⟨s, back, by rw [reached], missing, rfl⟩
    offered := by rwa [reached]
    spared := by rwa [reached] }

theorem Halts.quiet_iff {targets : Session → List Int64} {plan : List Session}
    (halts : Halts serializers protocol value t targets plan u fault)
    (known : ∀ s ∈ plan, t.session? s.id = some s) :
    Quiet t u ↔ ∀ s ∈ spoken serializers plan, s.accepts = false := by
  have queued : ∀ s ∈ spoken serializers plan, ∃ m, t.queueOf s.id = s.queue ∧
      u.queueOf s.id = if s.accepts then s.queue ++ [m] else s.queue := by
    intro s held
    obtain ⟨m, -, there⟩ := halts.offered s held
    have here := known s ((List.takeWhile_sublist _).subset held)
    exact ⟨m, by simp [Sessions.queueOf, here], by simp [Sessions.queueOf, there, s.queue_send m]⟩
  constructor
  · intro quiet s held
    obtain ⟨m, before, after⟩ := queued s held
    rw [quiet s.id, before] at after
    by_cases accepts : s.accepts = true
    · simp [accepts] at after
    · simpa using accepts
  · intro refuse id
    by_cases here : ∃ s ∈ spoken serializers plan, s.id = id
    · obtain ⟨s, held, rfl⟩ := here
      obtain ⟨m, before, after⟩ := queued s held
      rw [before, after, refuse s held]
      rfl
    · rw [Sessions.queueOf, halts.spared id fun s held same => here ⟨s, held, same⟩]
      rfl

/-! A push to everyone. -/

theorem broadcast_halts {order : List SessionId} (once : order.Nodup) (push : protocol.isPush = true)
    (failed : broadcast serializers t order protocol value = (u, .error fault)) :
    Halts serializers protocol value t (·.identities) (audience t order) u fault := by
  simp only [broadcast, push, Bool.not_true, Bool.false_eq_true, if_false] at failed
  cases walk : order.foldlM (Broadcast.visit serializers protocol value) { sessions := t } with
  | ok b =>
    rw [walk] at failed
    cases failed
  | error stop =>
    rw [walk] at failed
    cases failed
    obtain ⟨front, id, back, b, rfl, walked, stops⟩ := foldlM_error walk
    have stands := Broadcast.stands_walk (once.sublist (List.sublist_append_left _ _)) walked
    have visits := stands.visits fun held =>
      (List.nodup_append.mp once).2.2 id held id List.mem_cons_self rfl
    rw [stops] at visits
    cases visits with
    | stop known named unserved =>
      rw [audience_append, audience_cons known named]
      refine halts_of_split unserved stands.reached fun other apart => ?_
      cases there : t.session? other with
      | none => exact stands.unknown other there
      | some s =>
        exact stands.spared other s there fun held => apart s held (Sessions.session?_id there)

/-! A push to many. -/

/-- The links are collected in the order of the first identity behind them. -/
theorem links_visit {f g : Fanout} {i : Int64} {done : List Int64}
    (stands : f.Stands serializers protocol value t done [])
    (order : f.links.map (·.1) = ((holders t done).filter (·.family == .internal)).map (·.id))
    (step : f.visit serializers protocol value i = .ok g) :
    g.links.map (·.1) =
      ((holders t (done ++ [i])).filter (·.family == .internal)).map (·.id) := by
  have visits := stands.visits i
  rw [step] at visits
  cases visits with
  | unbound gone => rwa [holders_concat_none gone]
  | @link s known internal =>
    obtain ⟨-, entry⟩ := Fanout.session_of_bind known
    have collected := stands.mem_links entry internal
    rw [ids_addTarget]
    by_cases first : targetsOf t done s.id = []
    · rw [if_neg fun held => collected.mp held first, holders_first known first,
        List.filter_append, order]
      simp [internal]
    · rwa [if_pos (collected.mpr first), holders_again known first]
  | again known external seen =>
    obtain ⟨-, entry⟩ := Fanout.session_of_bind known
    rwa [holders_again known ((stands.offered _ _ entry external).mp seen)]
  | first known external fresh framed written =>
    obtain ⟨-, entry⟩ := Fanout.session_of_bind known
    have first := by simpa using mt (stands.offered _ _ entry external).mpr fresh
    rw [Fanout.offer_eq, holders_first known first, List.filter_append]
    simpa [external] using order

theorem links_walk {identities : List Int64} {f : Fanout}
    (walk : identities.foldlM (Fanout.visit serializers protocol value) { sessions := t } = .ok f) :
    f.links.map (·.1) =
      ((holders t identities).filter (·.family == .internal)).map (·.id) := by
  refine (foldlM_ok (fun done f => Fanout.Stands serializers protocol value t done [] f ∧
    f.links.map (·.1) = ((holders t done).filter (·.family == .internal)).map (·.id)) ?_
    (List.nil_append _).symm ⟨Fanout.stands_start, rfl⟩ walk).2
  rintro front i back f g - ⟨stands, order⟩ step
  exact ⟨stands.visit step, links_visit stands order step⟩

/-- The sessions that have been offered a frame stand in front of the one where a walk stops. -/
theorem halts_of_stands {f : Fanout} {done : List Int64} {visited : List SessionId}
    (stands : f.Stands serializers protocol value t done visited) {targets : Session → List Int64}
    {front : List Session} {s : Session} {e : CodecFault}
    (unserved : serializers.get s.serializeType = .error e)
    (offered : ∀ s, s ∈ front ↔ t.session? s.id = some s ∧ isOffered t done visited s = true)
    (same : ∀ s ∈ front, frameFor serializers protocol value s (targets s) =
      frameFor serializers protocol value s (targetsOf t done s.id)) (back : List Session) :
    Halts serializers protocol value t targets (front ++ s :: back) f.sessions (.codec e) := by
  refine halts_of_split unserved (fun s held => ?_) fun id apart => ?_
  · obtain ⟨known, reached⟩ := (offered s).mp held
    rw [same s held]
    exact stands.reached s.id s known reached
  · cases known : t.session? id with
    | none => exact stands.unknown id known
    | some s =>
      have name := Sessions.session?_id known
      refine stands.spared id s known (Bool.eq_false_iff.mpr fun reached => ?_)
      exact apart s ((offered s).mpr ⟨name.symm ▸ known, reached⟩) name

theorem mem_clients {identities : List Int64} {s : Session} :
    s ∈ (holders t identities).filter (·.family == .external) ↔
      t.session? s.id = some s ∧ s.family = .external ∧ targetsOf t identities s.id ≠ [] := by
  rw [List.mem_filter, mem_holders, beq_iff_eq]
  tauto

theorem mem_linked {identities : List Int64} {s : Session} :
    s ∈ (holders t identities).filter (·.family == .internal) ↔
      t.session? s.id = some s ∧ s.family = .internal ∧ targetsOf t identities s.id ≠ [] := by
  rw [List.mem_filter, mem_holders, beq_iff_eq]
  tauto

theorem session?_of_recipient {identities : List Int64} {s : Session}
    (held : s ∈ recipients t identities) : t.session? s.id = some s := by
  rcases List.mem_append.mp held with client | linked
  · exact (mem_clients.mp client).1
  · exact (mem_linked.mp linked).1

/-- The walk over the identities stops at a client. -/
theorem halts_visit {front back : List Int64} {i : Int64} {f g : Fanout}
    (stands : f.Stands serializers protocol value t front [])
    (stops : f.visit serializers protocol value i = .error (fault, g)) :
    Halts serializers protocol value t (fun s => targetsOf t (front ++ i :: back) s.id)
      (recipients t (front ++ i :: back)) g.sessions fault := by
  have visits := stands.visits i
  rw [stops] at visits
  cases visits with
  | @stop s e known external fresh unserved =>
    obtain ⟨-, entry⟩ := Fanout.session_of_bind known
    have first := by simpa using mt (stands.offered _ _ entry external).mpr fresh
    obtain ⟨more, longer⟩ := holders_append t (front ++ [i]) back
    rw [holders_first known first, List.append_assoc, List.append_assoc] at longer
    have plan : recipients t (front ++ i :: back) =
        (holders t front).filter (·.family == .external) ++ s ::
          (more.filter (·.family == .external) ++
            (holders t (front ++ i :: back)).filter (·.family == .internal)) := by
      change holders t (front ++ i :: back) = holders t front ++ s :: more at longer
      rw [recipients, longer]
      simp [external]
    rw [plan]
    refine halts_of_stands stands unserved (fun s => ?_) (fun s held => ?_) _
    · rw [mem_clients]
      cases family : s.family <;> simp [isOffered, family]
    · have client := (mem_clients.mp held).2.1
      rw [Fanout.frameFor_external client, Fanout.frameFor_external client]

/-- The walk over the links stops at a link. -/
theorem halts_tour {identities : List Int64} {front back : List (SessionId × List Int64)}
    {link : SessionId × List Int64} {f g h : Fanout}
    (walked : f.Stands serializers protocol value t identities [])
    (order : f.links.map (·.1) = ((holders t identities).filter (·.family == .internal)).map (·.id))
    (split : f.links = front ++ link :: back)
    (toured : front.foldlM (Fanout.visitLink serializers protocol value) f = .ok g)
    (stops : g.visitLink serializers protocol value link = .error (fault, h)) :
    Halts serializers protocol value t (fun s => targetsOf t identities s.id)
      (recipients t identities) h.sessions fault := by
  obtain ⟨stands, -⟩ := Fanout.stands_tour_front walked split toured
  rw [split, List.map_append, List.map_cons] at order
  obtain ⟨before, rest, plan, seen, others⟩ := List.map_eq_append_iff.mp order.symm
  obtain ⟨s, behind, rfl, name, -⟩ := List.map_eq_cons_iff.mp others
  have linked : ∀ u, u ∈ before ++ s :: behind ↔
      t.session? u.id = some u ∧ u.family = .internal ∧ targetsOf t identities u.id ≠ [] := by
    intro u
    rw [← plan]
    exact mem_linked
  obtain ⟨entry, internal, bound⟩ := (linked s).mp (by simp)
  have fresh : s.id ∉ front.map (·.1) := by
    have distinct := walked.distinct
    rw [split, List.map_append, List.map_cons, ← name] at distinct
    exact fun held => (List.nodup_append.mp distinct).2.2 s.id held s.id List.mem_cons_self rfl
  have own : g.sessions.session? s.id = some s :=
    stands.spared s.id s entry (by simpa [isOffered, internal] using fresh)
  unfold Fanout.visitLink at stops
  rw [← name, own] at stops
  dsimp only at stops
  cases known : serializers.get s.serializeType with
  | ok z =>
    rw [frame_eq known] at stops
    cases stops
  | error e =>
    simp only [frame, known] at stops
    cases stops
    rw [recipients, plan, ← List.append_assoc]
    refine halts_of_stands stands known (fun u => ?_) (fun _ _ => rfl) _
    have passed : u ∈ before ↔
        t.session? u.id = some u ∧ u.family = .internal ∧ u.id ∈ front.map (·.1) := by
      rw [← seen]
      constructor
      · intro held
        obtain ⟨entry, internal, -⟩ := (linked u).mp (List.mem_append_left _ held)
        exact ⟨entry, internal, List.mem_map.mpr ⟨u, held, rfl⟩⟩
      · rintro ⟨entry, -, listed⟩
        obtain ⟨w, held, same⟩ := List.mem_map.mp listed
        have known := ((linked w).mp (List.mem_append_left _ held)).1
        rw [same, entry] at known
        cases known
        exact held
    rw [List.mem_append, mem_clients, passed]
    cases family : u.family <;> simp [isOffered, family]

theorem many_halts {identities : List Int64} (push : protocol.isPush = true)
    (failed : many serializers t identities protocol value = (u, .error fault)) :
    Halts serializers protocol value t (fun s => targetsOf t identities s.id)
      (recipients t identities) u fault := by
  simp only [many, push, Bool.not_true, Bool.false_eq_true, if_false, bind, Except.bind] at failed
  cases walk : identities.foldlM (Fanout.visit serializers protocol value) { sessions := t } with
  | error stop =>
    rw [walk] at failed
    cases failed
    obtain ⟨front, i, back, f, rfl, walked, stops⟩ := foldlM_error walk
    exact halts_visit (Fanout.stands_walk walked) stops
  | ok f =>
    rw [walk] at failed
    dsimp only at failed
    cases tour : f.links.foldlM (Fanout.visitLink serializers protocol value) f with
    | ok g =>
      rw [tour] at failed
      cases failed
    | error stop =>
      rw [tour] at failed
      cases failed
      obtain ⟨front, link, back, g, split, toured, stops⟩ := foldlM_error tour
      exact halts_tour (Fanout.stands_walk walk) (links_walk walk) split toured stops

/-- A push that ends with a fault has offered a frame to the sessions in front of the first one
without a serializer, and touched no other: a push to many goes to the clients, by the first
identity of the list that is bound to each, and then to the links likewise; a push to everyone to
the sessions with an identity, in whatever order they are listed in, each once. So it has sent nothing
if and only if none of those in front takes messages. A push under a protocol that is not for pushes
leaves everything as it is. -/
theorem failed_push_quiet_iff {order : List SessionId} (once : order.Nodup)
    (identities : List Int64) :
    (∀ u fault, many serializers t identities protocol value = (u, .error fault) →
      if protocol.isPush then
        Halts serializers protocol value t (fun s => targetsOf t identities s.id)
            (recipients t identities) u fault ∧
          (Quiet t u ↔ ∀ s ∈ spoken serializers (recipients t identities), s.accepts = false)
      else u = t) ∧
    ∀ u fault, broadcast serializers t order protocol value = (u, .error fault) →
      if protocol.isPush then
        Halts serializers protocol value t (·.identities) (audience t order) u fault ∧
          (Quiet t u ↔ ∀ s ∈ spoken serializers (audience t order), s.accepts = false)
      else u = t := by
  cases push : protocol.isPush with
  | false =>
    refine ⟨fun u fault failed => ?_, fun u fault failed => ?_⟩
    · simp only [many, push, Bool.not_false, if_true] at failed
      cases failed
      rfl
    · simp only [broadcast, push, Bool.not_false, if_true] at failed
      cases failed
      rfl
  | true =>
    refine ⟨fun u fault failed => ?_, fun u fault failed => ?_⟩
    · have halts := many_halts push failed
      exact ⟨halts, halts.quiet_iff fun s held => session?_of_recipient held⟩
    · have halts := broadcast_halts once push failed
      exact ⟨halts, halts.quiet_iff fun s held => (mem_audience.mp held).2.1⟩

open Sessions (Run after)

/-- Two clients, the second of which has a type that no serializer is known for. -/
def mixed : List SessionEvent :=
  [.create (.loopback 5000) .external 0, .create (.loopback 5001) .external 7, .bind 10 ⟨1⟩,
    .bind 9 ⟨2⟩]

/-- With the second client in front nothing is sent. -/
theorem failed_push_quiet_iff_mixed : ∃ u fault,
    many .standard (after mixed) [9, 10] ⟨30, -1⟩ .null = (u, .error fault) ∧
    Quiet (after mixed) u := by
  have failed : many .standard (after mixed) [9, 10] ⟨30, -1⟩ .null =
      (after mixed, .error (.codec (.unknownSerializer 7))) := rfl
  have once : ([⟨2⟩, ⟨1⟩] : List SessionId).Nodup := by decide
  obtain ⟨-, quiet⟩ := (failed_push_quiet_iff once [9, 10]).1 _ _ failed
  exact ⟨_, _, failed, quiet.mpr (by decide)⟩

theorem mixed_run : Run mixed (after mixed) := by
  refine .step (.bind 9 ⟨2⟩) (.step (.bind 10 ⟨1⟩) (.step (.create (.loopback 5001) .external 7)
    (.step (.create (.loopback 5000) .external 0) .start trivial) trivial) ?_) ?_ <;> rfl

/-- With the first client in front, it has the push, and whoever pushed has a fault. -/
theorem failed_push_heard : Run mixed (after mixed) ∧
    (∃ u, many .standard (after mixed) [10, 9] ⟨30, -1⟩ .null =
        (u, .error (.codec (.unknownSerializer 7))) ∧ (u.queueOf ⟨1⟩).length = 1) ∧
    ∃ u, broadcast .standard (after mixed) (after mixed).tracked ⟨30, -1⟩ .null =
        (u, .error (.codec (.unknownSerializer 7))) ∧ (u.queueOf ⟨1⟩).length = 1 :=
  ⟨mixed_run, ⟨_, rfl, rfl⟩, _, rfl, rfl⟩

end Push
end ClusterWire
