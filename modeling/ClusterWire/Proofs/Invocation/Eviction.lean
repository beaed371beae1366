import ClusterWire.Proofs.Codec
import ClusterWire.Proofs.Invocation.History
import ClusterWire.Proofs.Invocation.Series
import Mathlib.Data.List.Basic

/-! Eviction of the calls that have expired. Their numbers are collected first, and then gone
through in the order that the table happens to give them; a number counts if the call that is out
under it has expired still. How each call ends is told by the table and the sessions before the
eviction, so that no order is seen in what is left, and two evictions leave what the later one
leaves alone. -/
namespace ClusterWire

namespace Session

theorem sends_of_accepts {s : Session} (accepts : s.accepts = true) (ms : List Message) :
    ms.foldl send s = { s with queue := s.queue ++ ms } := by
  induction ms generalizing s with
  | nil => simp
  | cons m rest ih =>
    have first : s.send m = { s with queue := s.queue ++ [m] } := if_pos accepts
    rw [List.foldl_cons, first]
    refine (ih (s := { s with queue := s.queue ++ [m] }) accepts).trans ?_
    rw [List.append_assoc]
    rfl

theorem sends_of_refuses {s : Session} (refuses : s.accepts = false) (ms : List Message) :
    ms.foldl send s = if ms = [] then s else s.close := by
  induction ms generalizing s with
  | nil => rfl
  | cons m rest ih =>
    have first : s.send m = s.close := if_neg (by simp [refuses])
    rw [List.foldl_cons, first, ih s.accepts_close, if_neg (List.cons_ne_nil m rest)]
    exact ite_self _

end Session

namespace Sessions

/-- Tables that differ at most in the order of what waits in the queues. -/
structure Alike (t u : Sessions) : Prop where
  tracked : t.tracked = u.tracked
  bound : t.bound = u.bound
  session : ∀ id, (t.session? id).map ({ · with queue := [] }) =
    (u.session? id).map ({ · with queue := [] })
  queue : ∀ id, (t.queueOf id).Perm (u.queueOf id)

end Sessions

namespace Ending

variable {t : Sessions} {id : SessionId}

theorem session?_tell (t : Sessions) (id : SessionId) (ending : Ending) :
    (ending.tell t).session? id =
      (t.session? id).map fun s => (ending.frameFor? id).toList.foldl Session.send s := by
  cases ending with
  | filled | silent => simp [tell, frameFor?]
  | sent other m =>
    rw [tell, Sessions.send, Sessions.session?_modify t other id fun s => s.id_send m]
    cases known : t.session? id with
    | none => rfl
    | some s =>
      have name := Sessions.session?_id known
      by_cases own : other = id
      · simp [frameFor?, own, name]
      · simp [frameFor?, own, name, Ne.symm own]

/-- A session is offered the frames that are sent to it, in their order. -/
theorem session?_tells (ended : List Ended) (t : Sessions) (id : SessionId) :
    (ended.foldl (fun t x => x.ending.tell t) t).session? id =
      (t.session? id).map fun s =>
        (ended.filterMap (·.ending.frameFor? id)).foldl Session.send s := by
  induction ended generalizing t with
  | nil => simp
  | cons x rest ih =>
    rw [List.foldl_cons, ih, session?_tell, Option.map_map]
    congr 1
    funext s
    cases told : x.ending.frameFor? id <;> simp [told]

theorem bindings_tells (ended : List Ended) (t : Sessions) :
    (ended.foldl (fun t x => x.ending.tell t) t).tracked = t.tracked ∧
      (ended.foldl (fun t x => x.ending.tell t) t).bound = t.bound := by
  induction ended generalizing t with
  | nil => exact ⟨rfl, rfl⟩
  | cons x rest ih =>
    rw [List.foldl_cons, (ih _).1, (ih _).2]
    cases x.ending <;> exact ⟨rfl, rfl⟩

/-- The order in which ends are told is seen in the order of the queues only. -/
theorem alike_tells {ended others : List Ended} (same : ended.Perm others) (t : Sessions) :
    Sessions.Alike (ended.foldl (fun t x => x.ending.tell t) t)
      (others.foldl (fun t x => x.ending.tell t) t) := by
  have frames := fun id => same.filterMap (·.ending.frameFor? id)
  refine {
    tracked := (bindings_tells ended t).1.trans (bindings_tells others t).1.symm
    bound := (bindings_tells ended t).2.trans (bindings_tells others t).2.symm
    session := fun id => ?_
    queue := fun id => ?_ }
  · rw [session?_tells, session?_tells, Option.map_map, Option.map_map]
    congr 1
    funext s
    have empty : ended.filterMap (·.ending.frameFor? id) = [] ↔
        others.filterMap (·.ending.frameFor? id) = [] := by
      rw [← List.length_eq_zero_iff, (frames id).length_eq, List.length_eq_zero_iff]
    cases accepts : s.accepts with
    | true => simp [Session.sends_of_accepts accepts]
    | false =>
      simp only [Function.comp, Session.sends_of_refuses accepts, empty]
  · simp only [Sessions.queueOf, session?_tells]
    cases t.session? id with
    | none => exact .nil
    | some s =>
      cases accepts : s.accepts with
      | true =>
        simp only [Option.map_some, Session.sends_of_accepts accepts]
        exact (frames id).append_left _
      | false =>
        simp only [Option.map_some, Session.sends_of_refuses accepts]
        split <;> split <;> exact .refl _

end Ending

namespace Invocation

/-- The call was relayed for a caller on the session who waits for its end. -/
def relayedTo (i : Invocation) (id : SessionId) : Bool :=
  i.completion == .forward id && i.parent != 0

/-- What such a caller is sent as the call times out. -/
def notice (i : Invocation) (z : Serializer) (family : Family) : Message :=
  errorFrame z family i.parent i.timeoutFault.response

variable {serializers : Serializers} {t : Sessions}

theorem fill?_failed (i : Invocation) (fault : RpcFault) :
    (i.failed serializers t fault).fill? = i.slot?.map fun slot => (slot, .error fault) := by
  unfold failed slot?
  cases i.completion with
  | waiter slot => rfl
  | forward replyTo => cases told : i.caller? serializers t replyTo <;> simp [told, Ending.fill?]

theorem frameFor?_failed (i : Invocation) (fault : RpcFault) (id : SessionId) :
    (i.failed serializers t fault).frameFor? id =
      if i.relayedTo id then
        (t.session? id).bind fun s => (serializers.find? s.serializeType).map fun z =>
          errorFrame z s.family i.parent fault.response
      else none := by
  unfold failed relayedTo
  cases i.completion with
  | waiter slot => rfl
  | forward replyTo =>
    by_cases silent : i.parent = 0
    · simp [caller?, silent, Ending.frameFor?]
    · by_cases own : replyTo = id
      · subst own
        cases known : t.session? replyTo with
        | none => simp [caller?, silent, known, Ending.frameFor?]
        | some s =>
          cases found : serializers.find? s.serializeType <;>
            simp [caller?, silent, known, found, Ending.frameFor?]
      · cases told : i.caller? serializers t replyTo <;> simp [told, Ending.frameFor?, own]

end Invocation

namespace Invocations

theorem result?_of_mem {t : Invocations} (once : (t.results.map (·.1)).Nodup) {slot : Nat}
    {result : Except RpcFault Message} (held : (slot, result) ∈ t.results) :
    t.result? slot = some result := by
  obtain ⟨front, back, split⟩ := List.append_of_mem held
  refine List.lookup_eq_some_iff.mpr ⟨front, back, split, fun entry before => ?_⟩
  rw [split, List.map_append, List.map_cons] at once
  rw [bne_iff_ne]
  intro same
  exact (List.nodup_append.mp once).2.2 entry.1 (List.mem_map.mpr ⟨entry, before, rfl⟩) slot
    List.mem_cons_self same.symm

end Invocations

namespace Desk

variable (serializers : Serializers)

def expired (d : Desk) (now : Instant) : List Invocation := d.calls.pending.filter (·.deadline ≤ now)

/-- Goes through numbers, and ends the calls that are out under them and have expired; counts
these. -/
def sweep (now : Instant) : Desk → List Int64 → Desk × Nat
  | d, [] => (d, 0)
  | d, n :: rest =>
    match (d.calls.find? n).filter (·.deadline ≤ now) with
    | none => sweep now d rest
    | some i =>
      let (e, count) := sweep now (d.fail serializers n i.timeoutFault).1 rest
      (e, count + 1)

/-- An eviction goes through the numbers of the calls that have expired, in any order. -/
def Evicts (d : Desk) (now : Instant) (e : Desk) (count : Nat) : Prop :=
  ∃ order : List Int64, order.Perm ((d.expired now).map (·.sequence)) ∧
    d.sweep serializers now order = (e, count)

/-- The end of a call at its deadline. -/
def timesOut (d : Desk) (i : Invocation) : Ended := ⟨i, i.failed serializers d.sessions i.timeoutFault⟩

variable {d : Desk} {now : Instant} {gone : List Invocation}

theorem failed_expire (d : Desk) (gone : List Invocation) (i : Invocation) (fault : RpcFault) :
    i.failed serializers (d.expire serializers gone).sessions fault =
      i.failed serializers d.sessions fault := by
  induction gone generalizing d with
  | nil => rfl
  | cons j rest ih => exact (ih _).trans (d.failed_fail serializers i j.sequence j.timeoutFault fault)

theorem pending_expire (d : Desk) (gone : List Invocation) :
    (d.expire serializers gone).calls.pending =
      d.calls.pending.filter fun i => !(gone.map (·.sequence)).contains i.sequence := by
  induction gone generalizing d with
  | nil => exact (List.filter_eq_self.mpr fun _ _ => rfl).symm
  | cons j rest ih =>
    have erased : (d.fail serializers j.sequence j.timeoutFault).1.calls.pending =
        d.calls.pending.filter (·.sequence != j.sequence) := d.finish_pending j.sequence _
    rw [expire, ih, erased, List.filter_filter]
    refine List.filter_congr fun i _ => ?_
    rw [List.map_cons, List.contains_cons, Bool.not_or, Bool.and_comm]
    rfl

/-- Calls that are out, each listed once. -/
structure Distinct (d : Desk) (gone : List Invocation) : Prop where
  out : ∀ i ∈ gone, i ∈ d.calls.pending
  once : (gone.map (·.sequence)).Nodup

theorem Distinct.tail {i : Invocation} (distinct : d.Distinct (i :: gone)) (fault : RpcFault) :
    (d.fail serializers i.sequence fault).1.Distinct gone := by
  obtain ⟨fresh, once⟩ := List.nodup_cons.mp distinct.once
  refine ⟨fun j held => ?_, once⟩
  refine mem_finish (distinct.out j (List.mem_cons_of_mem i held)) (fun same => fresh ?_) _
  exact List.mem_map.mpr ⟨j, held, same.symm⟩

theorem expireEnds_eq (unique : d.calls.Unique) (distinct : d.Distinct gone) :
    d.expireEnds serializers gone = gone.map (d.timesOut serializers) := by
  induction gone generalizing d with
  | nil => rfl
  | cons i rest ih =>
    have here := Invocations.find?_of_mem unique (distinct.out i List.mem_cons_self)
    have later := ih (fail_moves serializers unique i.sequence i.timeoutFault).unique
      (distinct.tail serializers i.timeoutFault)
    rw [expireEnds, later, endsOf, here]
    refine congrArg _ (List.map_congr_left fun j _ => ?_)
    rw [timesOut, d.failed_fail serializers j i.sequence i.timeoutFault]
    rfl

/-- A sweep over numbers of calls that have expired ends these calls in that order. -/
theorem sweep_eq_expire (unique : d.calls.Unique) (distinct : d.Distinct gone)
    (late : ∀ i ∈ gone, i.deadline ≤ now) :
    d.sweep serializers now (gone.map (·.sequence)) =
      (d.expire serializers gone, gone.length) := by
  induction gone generalizing d with
  | nil => rfl
  | cons i rest ih =>
    obtain ⟨own, others⟩ := List.forall_mem_cons.mp late
    have here : (d.calls.find? i.sequence).filter (·.deadline ≤ now) = some i := by
      rw [Invocations.find?_of_mem unique (distinct.out i List.mem_cons_self)]
      simp [own]
    have later := ih (fail_moves serializers unique i.sequence i.timeoutFault).unique
      (distinct.tail serializers i.timeoutFault) others
    rw [List.map_cons, sweep, here]
    dsimp only
    rw [later]
    rfl

theorem mem_expired {i : Invocation} : i ∈ d.expired now ↔ i ∈ d.calls.pending ∧ i.deadline ≤ now := by
  simp [expired]

theorem distinct_expired (unique : d.calls.Unique) (now : Instant) : d.Distinct (d.expired now) where
  out _ held := (mem_expired.mp held).1
  once := unique.sublist (List.filter_sublist.map _)

theorem Distinct.of_perm {others : List Invocation} (distinct : d.Distinct others)
    (same : gone.Perm others) : d.Distinct gone where
  out i held := distinct.out i (same.subset held)
  once := (same.map _).nodup_iff.mpr distinct.once

/-- An eviction ends the calls that have expired, in some order. -/
theorem evicts_iff (unique : d.calls.Unique) {e : Desk} {count : Nat} :
    d.Evicts serializers now e count ↔
      ∃ gone : List Invocation, gone.Perm (d.expired now) ∧ e = d.expire serializers gone ∧
        count = gone.length := by
  have found : ∀ i ∈ d.expired now, d.calls.find? i.sequence = some i :=
    fun i held => Invocations.find?_of_mem unique (mem_expired.mp held).1
  have swept : ∀ gone : List Invocation, gone.Perm (d.expired now) →
      d.sweep serializers now (gone.map (·.sequence)) = (d.expire serializers gone, gone.length) :=
    fun gone same => sweep_eq_expire serializers unique ((distinct_expired unique now).of_perm same)
      fun i held => (mem_expired.mp (same.subset held)).2
  constructor
  · rintro ⟨order, same, ended⟩
    -- The calls come in the order of their numbers.
    have numbers : (order.filterMap d.calls.find?).map (·.sequence) = order := by
      have own : ∀ n ∈ order, (d.calls.find? n).map (·.sequence) = some (id n) := by
        intro n held
        obtain ⟨i, expired, rfl⟩ := List.mem_map.mp (same.subset held)
        rw [found i expired]
        rfl
      rw [List.map_filterMap, List.filterMap_eq_map_iff_forall_eq_some.mpr own, List.map_id]
    have calls : (order.filterMap d.calls.find?).Perm (d.expired now) := by
      refine (same.filterMap d.calls.find?).trans (.of_eq ?_)
      rw [List.filterMap_map]
      exact (List.filterMap_eq_map_iff_forall_eq_some.mpr found).trans (List.map_id _)
    have outcome := swept _ calls
    rw [numbers, ended] at outcome
    cases outcome
    exact ⟨_, calls, rfl, rfl⟩
  · rintro ⟨gone, same, rfl, rfl⟩
    exact ⟨_, same.map _, swept gone same⟩

theorem moves_expire (unique : d.calls.Unique) (distinct : d.Distinct gone) :
    Moves d [] (gone.map (d.timesOut serializers)) (d.expire serializers gone) := by
  rw [← expireEnds_eq serializers unique distinct]
  exact expire_moves serializers unique gone

/-- What an eviction leaves and tells: the calls that have not expired are out, as they were. Every
waiter of one that has gets the timeout of its own call, the caller of every relayed one a notice
under the number of its own request, if its session takes messages and has a serializer, and
nobody else hears of anything. -/
structure Exact (d : Desk) (now : Instant) (e : Desk) (count : Nat) : Prop where
  left : e.calls.pending = d.calls.pending.filter (now < ·.deadline)
  last : e.calls.lastSequence = d.calls.lastSequence
  counted : count = (d.expired now).length
  faults : ∃ faults, e.calls.results = d.calls.results ++ faults ∧
    faults.Perm ((d.expired now).filterMap fun i =>
      i.slot?.map fun slot => (slot, .error (.timeout i.protocol i.sequence i.timeout)))
  heard : ∀ i ∈ d.calls.pending, i.deadline ≤ now → ∀ slot, i.completion = .waiter slot →
    e.calls.result? slot = some (.error (.timeout i.protocol i.sequence i.timeout))
  frames : ∀ id s z, d.sessions.session? id = some s → s.accepts = true →
    serializers.find? s.serializeType = some z →
    ∃ frames, e.sessions.session? id = some { s with queue := s.queue ++ frames } ∧
      frames.Perm (((d.expired now).filter (·.relayedTo id)).map (·.notice z s.family))
  quiet : ∀ id, ¬ d.sessions.Open serializers id → e.sessions.queueOf id = d.sessions.queueOf id

/-- What a session is sent as calls time out. -/
def notices (s : Session) (gone : List Invocation) : List Message :=
  match serializers.find? s.serializeType with
  | some z => (gone.filter (·.relayedTo s.id)).map (·.notice z s.family)
  | none => []

theorem frames_timesOut {id : SessionId} {s : Session} (known : d.sessions.session? id = some s)
    (gone : List Invocation) :
    (gone.map (d.timesOut serializers)).filterMap (·.ending.frameFor? id) =
      notices serializers s gone := by
  have name := Sessions.session?_id known
  have each : ∀ i : Invocation, (i.failed serializers d.sessions i.timeoutFault).frameFor? id = _ :=
    fun i => i.frameFor?_failed i.timeoutFault id
  rw [List.filterMap_map, notices, name]
  cases found : serializers.find? s.serializeType with
  | none => simp [Function.comp_def, timesOut, each, known, found]
  | some z =>
    dsimp only
    rw [← List.filterMap_eq_map, List.filterMap_filter]
    simp [Function.comp_def, timesOut, each, known, found, Invocation.notice]

theorem fills_timesOut (gone : List Invocation) :
    (gone.map (d.timesOut serializers)).filterMap (·.ending.fill?) =
      gone.filterMap fun i => i.slot?.map fun slot => (slot, .error i.timeoutFault) := by
  rw [List.filterMap_map]
  congr 1
  funext i
  exact i.fill?_failed i.timeoutFault

theorem left_expire (unique : d.calls.Unique) (same : gone.Perm (d.expired now)) :
    (d.expire serializers gone).calls.pending = d.calls.pending.filter (now < ·.deadline) := by
  rw [pending_expire]
  refine List.filter_congr fun i out => ?_
  have due : (gone.map (·.sequence)).contains i.sequence = decide (i.deadline ≤ now) := by
    rw [Bool.eq_iff_iff, List.contains_iff_mem, decide_eq_true_iff]
    constructor
    · intro held
      obtain ⟨j, ended, number⟩ := List.mem_map.mp held
      obtain ⟨there, late⟩ := mem_expired.mp (same.subset ended)
      have found := Invocations.find?_of_mem unique there
      rw [number, Invocations.find?_of_mem unique out] at found
      cases found
      exact late
    · intro late
      exact List.mem_map.mpr ⟨i, same.symm.subset (mem_expired.mpr ⟨out, late⟩), rfl⟩
  rw [due, ← decide_not, decide_eq_decide]
  exact Nat.not_le

theorem session?_expire (unique : d.calls.Unique) (distinct : d.Distinct gone) {id : SessionId}
    {s : Session} (known : d.sessions.session? id = some s) :
    (d.expire serializers gone).sessions.session? id =
      some ((notices serializers s gone).foldl Session.send s) := by
  rw [(moves_expire serializers unique distinct).sessions, Ending.session?_tells, known,
    Option.map_some, frames_timesOut serializers known]

theorem queueOf_expire_of_shut (unique : d.calls.Unique) (distinct : d.Distinct gone)
    {id : SessionId} (shut : ¬ d.sessions.Open serializers id) :
    (d.expire serializers gone).sessions.queueOf id = d.sessions.queueOf id := by
  unfold Sessions.queueOf
  cases known : d.sessions.session? id with
  | none =>
    rw [(moves_expire serializers unique distinct).sessions, Ending.session?_tells, known]
    rfl
  | some s =>
    rw [session?_expire serializers unique distinct known]
    cases accepts : s.accepts with
    | false =>
      dsimp only
      rw [Session.sends_of_refuses accepts, apply_ite Session.queue]
      exact ite_self _
    | true =>
      have unserved : serializers.find? s.serializeType = none :=
        Option.not_isSome_iff_eq_none.mp fun registered => shut ⟨s, known, accepts, registered⟩
      rw [notices, unserved]
      rfl

theorem exact_expire (unique : d.calls.Unique) (once : d.calls.slots.Nodup)
    (same : gone.Perm (d.expired now)) :
    Exact serializers d now (d.expire serializers gone) gone.length := by
  have distinct := (distinct_expired unique now).of_perm same
  have moves := moves_expire serializers unique distinct
  have results := moves.results
  rw [fills_timesOut] at results
  exact {
    left := left_expire serializers unique same
    last := d.last_expire serializers gone
    counted := same.length_eq
    faults := ⟨_, results, same.filterMap _⟩
    heard := fun i out late slot waits => by
      have slots := moves.slots_nodup (by simpa using once)
      refine Invocations.result?_of_mem (List.nodup_append.mp slots).1 ?_
      rw [results]
      refine List.mem_append_right _ (List.mem_filterMap.mpr ⟨i, ?_, ?_⟩)
      · exact same.symm.subset (mem_expired.mpr ⟨out, late⟩)
      · rw [Invocations.slot?_eq_some.mpr waits]
        rfl
    frames := fun id s z known accepts registered => by
      have told : notices serializers s gone =
          (gone.filter (·.relayedTo id)).map (·.notice z s.family) := by
        rw [notices, registered, Sessions.session?_id known]
      refine ⟨_, ?_, told ▸ (same.filter _).map _⟩
      rw [session?_expire serializers unique distinct known, Session.sends_of_accepts accepts]
    quiet := fun id shut => queueOf_expire_of_shut serializers unique distinct shut }

/-- Two ways to the same end: the same calls are out, and the same faults and frames have been
told, in whatever order. -/
structure Agrees (d e : Desk) : Prop where
  pending : d.calls.pending = e.calls.pending
  last : d.calls.lastSequence = e.calls.lastSequence
  results : d.calls.results.Perm e.calls.results
  sessions : d.sessions.Alike e.sessions

theorem agrees_expire (unique : d.calls.Unique) (once : d.calls.slots.Nodup) {soon late : Instant}
    (order : soon ≤ late) {first second whole : List Invocation}
    (before : first.Perm (d.expired soon))
    (behind : second.Perm ((d.expire serializers first).expired late))
    (alone : whole.Perm (d.expired late)) :
    Agrees ((d.expire serializers first).expire serializers second)
        (d.expire serializers whole) ∧
      first.length + second.length = whole.length := by
  have start := exact_expire serializers unique once before
  have direct := exact_expire serializers unique once alone
  have moves := moves_expire serializers unique ((distinct_expired unique soon).of_perm before)
  have kept := moves.slots_nodup (by simpa using once)
  have next := exact_expire serializers moves.unique kept behind
  have further := moves_expire serializers moves.unique
    ((distinct_expired moves.unique late).of_perm behind)
  have straight := moves_expire serializers unique ((distinct_expired unique late).of_perm alone)
  -- What has not expired at first, and then has, is what the later eviction ends besides.
  have parts : (first ++ second).Perm whole := by
    have early : (d.expired late).filter (·.deadline ≤ soon) = d.expired soon := by
      rw [expired, List.filter_filter]
      refine List.filter_congr fun i _ => ?_
      rw [← Bool.decide_and, decide_eq_decide]
      exact ⟨And.left, fun due => ⟨due, Nat.le_trans due order⟩⟩
    have rest : (d.expired late).filter (fun i => !decide (i.deadline ≤ soon)) =
        (d.expire serializers first).expired late := by
      rw [expired, expired, start.left, List.filter_filter, List.filter_filter]
      refine List.filter_congr fun i _ => ?_
      rw [← decide_not, Bool.and_comm, decide_eq_decide.mpr Nat.not_le]
    have split := List.filter_append_perm (fun i : Invocation => decide (i.deadline ≤ soon))
      (d.expired late)
    rw [early, rest] at split
    exact (before.append behind).trans (split.trans alone.symm)
  have ends : second.map ((d.expire serializers first).timesOut serializers) =
      second.map (d.timesOut serializers) := by
    refine List.map_congr_left fun i _ => ?_
    rw [timesOut, failed_expire]
    rfl
  have told := parts.map (d.timesOut serializers)
  rw [List.map_append] at told
  refine ⟨?_, by rw [← List.length_append, parts.length_eq]⟩
  exact {
    pending := by
      rw [next.left, start.left, direct.left, List.filter_filter]
      refine List.filter_congr fun i _ => ?_
      rw [← Bool.decide_and, decide_eq_decide]
      exact ⟨And.left, fun spared => ⟨spared, Nat.lt_of_le_of_lt order spared⟩⟩
    last := next.last.trans (start.last.trans direct.last.symm)
    results := by
      rw [further.results, moves.results, straight.results, ends, List.append_assoc,
        ← List.filterMap_append]
      exact (told.filterMap _).append_left _
    sessions := by
      rw [further.sessions, moves.sessions, straight.sessions, ends, ← List.foldl_append]
      exact Ending.alike_tells told d.sessions }

/-- Evictions from a table whose numbers are given once, and whose slots are not copied, as they are
in every table that comes about. Whatever order the calls are gone through in, an eviction ends those
whose deadline is at or before its moment, one time each, counts them, and leaves the others alone;
one eviction after another comes to what the later one comes to alone. -/
theorem eviction_exact (unique : d.calls.Unique) (once : d.calls.slots.Nodup) :
    (∀ (i : Invocation) (z : Serializer) (family : Family),
      (i.notice z family).isError = true ∧ (i.notice z family).family = family ∧
      (i.notice z family).sequence = i.parent ∧
      z.decodeAs ErrorResponse.shape (i.notice z family).body = .ok ⟨.timeout, "timeout"⟩) ∧
    (∀ now, d.Evicts serializers now (d.evict serializers now).1 (d.evict serializers now).2) ∧
    (∀ now e count, d.Evicts serializers now e count → Exact serializers d now e count) ∧
    (∀ soon late e f g m n k, soon ≤ late → d.Evicts serializers soon e m →
      e.Evicts serializers late f n → d.Evicts serializers late g k →
      Agrees f g ∧ m + n = k) := by
  refine ⟨fun i z family => ⟨rfl, rfl, rfl, ?_⟩, fun now => ?_, fun now e count evicts => ?_,
    fun soon late e f g m n k order first second alone => ?_⟩
  · exact ErrorResponse.decodeAs_toJson z ⟨.timeout, "timeout"⟩
  · exact (evicts_iff serializers unique).mpr ⟨d.expired now, .refl _, rfl, rfl⟩
  · obtain ⟨gone, same, rfl, rfl⟩ := (evicts_iff serializers unique).mp evicts
    exact exact_expire serializers unique once same
  · obtain ⟨gone, before, rfl, rfl⟩ := (evicts_iff serializers unique).mp first
    have moves := moves_expire serializers unique ((distinct_expired unique soon).of_perm before)
    obtain ⟨next, behind, rfl, rfl⟩ := (evicts_iff serializers moves.unique).mp second
    obtain ⟨whole, all, rfl, rfl⟩ := (evicts_iff serializers unique).mp alone
    exact agrees_expire serializers unique once order before behind all

/-- A waiter and a relayed call that are due at 5, and a waiter that is due at 8. -/
def trio : Desk where
  sessions := (Sessions.empty.create (.loopback 1) .external 0).1
  calls := ⟨3, [.waiting 0 ⟨0, 0⟩ 1 ⟨10, 3⟩ true ⟨5⟩ 0, .forwarding 0 ⟨40, 7⟩ 2 ⟨10, 4⟩ ⟨1⟩ ⟨5⟩,
    .waiting 0 ⟨0, 0⟩ 3 ⟨10, 5⟩ false ⟨8⟩ 1], []⟩

/-- Gone through backwards at 6, they leave the later waiter, and come to what they come to at 9. -/
theorem eviction_exact_trio :
    let e := (trio.sweep .standard 6 [2, 1]).1
    e.calls.pending = [.waiting 0 ⟨0, 0⟩ 3 ⟨10, 5⟩ false ⟨8⟩ 1] ∧
    e.calls.result? 0 = some (.error (.timeout ⟨10, 3⟩ 1 ⟨5⟩)) ∧
    e.sessions.queueOf ⟨1⟩ =
      [(Invocation.forwarding 0 ⟨40, 7⟩ 2 ⟨10, 4⟩ ⟨1⟩ ⟨5⟩).notice .json .external] ∧
    Agrees (e.sweep .standard 9 [3]).1 (trio.sweep .standard 9 [3, 1, 2]).1 := by
  have unique : trio.calls.Unique := (by decide : (trio.calls.pending.map (·.sequence)).Nodup)
  obtain ⟨-, -, ends, composes⟩ := eviction_exact .standard unique (by decide)
  have first : trio.Evicts .standard 6 (trio.sweep .standard 6 [2, 1]).1 2 :=
    ⟨_, by decide, rfl⟩
  have told := ends 6 _ 2 first
  obtain ⟨frames, sent, same⟩ := told.frames ⟨1⟩ _ .json rfl rfl rfl
  refine ⟨told.left, ?_, ?_, ?_⟩
  · exact told.heard _ List.mem_cons_self (by decide) 0 rfl
  · rw [Sessions.queueOf, sent, List.perm_singleton.mp same]
    rfl
  · exact (composes 6 9 _ _ _ 2 1 3 (by decide) first ⟨[3], by decide, rfl⟩
      ⟨[3, 1, 2], by decide, rfl⟩).1

end Desk
end ClusterWire
