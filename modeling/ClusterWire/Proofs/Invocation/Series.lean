import ClusterWire.Link
import ClusterWire.Proofs.Invocation.Moves
import ClusterWire.Proofs.Session.Views

/-! Several events of a table of calls in a row. A step of a link is such a series, and so
is queuing a request with its call. The callers of relayed calls that end on the way are
told, if their sessions are open, and their queues grow by what they are told and by nothing
else. -/
namespace ClusterWire

namespace Sessions

/-- The session takes messages, and its bodies can be encoded. -/
def Open (serializers : Serializers) (t : Sessions) (id : SessionId) : Prop :=
  ∃ s, t.session? id = some s ∧ s.accepts = true ∧ serializers.contains s.serializeType = true

def queueOf (t : Sessions) (id : SessionId) : List Message :=
  match t.session? id with
  | some s => s.queue
  | none => []

variable {serializers : Serializers} {t : Sessions} {id : SessionId}

theorem open_send (opened : t.Open serializers id) (other : SessionId) (m : Message) :
    (t.send other m).1.Open serializers id := by
  obtain ⟨s, known, accepts, registered⟩ := opened
  by_cases same : other = id
  · subst same
    exact ⟨_, session?_send known accepts, accepts, registered⟩
  · refine ⟨s, ?_, accepts, registered⟩
    rw [session?_send_other t (Ne.symm same), known]

theorem queueOf_send (opened : t.Open serializers id) (other : SessionId) (m : Message) :
    (t.send other m).1.queueOf id = t.queueOf id ++ if other = id then [m] else [] := by
  obtain ⟨s, known, accepts, -⟩ := opened
  by_cases same : other = id
  · subst same
    simp [queueOf, known, session?_send known accepts]
  · simp [queueOf, session?_send_other t (Ne.symm same), same]

end Sessions

namespace Ending

/-- The frame that an end sends to a session. -/
def frameFor? (id : SessionId) : Ending → Option Message
  | sent other m => if other = id then some m else none
  | _ => none

variable {serializers : Serializers} {t : Sessions} {id : SessionId}

theorem open_tell (opened : t.Open serializers id) (ending : Ending) :
    (ending.tell t).Open serializers id := by
  cases ending with
  | sent other m => exact Sessions.open_send opened other m
  | filled | silent => exact opened

theorem open_tells (opened : t.Open serializers id) (ended : List Ended) :
    (ended.foldl (fun t x => x.ending.tell t) t).Open serializers id := by
  induction ended generalizing t with
  | nil => exact opened
  | cons x rest ih => exact ih (open_tell opened x.ending)

theorem queueOf_tells (opened : t.Open serializers id) (ended : List Ended) :
    (ended.foldl (fun t x => x.ending.tell t) t).queueOf id =
      t.queueOf id ++ ended.filterMap (·.ending.frameFor? id) := by
  induction ended generalizing t with
  | nil => simp
  | cons x rest ih =>
    have first : (x.ending.tell t).queueOf id =
        t.queueOf id ++ (x.ending.frameFor? id).toList := by
      cases x.ending with
      | sent other m =>
        rw [tell, Sessions.queueOf_send opened, frameFor?]
        split <;> rfl
      | filled | silent => simp [tell, frameFor?]
    rw [List.foldl_cons, ih (open_tell opened x.ending), first]
    cases told : x.ending.frameFor? id <;> simp [told]

end Ending

namespace Invocation

variable {serializers : Serializers} {t : Sessions} {id : SessionId} {i : Invocation}

theorem caller?_open (opened : t.Open serializers id) (asked : i.parent ≠ 0) :
    ∃ s z, i.caller? serializers t id = some (s, z) := by
  obtain ⟨s, known, -, registered⟩ := opened
  obtain ⟨z, found⟩ := Option.isSome_iff_exists.mp registered
  exact ⟨s, z, by simp [caller?, asked, known, found]⟩

/-- The caller of a relayed call hears of its response. -/
theorem completed_sent (opened : t.Open serializers id) (relayed : i.completion = .forward id)
    (asked : i.parent ≠ 0) (link : Serializer) (m : Message) :
    ∃ frame, i.completed serializers t link m = .sent id frame := by
  obtain ⟨s, z, caller⟩ := caller?_open opened asked
  simp only [completed, relayed, caller]
  split
  · exact ⟨_, rfl⟩
  · exact ⟨_, rfl⟩

theorem failed_sent (opened : t.Open serializers id) (relayed : i.completion = .forward id)
    (asked : i.parent ≠ 0) (fault : RpcFault) :
    ∃ frame, i.failed serializers t fault = .sent id frame := by
  obtain ⟨s, z, caller⟩ := caller?_open opened asked
  simp only [failed, relayed, caller]
  exact ⟨_, rfl⟩

/-- How a call ends depends on its caller's session by its family and its serializer. -/
theorem failed_of_session (i : Invocation) (serializers : Serializers) {t u : Sessions}
    {change : Session → Session} (session : ∀ id, u.session? id = (t.session? id).map change)
    (same : ∀ s, (change s).family = s.family ∧ (change s).serializeType = s.serializeType)
    (fault : RpcFault) : i.failed serializers u fault = i.failed serializers t fault := by
  unfold failed
  cases i.completion with
  | waiter slot => rfl
  | forward replyTo =>
    simp only [caller?, session]
    cases t.session? replyTo with
    | none => rfl
    | some s =>
      obtain ⟨family, type⟩ := same s
      by_cases silent : i.parent = 0
      · simp [silent]
      · cases found : serializers.find? s.serializeType with
        | none => simp [silent, type, found]
        | some z => simp [silent, type, found, family]

/-- What the sessions are told of ended calls does not change how others end. -/
theorem failed_tell (i : Invocation) (serializers : Serializers) (t : Sessions) (ending : Ending)
    (fault : RpcFault) :
    i.failed serializers (ending.tell t) fault = i.failed serializers t fault := by
  cases ending with
  | filled | silent => rfl
  | sent id m =>
    have session := fun other => Sessions.session?_modify t id other fun s => s.id_send m
    refine i.failed_of_session serializers session (fun s => ?_) fault
    unfold Session.send
    split
    · split <;> exact ⟨rfl, rfl⟩
    · exact ⟨rfl, rfl⟩

end Invocation

namespace CallEvent

/-- Events that add no calls, and end them only with their callers told. -/
def isHeard : CallEvent → Bool
  | next | complete _ _ | fail _ _ | evict _ => true
  | _ => false

theorem own_of_heard {event : CallEvent} (heard : event.isHeard = true) (sessions : Sessions) :
    event ≠ .elsewhere sessions := by
  intro same
  rw [same] at heard
  cases heard

theorem added_of_heard {event : CallEvent} (heard : event.isHeard = true) : event.added = [] := by
  cases event <;> first | rfl | cases heard

/-- The event does not end the call. Calls end by an event of their own number, or at their
deadline. -/
def Spares (i : Invocation) : CallEvent → Prop
  | add j => j.sequence ≠ i.sequence
  | complete _ m => m.sequence ≠ i.sequence
  | fail sequence _ | remove sequence => sequence ≠ i.sequence
  | evict now => now < i.deadline
  | wait j _ now => j.sequence ≠ i.sequence ∨ now < j.deadline
  | next | elsewhere _ => True

end CallEvent

/-- A relayed call of a session that ends with a frame, unless nobody waits for one. -/
def Ended.Heard (id : SessionId) (x : Ended) : Prop :=
  x.call.completion = .forward id → x.call.parent ≠ 0 → ∃ m, x.ending = .sent id m

namespace Desk

variable (serializers : Serializers)

def steps (d : Desk) (events : List CallEvent) : Desk := events.foldl (step serializers) d

def endsAll : Desk → List CallEvent → List Ended
  | _, [] => []
  | d, event :: rest => d.ends serializers event ++ endsAll (d.step serializers event) rest

variable {d : Desk} {id : SessionId}

theorem steps_moves (unique : d.calls.Unique) {events : List CallEvent}
    (heard : ∀ event ∈ events, event.isHeard = true) :
    Moves d [] (d.endsAll serializers events) (d.steps serializers events) := by
  induction events generalizing d with
  | nil => exact .refl unique
  | cons event rest ih =>
    obtain ⟨here, later⟩ := List.forall_mem_cons.mp heard
    have first := step_moves serializers unique event (CallEvent.own_of_heard here)
    rw [CallEvent.added_of_heard here] at first
    exact first.trans (ih first.unique later)

/-- Every call that ends was out before. -/
theorem Moves.mem_of_ended {e : Desk} {ended : List Ended} (moves : Moves d [] ended e)
    {x : Ended} (held : x ∈ ended) : x.call ∈ d.calls.pending := by
  have inside : x.call ∈ e.calls.pending ++ ended.map (·.call) :=
    List.mem_append_right _ (List.mem_map.mpr ⟨x, held, rfl⟩)
  simpa using moves.calls.subset inside

theorem Moves.mem_of_pending {e : Desk} {ended : List Ended} (moves : Moves d [] ended e)
    {i : Invocation} (out : i ∈ e.calls.pending) : i ∈ d.calls.pending := by
  simpa using moves.calls.subset (List.mem_append_left _ out)

theorem Moves.open {e : Desk} {added : List Invocation} {ended : List Ended}
    (moves : Moves d added ended e) {other : Serializers} (opened : d.sessions.Open other id) :
    e.sessions.Open other id := by
  rw [moves.sessions]
  exact Ending.open_tells opened ended

theorem endsOf_heard {sequence : Int64} {ending : Invocation → Ending}
    (told : ∀ i, i.completion = .forward id → i.parent ≠ 0 → ∃ m, ending i = .sent id m) :
    ∀ x ∈ d.endsOf sequence ending, x.Heard id := by
  intro x held
  obtain ⟨i, -, same⟩ := List.mem_map.mp held
  subst same
  exact told i

theorem expireEnds_heard (unique : d.calls.Unique) (opened : d.sessions.Open serializers id)
    (expired : List Invocation) : ∀ x ∈ d.expireEnds serializers expired, x.Heard id := by
  induction expired generalizing d with
  | nil => simp [expireEnds]
  | cons i rest ih =>
    have first := fail_moves serializers unique i.sequence i.timeoutFault
    intro x held
    rcases List.mem_append.mp held with here | later
    · exact endsOf_heard (fun j relayed asked => j.failed_sent opened relayed asked _) x here
    · exact ih first.unique (first.open opened) x later

theorem ends_heard (unique : d.calls.Unique) (opened : d.sessions.Open serializers id)
    {event : CallEvent} (heard : event.isHeard = true) :
    ∀ x ∈ d.ends serializers event, x.Heard id := by
  cases event with
  | next => simp [ends]
  | complete link m =>
    exact endsOf_heard fun j relayed asked => j.completed_sent opened relayed asked link m
  | fail sequence fault =>
    exact endsOf_heard fun j relayed asked => j.failed_sent opened relayed asked fault
  | evict now => exact expireEnds_heard serializers unique opened _
  | add | remove | wait | elsewhere => cases heard

theorem endsAll_heard (unique : d.calls.Unique) (opened : d.sessions.Open serializers id)
    {events : List CallEvent} (heard : ∀ event ∈ events, event.isHeard = true) :
    ∀ x ∈ d.endsAll serializers events, x.Heard id := by
  induction events generalizing d with
  | nil => simp [endsAll]
  | cons event rest ih =>
    obtain ⟨here, later⟩ := List.forall_mem_cons.mp heard
    have first := step_moves serializers unique event (CallEvent.own_of_heard here)
    intro x held
    rcases List.mem_append.mp held with now | then_
    · exact ends_heard serializers unique opened here x now
    · exact ih first.unique (first.open opened) later x then_

/-- The desk with one more call out. -/
def entering (d : Desk) (i : Invocation) : Desk :=
  { d with calls := { d.calls with pending := d.calls.pending ++ [i] } }

theorem fail_of_some {d : Desk} {sequence : Int64} {i : Invocation}
    (found : d.calls.find? sequence = some i) (fault : RpcFault) :
    (d.fail serializers sequence fault).1 =
      ({ d with calls := d.calls.erase sequence } : Desk).conclude
        (i.failed serializers d.sessions fault) := by
  simp only [fail, finish, remove, found]

theorem failed_fail (d : Desk) (i : Invocation) (sequence : Int64) (fault other : RpcFault) :
    i.failed serializers (d.fail serializers sequence fault).1.sessions other =
      i.failed serializers d.sessions other := by
  cases found : d.calls.find? sequence with
  | none => rw [fail, finish_eq_of_none found]
  | some ended =>
    rw [fail_of_some serializers found, conclude_sessions]
    exact i.failed_tell serializers d.sessions _ other

/-- To add a call is to fail the one that is out under its number, and to enter it then. -/
theorem add_eq_fail (d : Desk) (i : Invocation) : ∃ fault,
    d.ends serializers (.add i) = d.ends serializers (.fail i.sequence fault) ∧
    d.add serializers i = (d.fail serializers i.sequence fault).1.entering i := by
  cases found : d.calls.find? i.sequence with
  | none =>
    refine ⟨.abandoned i.protocol, by simp [ends, endsOf, found], ?_⟩
    rw [fail, finish_eq_of_none found]
    simp only [add, found, Invocations.erase_of_none found, conclude, entering]
  | some older =>
    refine ⟨.abandoned older.protocol, by simp [ends, endsOf, found], ?_⟩
    rw [fail_of_some serializers found]
    simp only [add, found, entering]
    cases older.failed serializers d.sessions (.abandoned older.protocol) <;> rfl

/-- Nothing is out under a number at which a call has failed. -/
theorem sequence_ne_of_failed (d : Desk) (sequence : Int64) (fault : RpcFault) :
    ∀ i ∈ (d.fail serializers sequence fault).1.calls.pending, i.sequence ≠ sequence := by
  intro i out same
  rw [fail, finish_pending] at out
  exact Invocations.not_mem_erase d.calls sequence (List.mem_map.mpr ⟨i, out, same⟩)

theorem remove_entering {d : Desk} {i : Invocation}
    (fresh : ∀ j ∈ d.calls.pending, j.sequence ≠ i.sequence) :
    ((d.entering i).remove i.sequence).1 = d := by
  have kept : d.calls.pending.filter (·.sequence != i.sequence) = d.calls.pending := by
    rw [List.filter_eq_self]
    intro j out
    simpa using fresh j out
  simp only [remove, entering, Invocations.erase, List.filter_append, kept]
  simp

theorem find?_entering {d : Desk} {i : Invocation}
    (fresh : ∀ j ∈ d.calls.pending, j.sequence ≠ i.sequence) :
    (d.entering i).calls.find? i.sequence = some i := by
  have none : d.calls.pending.find? (·.sequence == i.sequence) = none := by
    rw [List.find?_eq_none]
    intro j out
    simpa using fresh j out
  simp [entering, Invocations.find?, List.find?_append, none]

theorem unique_entering {d : Desk} (unique : d.calls.Unique) {i : Invocation}
    (fresh : ∀ j ∈ d.calls.pending, j.sequence ≠ i.sequence) : (d.entering i).calls.Unique := by
  simp only [Invocations.Unique, entering, List.map_append, List.map_cons, List.map_nil]
  rw [List.nodup_append]
  refine ⟨unique, by simp, ?_⟩
  intro number held other single same
  obtain ⟨j, out, own⟩ := List.mem_map.mp held
  rw [List.mem_singleton] at single
  exact fresh j out (own.trans (same.trans single))

/-! What leaves a call out that is out. -/

theorem mem_finish {i : Invocation} (out : i ∈ d.calls.pending) {sequence : Int64}
    (other : sequence ≠ i.sequence) (ending : Invocation → Ending) :
    i ∈ (d.finish sequence ending).1.calls.pending := by
  rw [finish_pending]
  exact List.mem_filter.mpr ⟨out, by simpa using other.symm⟩

theorem mem_expire {i : Invocation} (out : i ∈ d.calls.pending) {expired : List Invocation}
    (others : ∀ j ∈ expired, j.sequence ≠ i.sequence) :
    i ∈ (d.expire serializers expired).calls.pending := by
  induction expired generalizing d with
  | nil => exact out
  | cons j rest ih =>
    obtain ⟨here, later⟩ := List.forall_mem_cons.mp others
    exact ih (mem_finish out here _) later

/-- A call that is out stays out through every event that does not end it. -/
theorem mem_step (unique : d.calls.Unique) {i : Invocation} (out : i ∈ d.calls.pending)
    {event : CallEvent} (spares : event.Spares i) :
    i ∈ (d.step serializers event).calls.pending := by
  cases event with
  | next | elsewhere sessions => exact out
  | complete link m => exact mem_finish out spares _
  | fail sequence fault => exact mem_finish out spares _
  | remove sequence => exact List.mem_filter.mpr ⟨out, by simpa using (Ne.symm spares)⟩
  | add j =>
    obtain ⟨fault, -, added⟩ := d.add_eq_fail serializers j
    rw [step, added]
    exact List.mem_append_left _ (mem_finish out spares _)
  | evict now =>
    refine mem_expire serializers out ?_
    intro j expired same
    obtain ⟨there, late⟩ := List.mem_filter.mp expired
    have found := Invocations.find?_of_mem unique there
    rw [same, Invocations.find?_of_mem unique out] at found
    cases found
    exact absurd (of_decide_eq_true late) (Nat.not_le.mpr spares)
  | wait j slot now =>
    simp only [step, poll]
    cases d.calls.result? slot with
    | some result => exact out
    | none =>
      by_cases awaited : d.calls.awaits slot = true
      · by_cases late : j.deadline ≤ now
        · have other := spares.resolve_right (Nat.not_lt.mpr late)
          simp only [awaited, late, Bool.not_true, Bool.false_eq_true, if_false, if_true]
          exact List.mem_filter.mpr ⟨out, by simpa using other.symm⟩
        · simpa [awaited, late] using out
      · simpa [awaited] using out

theorem mem_steps (unique : d.calls.Unique) {i : Invocation} (out : i ∈ d.calls.pending)
    {events : List CallEvent} (heard : ∀ event ∈ events, event.isHeard = true)
    (spares : ∀ event ∈ events, event.Spares i) :
    i ∈ (d.steps serializers events).calls.pending := by
  induction events generalizing d with
  | nil => exact out
  | cons event rest ih =>
    obtain ⟨here, later⟩ := List.forall_mem_cons.mp heard
    obtain ⟨spared, others⟩ := List.forall_mem_cons.mp spares
    have first := step_moves serializers unique event (CallEvent.own_of_heard here)
    exact ih first.unique (mem_step serializers unique out spared) later others

theorem last_conclude (d : Desk) (ending : Ending) :
    (d.conclude ending).calls.lastSequence = d.calls.lastSequence := by
  cases ending <;> rfl

theorem last_finish (d : Desk) (sequence : Int64) (ending : Invocation → Ending) :
    (d.finish sequence ending).1.calls.lastSequence = d.calls.lastSequence := by
  cases found : d.calls.find? sequence with
  | none => rw [finish_eq_of_none found]
  | some i =>
    simp only [finish, remove, found, last_conclude]
    rfl

theorem last_expire (d : Desk) (expired : List Invocation) :
    (d.expire serializers expired).calls.lastSequence = d.calls.lastSequence := by
  induction expired generalizing d with
  | nil => rfl
  | cons i rest ih => exact (ih _).trans (d.last_finish i.sequence _)

/-- Only taking a number counts on. -/
theorem last_step (d : Desk) {event : CallEvent} (counts : event ≠ .next) :
    (d.step serializers event).calls.lastSequence = d.calls.lastSequence := by
  cases event with
  | next => exact absurd rfl counts
  | complete link m => exact d.last_finish m.sequence _
  | fail sequence fault => exact d.last_finish sequence _
  | evict now => exact d.last_expire serializers _
  | remove | elsewhere => rfl
  | add i =>
    simp only [step, add, last_conclude]
    rfl
  | wait i slot now =>
    simp only [step, poll]
    cases d.calls.result? slot with
    | some result => rfl
    | none =>
      cases d.calls.awaits slot with
      | false => rfl
      | true =>
        dsimp only [Bool.not_true]
        split
        · contradiction
        · split <;> rfl

theorem last_steps (d : Desk) {events : List CallEvent} (counts : ∀ event ∈ events, event ≠ .next) :
    (d.steps serializers events).calls.lastSequence = d.calls.lastSequence := by
  induction events generalizing d with
  | nil => rfl
  | cons event rest ih =>
    obtain ⟨here, later⟩ := List.forall_mem_cons.mp counts
    exact (ih _ later).trans (d.last_step serializers here)

end Desk

namespace Board

variable (serializers : Serializers)

theorem failAll_eq_steps (fault : RpcFault) (owed : List Int64) (d : Desk) :
    failAll serializers fault owed d = d.steps serializers (owed.map (.fail · fault)) := by
  induction owed generalizing d with
  | nil => rfl
  | cons n rest ih => exact ih (d.fail serializers n fault).1

/-- What a step of a link does to the table of calls. -/
def callEvents (link : Serializer) (b : Board) (id : LinkId) (event : LinkEvent) : List CallEvent :=
  match b.peers.link? id with
  | none => []
  | some l =>
    match l.phase, event with
    | .running, .receive m _ =>
      if m.kind = .response ∧ m.sequence ≠ 0 then [.complete link m] else []
    | .closing, .stop =>
      (l.queue.foldl Link.track l).inFlight.map (.fail · (linkFault l.address))
    | _, _ => []

theorem heard_callEvents (link : Serializer) (b : Board) (id : LinkId) (event : LinkEvent) :
    ∀ e ∈ b.callEvents link id event, e.isHeard = true := by
  intro e held
  unfold callEvents at held
  split at held
  · cases held
  · split at held
    · split at held
      · cases List.mem_singleton.mp held
        rfl
      · cases held
    · obtain ⟨n, -, same⟩ := List.mem_map.mp held
      subst same
      rfl
    · cases held

theorem desk_receive (link : Serializer) (b : Board) (id : LinkId) (l : Link) (m : Message)
    (succeeds : Bool) : (b.receive serializers link id l m succeeds).desk =
      b.desk.steps serializers
        (if m.kind = .response ∧ m.sequence ≠ 0 then [.complete link m] else []) := by
  unfold receive
  cases kind : m.kind with
  | heartbeatRequest | heartbeatResponse | request => simp [Desk.steps]
  | response =>
    by_cases push : m.sequence = 0
    · simp [push, Desk.steps]
    · simp [push, Desk.steps, Desk.step]

theorem desk_step (link : Serializer) (b : Board) (id : LinkId) (event : LinkEvent) :
    (b.step serializers link id event).desk =
      b.desk.steps serializers (b.callEvents link id event) := by
  unfold step callEvents
  cases b.peers.link? id with
  | none => rfl
  | some l =>
    dsimp only
    cases l.phase with
    | stopped => cases event <;> rfl
    | closing =>
      cases event with
      | stop => exact failAll_eq_steps serializers _ _ _
      | write | receive | heartbeat | lost | released => rfl
    | running =>
      cases event with
      | receive m succeeds => exact desk_receive serializers link b id l m succeeds
      | write succeeds => cases l.queue <;> rfl
      | released => dsimp only; split <;> rfl
      | heartbeat | lost | stop => rfl

/-- The link takes messages. -/
def accepts (b : Board) (id : LinkId) : Bool := (b.peers.link? id).any (·.phase != .stopped)

/-- What queuing a message does to the table of calls. -/
def postEvents (b : Board) (id : LinkId) (call : Option Invocation) : List CallEvent :=
  match call with
  | none => []
  | some i =>
    if b.accepts id then [.add i] else [.add i, .remove i.sequence]

theorem desk_enqueue (b : Board) (address : SocketAddress) (id : LinkId) (m : Message)
    (call : Option Invocation) : (b.enqueue serializers address id m call).1.desk =
      b.desk.steps serializers (b.postEvents id call) := by
  unfold enqueue postEvents accepts
  cases call with
  | none => cases (b.peers.link? id).any (·.phase != .stopped) <;> rfl
  | some i => cases (b.peers.link? id).any (·.phase != .stopped) <;> rfl

theorem enqueue_result (b : Board) (address : SocketAddress) (id : LinkId) (m : Message)
    (call : Option Invocation) : (b.enqueue serializers address id m call).2 =
      if b.accepts id then .ok () else .error (linkFault address) := by
  unfold enqueue accepts
  cases (b.peers.link? id).any (·.phase != .stopped) <;> rfl

/-- To queue a request with a call is to fail the one that is out under its number, and to
enter the call then, unless the link refuses. -/
theorem steps_post (serializers : Serializers) (b : Board) (id : LinkId) (i : Invocation) :
    ∃ fault,
      b.desk.steps serializers (b.postEvents id (some i)) =
        (if b.accepts id then (b.desk.fail serializers i.sequence fault).1.entering i
          else (b.desk.fail serializers i.sequence fault).1) ∧
      b.desk.endsAll serializers (b.postEvents id (some i)) =
        b.desk.endsAll serializers [.fail i.sequence fault] ++
          if b.accepts id then [] else [⟨i, .silent⟩] := by
  obtain ⟨fault, ends, add⟩ := b.desk.add_eq_fail serializers i
  have fresh := b.desk.sequence_ne_of_failed serializers i.sequence fault
  refine ⟨fault, ?_⟩
  cases taken : b.accepts id with
  | true =>
    have events : b.postEvents id (some i) = [.add i] := by
      simp only [postEvents, taken, if_true]
    rw [events]
    constructor
    · exact add
    · simp only [Desk.endsAll, ends, List.append_nil, if_true]
  | false =>
    have events : b.postEvents id (some i) = [.add i, .remove i.sequence] := by
      simp only [postEvents, taken, Bool.false_eq_true, if_false]
    rw [events]
    constructor
    · simp only [Desk.steps, List.foldl_cons, List.foldl_nil, Desk.step, add,
        Desk.remove_entering fresh, Bool.false_eq_true, if_false]
    · have found := Desk.find?_entering fresh
      have taken : (b.desk.add serializers i).ends serializers (.remove i.sequence) =
          [⟨i, .silent⟩] := by
        rw [add, Desk.ends, Desk.endsOf, found]
        rfl
      simp only [Desk.endsAll, ends, Desk.step, taken, List.append_nil, Bool.false_eq_true, if_false]

/-- To offer a call under a number of its own enters it, if the link takes the request. -/
theorem post_fresh (b : Board) (id : LinkId) {i : Invocation}
    (fresh : b.desk.calls.find? i.sequence = none) :
    b.desk.steps serializers (b.postEvents id (some i)) =
      (if b.accepts id then b.desk.entering i else b.desk) ∧
    b.desk.endsAll serializers (b.postEvents id (some i)) =
      if b.accepts id then [] else [⟨i, .silent⟩] := by
  obtain ⟨fault, desk, ends⟩ := b.steps_post serializers id i
  have failed : b.desk.fail serializers i.sequence fault = (b.desk, false) :=
    Desk.finish_eq_of_none fresh _
  have silent : b.desk.endsAll serializers [.fail i.sequence fault] = [] := by
    simp [Desk.endsAll, Desk.ends, Desk.endsOf, fresh]
  rw [failed] at desk
  rw [silent, List.nil_append] at ends
  exact ⟨desk, ends⟩

theorem peers_enqueue (b : Board) (address : SocketAddress) (id : LinkId) (m : Message)
    (call : Option Invocation) : (b.enqueue serializers address id m call).1.peers =
      if b.accepts id then b.peers.modifyLink id fun l => { l with queue := l.queue ++ [m] }
      else b.peers := by
  unfold enqueue accepts
  cases (b.peers.link? id).any (·.phase != .stopped) <;> rfl

theorem accepts_of_phase (b : Board) {id : LinkId} {l : Link} (there : b.peers.link? id = some l)
    (takes : l.phase ≠ .stopped) : b.accepts id = true := by
  simpa [accepts, there] using takes

theorem exists_of_accepts (b : Board) {id : LinkId} (accepts : b.accepts id = true) :
    ∃ l, b.peers.link? id = some l ∧ l.phase ≠ .stopped := by
  unfold Board.accepts at accepts
  cases known : b.peers.link? id with
  | none => simp [known] at accepts
  | some l => exact ⟨l, rfl, by simpa [known] using accepts⟩

theorem counts_callEvents (z : Serializer) (b : Board) (id : LinkId) (event : LinkEvent) :
    ∀ e ∈ b.callEvents z id event, e ≠ .next := by
  intro e held same
  subst same
  unfold callEvents at held
  split at held
  · cases held
  · split at held
    · split at held
      · cases List.mem_singleton.mp held
      · cases held
    · obtain ⟨n, -, same⟩ := List.mem_map.mp held
      cases same
    · cases held

end Board
end ClusterWire
