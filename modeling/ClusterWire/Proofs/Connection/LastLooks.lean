import ClusterWire.Proofs.Connection.Outflow
import Mathlib.Data.List.Induction

/-! Whether a connection writes all that it accepted. A writer stops for a closed session at a look
that comes after its last look at the queue. What is accepted between these two looks, before the
session is closed, is neither written nor refused; and as long as no write fails, nothing else that
was accepted is lost. -/
namespace ClusterWire

namespace Frame

theorem ne_nil_of_encode {m : Message} {frame : Bytes} (made : encode m = .ok frame) :
    frame ≠ [] := by
  rintro rfl
  by_cases fits : Fits m
  · rw [encode_eq_ok fits, Except.ok.injEq] at made
    have length := length_frameOf m
    rw [made, prefixLength, List.length_nil] at length
    omega
  · obtain ⟨fault, refused⟩ := encode_eq_error fits
    cases made.symm.trans refused

/-- No message is written as no bytes at all. -/
theorem Spells.eq_nil {ms more : List Message} {bs : Bytes} (whole : Spells (ms ++ more) bs)
    (front : Spells ms bs) : more = [] := by
  obtain ⟨frames, made, rfl⟩ := front
  obtain ⟨all, mades, same⟩ := whole
  cases more with
  | nil => rfl
  | cons m rest =>
    rw [List.mapM_append, made] at mades
    cases last : (m :: rest).mapM encode with
    | error fault =>
      rw [last] at mades
      cases mades
    | ok tail =>
      rw [last] at mades
      cases mades
      rw [List.mapM_cons] at last
      cases head : encode m with
      | error fault =>
        rw [head] at last
        cases last
      | ok frame =>
        rw [head] at last
        cases others : rest.mapM encode with
        | error fault =>
          rw [others] at last
          cases last
        | ok behind =>
          rw [others] at last
          cases last
          simp [ne_nil_of_encode head] at same

end Frame

/-- As many looks as the writer of a closed session takes to stop. -/
def Writer.Stage.due (waiting : Nat) : Writer.Stage → Nat
  | .queue => waiting + 2
  | .session => 1
  | .stopped => 0

namespace Connection
namespace Outflow

variable {d : Dispatcher} {o : Outflow} {s : Session} {done lost late : List Message}
  {moves : List Move}

theorem after_concat (d : Dispatcher) (o : Outflow) (moves : List Move) (move : Move) :
    o.after d (moves ++ [move]) = (o.after d moves).step d move := o.after_append d moves [move]

/-- The last two looks of the writer in a run: at the first it found its queue empty, at the second
its session closed, and between them `late` was accepted. -/
inductive LastLooks (d : Dispatcher) (o : Outflow) (moves : List Move) (late : List Message) :
    Prop where
  | intro (earlier between later : List Move) (first second : Bool)
      (split : moves =
        earlier ++ [.work (.write first)] ++ between ++ [.work (.write second)] ++ later)
      (empty : (o.after d (earlier ++ [.work (.write first)])).stage = .session)
      (unseen : ∀ move ∈ between, move.looks = false)
      (closed : (o.after d (earlier ++ [.work (.write first)] ++ between)).closed = true)
      (accepted : (o.after d (earlier ++ [.work (.write first)] ++ between)).accepted =
        (o.after d (earlier ++ [.work (.write first)])).accepted ++ late)

theorem LastLooks.concat (looks : LastLooks d o moves late) (move : Move) :
    LastLooks d o (moves ++ [move]) late := by
  obtain ⟨earlier, between, later, first, second, split, empty, unseen, closed, accepted⟩ := looks
  exact .intro earlier between (later ++ [move]) first second (by simp [split]) empty unseen closed
    accepted

namespace Flows

/-- A writer that looks at its session next has found its queue empty, and has not looked since. -/
theorem turned (flows : Flows o s done lost) (began : o.stage = .queue) (d : Dispatcher)
    (spares : ∀ move ∈ moves, move.Spares o.connection.session)
    (next : (o.after d moves).stage = .session) :
    ∃ earlier between first, moves = earlier ++ [.work (.write first)] ++ between ∧
      (o.after d (earlier ++ [.work (.write first)])).stage = .session ∧
      ∀ move ∈ between, move.looks = false := by
  induction moves using List.reverseRecOn with
  | nil => cases began.symm.trans next
  | append_singleton moves move ih =>
    obtain ⟨before, -⟩ := List.forall_mem_append.mp spares
    cases looks : move.looks with
    | true =>
      obtain ⟨succeeds, rfl⟩ := Move.eq_write looks
      exact ⟨moves, [], succeeds, by simp, next, by simp⟩
    | false =>
      obtain ⟨_, _, _, flowing, spared⟩ := flows.reach d moves [move] spares
      obtain ⟨-, -, -, same⟩ :=
        flowing.still d move (List.forall_mem_singleton.mp spared) (.inr looks)
      rw [after_concat, same] at next
      obtain ⟨earlier, between, first, rfl, turned, unseen⟩ := ih before next
      refine ⟨earlier, between ++ [move], first, by simp, turned, ?_⟩
      rw [List.forall_mem_append]
      exact ⟨unseen, List.forall_mem_singleton.mpr looks⟩

/-- A writer that stopped without a failure did so at the second of its last looks. -/
theorem exists_lastLooks (flows : Flows o s done lost) (began : o.stage = .queue) (d : Dispatcher)
    (spares : ∀ move ∈ moves, move.Spares o.connection.session)
    (written : .work (.write false) ∉ moves)
    (encodes : ∀ m ∈ (o.after d moves).accepted, ∃ frame, Frame.encode m = .ok frame)
    (stopped : (o.after d moves).stage = .stopped) : ∃ late, LastLooks d o moves late := by
  induction moves using List.reverseRecOn with
  | nil => cases began.symm.trans stopped
  | append_singleton moves move ih =>
    obtain ⟨before, -⟩ := List.forall_mem_append.mp spares
    obtain ⟨s', done', lost', flowing, spared⟩ := flows.reach d moves [move] spares
    have grown := flows.later_append d moves [move] spares
    rw [after_concat] at encodes stopped grown
    rw [List.mem_append, not_or] at written
    by_cases halted : (o.after d moves).stage = .stopped
    · obtain ⟨late, looks⟩ := ih before written.1
        (fun m held => encodes m (grown.accepted.subset held)) halted
      exact ⟨late, looks.concat move⟩
    · cases looks : move.looks with
      | false =>
        obtain ⟨-, -, -, same⟩ :=
          flowing.still d move (List.forall_mem_singleton.mp spared) (.inr looks)
        exact absurd (same.symm.trans stopped) halted
      | true =>
        obtain ⟨second, rfl⟩ := Move.eq_write looks
        obtain ⟨_, _, _, _, _, look⟩ := flowing.look d second
        cases look with
        | halted was => exact absurd was halted
        | writes _ now | turns _ now | returns _ now => cases now.symm.trans stopped
        | @breaks m rest _ _ queue broken =>
          rcases broken with rfl | ⟨fault, refused⟩
          · exact absurd (List.mem_singleton_self _) written.2
          · have waiting : m ∈ (o.after d moves).accepted := by simp [flowing.accepted, queue]
            obtain ⟨frame, made⟩ := encodes m (grown.accepted.subset waiting)
            cases made.symm.trans refused
        | stops was now closed =>
          obtain ⟨earlier, between, first, rfl, empty, unseen⟩ := flows.turned began d before was
          obtain ⟨late, came⟩ := (flows.later_append d _ between before).accepted
          exact ⟨late, .intro earlier between [] first second (by simp) empty unseen
            (flowing.closed.trans closed) came.symm⟩

/-- What was accepted between the last two looks is what the writer leaves unwritten. -/
theorem left_of_lastLooks (flows : Flows o s done lost)
    (spares : ∀ move ∈ moves, move.Spares o.connection.session)
    (looks : LastLooks d o moves late) :
    ∃ written, (o.after d moves).accepted = written ++ late ∧
      Frame.Spells written (o.after d moves).bytes := by
  obtain ⟨earlier, between, later, first, second, rfl, empty, unseen, closed, accepted⟩ := looks
  simp only [List.forall_mem_append] at spares
  obtain ⟨⟨⟨⟨early, -⟩, middle⟩, -⟩, behind⟩ := spares
  obtain ⟨s₁, done₁, lost₁, began, past⟩ := flows.run d earlier early
  obtain ⟨s₂, done₂, lost₂, found, next, look⟩ := began.look d first
  rw [← after_concat] at found next look
  have none : lost₂ = [] := (found.running (by rw [empty]; exact Writer.Stage.noConfusion)).2
  have queue : s₂.queue = [] := by
    cases look with
    | turns _ _ queue => exact queue
    | halted _ now | writes _ now | breaks _ now | returns _ now | stops _ now =>
      cases now.symm.trans empty
  subst none
  rw [← past.own, ← next.own] at middle
  obtain ⟨s₃, waits, same⟩ := found.rest d between middle (.inr unseen)
  obtain ⟨-, -, -, -, since⟩ := found.run d between middle
  rw [← after_append] at waits same since
  have came : s₃.queue = late := by
    rw [waits.accepted, found.accepted, queue] at accepted
    simpa using accepted
  obtain ⟨s₄, done₄, lost₄, stopped, last, look⟩ := waits.look d second
  rw [← after_concat] at stopped last look
  have session := same.trans empty
  cases look with
  | halted was | writes was | breaks was | turns was => cases was.symm.trans session
  | returns _ _ fresh => cases (waits.closed.symm.trans closed).symm.trans fresh
  | stops _ now =>
    rw [← past.own, ← next.own, ← since.own, ← last.own] at behind
    obtain ⟨s₅, ended, halted⟩ := stopped.rest d later behind (.inl now)
    rw [← after_append] at ended halted
    refine ⟨done₂, ?_, _, ended.written, rfl⟩
    rw [ended.accepted, (ended.stopped (halted.trans now)).2, List.append_nil, came]

/-- Each look at a closed session brings its writer nearer to its end. -/
theorem due_look (flows : Flows o s done lost) (closed : s.closed = true) (d : Dispatcher) :
    ∃ s' done' lost', Flows (o.step d (.work (.write true))) s' done' lost' ∧ s'.closed = true ∧
      (o.step d (.work (.write true))).stage.due s'.queue.length ≤
        o.stage.due s.queue.length - 1 := by
  obtain ⟨s', done', lost', flowing, later, look⟩ := flows.look d true
  have still : s'.closed = true := by
    rw [← flowing.closed]
    exact later.closed (flows.closed.trans closed)
  refine ⟨s', done', lost', flowing, still, ?_⟩
  cases look with
  | halted was now => simp [was, now, Writer.Stage.due]
  | writes was now queue => simp [was, now, Writer.Stage.due, queue]
  | breaks _ now | stops _ now => simp [now, Writer.Stage.due]
  | turns was now => simp [was, now, Writer.Stage.due]
  | returns _ _ fresh => cases closed.symm.trans fresh

/-- The writer of a closed session stops when it has looked often enough. -/
theorem stops_once_closed (flows : Flows o s done lost) (closed : s.closed = true) (d : Dispatcher)
    {n : Nat} (enough : o.stage.due s.queue.length ≤ n) :
    (o.after d (List.replicate n (.work (.write true)))).stage = .stopped := by
  induction n generalizing o s done lost with
  | zero =>
    cases here : o.stage with
    | stopped => exact here
    | queue | session => simp [here, Writer.Stage.due] at enough
  | succ n ih =>
    obtain ⟨s', done', lost', flowing, still, nearer⟩ := flows.due_look closed d
    exact ih flowing still (by omega)

end Flows

/-- A connection begins with nothing offered, accepted or written, and a look at the queue. -/
theorem flows_opened {events : List SessionEvent} {t u : Sessions} {remote : SocketAddress}
    {limit : Nat} {type : UInt8} {preamble : Preamble} {c : Connection}
    (run : Sessions.Run events t) (opened : open? t remote limit type preamble = some (u, c)) :
    (∃ s, Flows { table := u, connection := c } s [] []) ∧ c.writer.stage = .queue := by
  have unknown := (Sessions.consistent_of_run run).newcomer_unknown
  obtain ⟨⟨family, inbox⟩, -, made⟩ := Option.map_eq_some_iff.mp opened
  cases made
  refine ⟨⟨⟨t.newcomer, remote, family, type, [], false, true, []⟩, ?_, rfl, rfl,
    fun _ => ⟨rfl, rfl⟩, fun stopped => Writer.Stage.noConfusion stopped⟩, rfl⟩
  change (t.create remote family type).1.session? t.newcomer = _
  rw [Sessions.session?_create, unknown, if_pos rfl]
  rfl

/-- How a writer has stopped that did not fail. -/
structure Ends (d : Dispatcher) (o : Outflow) (moves : List Move) : Prop where
  closed : (o.after d moves).closed = true
  left : ∃ written late, LastLooks d o moves late ∧
    (o.after d moves).accepted = written ++ late ∧
    Frame.Spells written (o.after d moves).bytes
  whole_iff : Frame.Spells (o.after d moves).accepted (o.after d moves).bytes ↔
    LastLooks d o moves []

theorem Flows.ends (flows : Flows o s done lost) (began : o.stage = .queue)
    (spares : ∀ move ∈ moves, move.Spares o.connection.session)
    (written : .work (.write false) ∉ moves)
    (encodes : ∀ m ∈ (o.after d moves).accepted, ∃ frame, Frame.encode m = .ok frame)
    (stopped : (o.after d moves).stage = .stopped) : Ends d o moves := by
  obtain ⟨s', done', lost', flown, -⟩ := flows.run d moves spares
  obtain ⟨late, looks⟩ := flows.exists_lastLooks began d spares written encodes stopped
  obtain ⟨front, accepted, spells⟩ := flows.left_of_lastLooks spares looks
  refine ⟨flown.closed.trans (flown.stopped stopped).1, ⟨front, late, looks, accepted, spells⟩,
    fun whole => ?_, fun looks => ?_⟩
  · rw [accepted] at whole
    exact whole.eq_nil spells ▸ looks
  · obtain ⟨front, accepted, spells⟩ := flows.left_of_lastLooks spares looks
    rw [accepted, List.append_nil]
    exact spells

/-- What holds of a run, seen at a moment in the middle and at its end. -/
structure Honours (d : Dispatcher) (o : Outflow) (earlier later : List Move) : Prop where
  front : ∃ done, done <+: (o.after d (earlier ++ later)).accepted ∧
    Frame.Spells done (o.after d earlier).bytes
  takes : ∀ m, (o.after d (earlier ++ [.send m])).offers =
    (o.after d earlier).offers ++ [(m, !(o.after d earlier).closed)]
  lasts : (o.after d earlier).closed = true → (o.after d (earlier ++ later)).closed = true
  refuses : ∃ late, (o.after d (earlier ++ later)).offers = (o.after d earlier).offers ++ late ∧
    ((o.after d earlier).closed = true → ∀ entry ∈ late, entry.2 = false)
  stops : (o.after d earlier).closed = true → ∃ n,
    ((o.after d earlier).after d (List.replicate n (.work (.write true)))).stage = .stopped
  ends : .work (.write false) ∉ earlier ++ later →
    (∀ m ∈ (o.after d (earlier ++ later)).accepted, ∃ frame, Frame.encode m = .ok frame) →
    (o.after d (earlier ++ later)).stage = .stopped → Ends d o (earlier ++ later)

end Outflow

/-- Whatever is sent on a connection, by whomever, and whenever it is closed: at every moment the
frames of some of the accepted messages were written, from the first on and in order; a message is
accepted just as long as the session is open; and a closed session stays closed, and its writer
stops if it goes on. If no write fails and every accepted message has a frame, a writer that has
stopped wrote all of them if and only if none was accepted between its last two looks, and all but
those otherwise. -/
theorem accepted_written_iff (d : Dispatcher) {events : List SessionEvent} {t u : Sessions}
    {remote : SocketAddress} {limit : Nat} {type : UInt8} {preamble : Preamble} {c : Connection}
    (run : Sessions.Run events t) (opened : open? t remote limit type preamble = some (u, c))
    (earlier later : List Move) (spares : ∀ move ∈ earlier ++ later, move.Spares c.session) :
    Outflow.Honours d { table := u, connection := c } earlier later := by
  obtain ⟨⟨s, flows⟩, began⟩ := Outflow.flows_opened run opened
  obtain ⟨s', done', lost', flowing, -⟩ := flows.reach d earlier later spares
  have since := flows.later_append d earlier later spares
  refine ⟨⟨done', ?_, _, flowing.written, rfl⟩, fun m => ?_, since.closed, since.offers,
    fun closed => ?_, flows.ends began spares⟩
  · refine List.IsPrefix.trans ⟨s'.queue ++ lost', ?_⟩ since.accepted
    rw [flowing.accepted, List.append_assoc]
  · rw [flowing.closed, Outflow.after_concat]
    exact flowing.taken m
  · exact ⟨_, flowing.stops_once_closed (flowing.closed.symm.trans closed) d (Nat.le_refl _)⟩

def opening : Sessions × Connection :=
  ((Sessions.empty.create (.loopback 5000) .external 0).1,
    { first (.heartbeatRequest .external) with inbox := .stream [] false })

theorem opening_opened : open? .empty (.loopback 5000) Frame.defaultLimit 0 (.binary .external) =
    some opening := rfl

def raced (moves : List Move) : Outflow :=
  Outflow.after plain { table := opening.1, connection := opening.2 } moves

/-- A push behind an answer that is not written yet, a heartbeat, and another answer when the
session is closed. -/
def racing : List Move :=
  [.send (.response .external 4 ⟨10, 1⟩ []), .send (.response .external 0 ⟨10, 2⟩ []),
    .work (.write true), .arrives (.stream (Frame.frameOf (.heartbeatRequest .external)) false),
    .work .read, .elsewhere (.disconnect ⟨1⟩), .send (.response .external 5 ⟨10, 1⟩ [])]

def resting : List Move := [.work (.write true), .work .closed, .work (.write true)]

def looking : List Move := [.work (.write true), .work (.write true)]

/-- All but the last message are accepted, and their frames are all that is written. -/
theorem accepted_written_iff_race :
    (raced (racing ++ (resting ++ looking))).accepted = [.response .external 4 ⟨10, 1⟩ [],
      .response .external 0 ⟨10, 2⟩ [], .heartbeatResponse .external] ∧
    (raced (racing ++ (resting ++ looking))).stage = .stopped ∧
    Frame.Spells (raced (racing ++ (resting ++ looking))).accepted
      (raced (racing ++ (resting ++ looking))).bytes ∧
    (raced racing).bytes = Frame.frameOf (.response .external 4 ⟨10, 1⟩ []) ∧
    (raced racing).offers.getLast? = some (.response .external 5 ⟨10, 1⟩ [], false) := by
  have spares : ∀ move ∈ racing ++ (resting ++ looking), move.Spares opening.2.session := by
    simp [racing, resting, looking, Move.Spares, SessionEvent.Spares]
  have honours :=
    accepted_written_iff plain .start opening_opened racing (resting ++ looking) spares
  have accepted : (raced (racing ++ (resting ++ looking))).accepted =
      [.response .external 4 ⟨10, 1⟩ [], .response .external 0 ⟨10, 2⟩ [],
        .heartbeatResponse .external] := by decide
  have stopped : (raced (racing ++ (resting ++ looking))).stage = .stopped := by decide
  have encodes : ∀ m ∈ (raced (racing ++ (resting ++ looking))).accepted,
      ∃ frame, Frame.encode m = .ok frame := by
    intro m held
    simp only [accepted, List.mem_cons, List.not_mem_nil, or_false] at held
    rcases held with rfl | rfl | rfl <;> exact ⟨_, rfl⟩
  have ends := honours.ends (by simp [racing, resting, looking]) encodes stopped
  have quiet : Outflow.LastLooks plain { table := opening.1, connection := opening.2 }
      (racing ++ (resting ++ looking)) [] :=
    .intro (racing ++ resting) [] [] true true rfl (by decide) (by simp) (by decide) (by decide)
  exact ⟨accepted, stopped, ends.whole_iff.mpr quiet, by decide, by decide⟩

/-- A push that is sent when the writer has just found its queue empty, and the end of the session
before the writer looks at it. -/
def overlooking : List Move :=
  [.work (.write true), .send (.push .external ⟨30, -1⟩ []), .close, .work (.write true)]

/-- The push was accepted, no write failed, and the writer stopped without having written it. -/
theorem accepted_between_looks_lost :
    .work (.write false) ∉ overlooking ∧
    (raced overlooking).accepted = [.push .external ⟨30, -1⟩ []] ∧
    Frame.encode (.push .external ⟨30, -1⟩ []) = .ok (Frame.frameOf (.push .external ⟨30, -1⟩ [])) ∧
    (raced overlooking).stage = .stopped ∧ (raced overlooking).bytes = [] ∧
    ¬Frame.Spells (raced overlooking).accepted (raced overlooking).bytes := by
  have accepted : (raced overlooking).accepted = [.push .external ⟨30, -1⟩ []] := by decide
  have bytes : (raced overlooking).bytes = [] := by decide
  refine ⟨by simp [overlooking], accepted, rfl, by decide, bytes, fun spells => ?_⟩
  rw [accepted, bytes] at spells
  have nothing : Frame.Spells [] [] := ⟨[], rfl, rfl⟩
  have whole : Frame.Spells ([] ++ [.push .external ⟨30, -1⟩ []]) [] := spells
  cases whole.eq_nil nothing

end Connection
end ClusterWire
