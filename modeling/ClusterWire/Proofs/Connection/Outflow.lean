import ClusterWire.Proofs.Connection.Provenance

/-! What a connection writes. Any task may offer messages on its session or close it, at any
point. To check whether a session takes a message and to queue it is one step; so is each look of
the writer, at the queue or at the session; and a message leaves the queue when it is written. What
was accepted was written, waits in the queue, or was lost when the writer stopped. -/
namespace ClusterWire

/-- The bytes are the frames of the messages, one behind the other. -/
def Frame.Spells (ms : List Message) (bs : Bytes) : Prop :=
  ∃ frames, ms.mapM Frame.encode = .ok frames ∧ bs = frames.flatten

/-- The second is the first as far as its messages go, unless it was closed meanwhile. -/
structure Session.Left (s u : Session) : Prop where
  queue : u.queue = s.queue
  listening : u.listening = s.listening
  closed : s.closed = true → u.closed = true

theorem Session.lasts_left : Sessions.Lasts Session.Left where
  refl _ := ⟨rfl, rfl, fun closed => closed⟩
  trans _ _ _ first second := ⟨second.queue.trans first.queue,
    second.listening.trans first.listening, fun closed => second.closed (first.closed closed)⟩
  adds s i := by
    unfold addIdentity
    split <;> exact ⟨rfl, rfl, fun closed => closed⟩
  removes _ _ := ⟨rfl, rfl, fun closed => closed⟩
  retires _ := ⟨rfl, rfl, fun _ => rfl⟩

/-- Leaves the queue of a session to those who send on it and to its writer. -/
def SessionEvent.Spares (own : SessionId) : SessionEvent → Prop
  | .alter id change => (∀ s, (change s).id = s.id) ∧ (id = own → ∀ s : Session, s.Left (change s))
  | _ => True

/-- Whatever else befalls a session leaves its queue alone. -/
theorem Sessions.left_step {t : Sessions} {own : SessionId} {s : Session}
    (known : t.session? own = some s) (event : SessionEvent) (spares : event.Spares own) :
    ∃ u, (t.step event).session? own = some u ∧ s.Left u := by
  refine related_step Session.lasts_left known event ?_
  rintro id change rfl
  exact spares

namespace Connection

/-- What a step of a connection itself offers on its session: an answer to a heartbeat. -/
def answer? (c : Connection) (t : Sessions) (event : Event) : Option Message :=
  match event, c.leaving, c.inbox.next c.limit c.remote with
  | .read, none, .message m _ =>
    match m.kind, t.session? c.session with
    | .heartbeatRequest, some s => some (.heartbeatResponse s.family)
    | _, _ => none
  | _, _, _ => none

/-- What happens on a server, as seen by one of its connections. -/
inductive Move where
  | send (m : Message)
  | close
  | elsewhere (event : SessionEvent)
  | arrives (inbox : Inbox)
  | work (event : Event)

/-- Whether it is a look of the connection's writer. -/
def Move.looks : Move → Bool
  | .work (.write _) => true
  | _ => false

theorem Move.eq_write {move : Move} (looks : move.looks = true) :
    ∃ succeeds, move = .work (.write succeeds) := by
  unfold Move.looks at looks
  split at looks
  · exact ⟨_, rfl⟩
  · cases looks

def Move.Spares (own : SessionId) : Move → Prop
  | .elsewhere event => event.Spares own
  | _ => True

/-- A connection among the sessions, with every message that was offered on its own session and
whether it was accepted. -/
structure Outflow where
  table : Sessions
  connection : Connection
  offers : List (Message × Bool) := []

namespace Outflow

def session? (o : Outflow) : Option Session := o.table.session? o.connection.session

def closed (o : Outflow) : Bool := o.session?.any (·.closed)

/-- The messages whose offer was accepted, in this order. -/
def accepted (o : Outflow) : List Message := (o.offers.filter (·.2)).map (·.1)

def bytes (o : Outflow) : Bytes := o.connection.writer.bytes

/-- What the writer looks at next. -/
def stage (o : Outflow) : Writer.Stage := o.connection.writer.stage

def offer (o : Outflow) (m : Message) : Outflow :=
  let (t, taken) := o.table.send o.connection.session m
  { o with table := t, offers := o.offers ++ [(m, taken)] }

def step (d : Dispatcher) (o : Outflow) : Move → Outflow
  | .send m => o.offer m
  | .close => { o with table := o.table.close o.connection.session }
  | .elsewhere event => { o with table := o.table.step event }
  | .arrives inbox => { o with connection := { o.connection with inbox := inbox } }
  | .work event =>
    let (t, c, _) := o.connection.step d o.table event
    let answers := (o.connection.answer? o.table event).toList
    ⟨t, c, o.offers ++ answers.map fun m => (m, o.table.accepts o.connection.session)⟩

def after (d : Dispatcher) (o : Outflow) (moves : List Move) : Outflow := moves.foldl (step d) o

theorem after_append (d : Dispatcher) (o : Outflow) (earlier later : List Move) :
    o.after d (earlier ++ later) = (o.after d earlier).after d later := List.foldl_append

/-- How the messages stand that were accepted: some were written, some wait, and some were lost,
but not before the writer stopped. -/
structure Flows (o : Outflow) (s : Session) (done lost : List Message) : Prop where
  known : o.session? = some s
  written : done.mapM Frame.encode = .ok o.connection.writer.written
  accepted : o.accepted = done ++ s.queue ++ lost
  running : o.stage ≠ .stopped → s.listening = true ∧ lost = []
  stopped : o.stage = .stopped → s.closed = true ∧ s.queue = []

/-- What a look of the writer comes to: what it looks at next, and how the messages stand then. A
message that cannot be written takes all that wait behind it along; and so does a closed session,
for the writer has looked at the queue before. -/
inductive Look (o p : Outflow) (s : Session) (done lost : List Message) (succeeds : Bool) :
    Session → List Message → List Message → Prop where
  | halted (was : o.stage = .stopped) (now : p.stage = .stopped) :
      Look o p s done lost succeeds s done lost
  | writes {m : Message} {rest : List Message} (was : o.stage = .queue) (now : p.stage = .queue)
      (queue : s.queue = m :: rest) :
      Look o p s done lost succeeds { s with queue := rest } (done ++ [m]) lost
  | breaks {m : Message} {rest : List Message} (was : o.stage = .queue) (now : p.stage = .stopped)
      (queue : s.queue = m :: rest)
      (broken : succeeds = false ∨ ∃ fault, Frame.encode m = .error fault) :
      Look o p s done lost succeeds { s.close with listening := false, queue := [] } done s.queue
  | turns (was : o.stage = .queue) (now : p.stage = .session) (empty : s.queue = []) :
      Look o p s done lost succeeds s done lost
  | returns (was : o.stage = .session) (now : p.stage = .queue) (fresh : s.closed = false) :
      Look o p s done lost succeeds s done lost
  | stops (was : o.stage = .session) (now : p.stage = .stopped) (closed : s.closed = true) :
      Look o p s done lost succeeds { s with listening := false, queue := [] } done s.queue

variable {d : Dispatcher} {o : Outflow} {s : Session} {done lost : List Message}

/-- A step of the connection is one of its writer, or takes from its inbox and may offer an
answer, or ends its reading; if it is none of these, it changes nothing. -/
theorem work_cases (d : Dispatcher) (o : Outflow) (event : Event) :
    o.step d (.work event) = o ∨
    (∃ succeeds, event = .write succeeds ∧ o.step d (.work event) =
      { o with table := (o.connection.writer.step o.table succeeds).1
               connection := { o.connection with
                 writer := (o.connection.writer.step o.table succeeds).2 } }) ∨
    (∃ inbox, o.step d (.work event) = o.step d (.arrives inbox)) ∨
    (∃ m inbox, o.step d (.work event) = (o.step d (.arrives inbox)).step d (.send m)) ∨
    ∃ leaving, o.step d (.work event) =
      { o with table := (o.table.disconnect o.connection.session).1
               connection := { o.connection with leaving := leaving } } := by
  obtain ⟨t, c, offers⟩ := o
  cases gone : c.leaving with
  | some _ =>
    cases event with
    | write succeeds =>
      exact .inr (.inl ⟨succeeds, rfl, by simp [step, Connection.step, answer?]⟩)
    | read | idle | shutdown | closed =>
      exact .inl (by simp [step, Connection.step, answer?, gone])
  | none =>
    cases event with
    | write succeeds =>
      exact .inr (.inl ⟨succeeds, rfl, by simp [step, Connection.step, answer?]⟩)
    | idle | shutdown =>
      exact .inr (.inr (.inr (.inr ⟨some .orderly, by
        simp [step, Connection.step, answer?, gone, leave]⟩)))
    | closed =>
      cases due : (t.session? c.session).any (·.closed) with
      | true => exact .inr (.inr (.inr (.inr ⟨some .orderly, by
          simp [step, Connection.step, answer?, gone, leave, due]⟩)))
      | false => exact .inl (by simp [step, Connection.step, answer?, gone, due])
    | read =>
      cases next : c.inbox.next c.limit c.remote with
      | nothing => exact .inl (by simp [step, Connection.step, answer?, gone, read, next])
      | ended leaving => exact .inr (.inr (.inr (.inr ⟨some leaving, by
          simp [step, Connection.step, answer?, gone, read, next, leave]⟩)))
      | overrun =>
        exact .inr (.inr (.inr (.inr ⟨some (.failed (.internal "read past the end of a frame")), by
          simp [step, Connection.step, answer?, gone, read, next, leave]⟩)))
      | message m left =>
        cases kind : m.kind with
        | request | response | heartbeatResponse =>
          exact .inr (.inr (.inl ⟨left, by
            simp [step, Connection.step, answer?, gone, read, next, Dispatcher.receive, kind]⟩))
        | heartbeatRequest =>
          cases there : t.session? c.session with
          | none => exact .inr (.inr (.inl ⟨left, by
              simp [step, Connection.step, answer?, gone, read, next, Dispatcher.receive, kind,
                there]⟩))
          | some s =>
            have own : t.session? c.writer.session = some s := there
            exact .inr (.inr (.inr (.inl ⟨.heartbeatResponse s.family, left, by
              simp [step, Connection.step, answer?, gone, read, next, Dispatcher.receive, kind,
                own, offer, Connection.session, Sessions.send]⟩)))

/-- What comes later: more was offered, none of it accepted if the session was closed already,
and a closed session has stayed so. -/
structure Later (o o' : Outflow) : Prop where
  own : o'.connection.session = o.connection.session
  closed : o.closed = true → o'.closed = true
  offers : ∃ late, o'.offers = o.offers ++ late ∧
    (o.closed = true → ∀ entry ∈ late, entry.2 = false)

theorem Later.refl (o : Outflow) : o.Later o :=
  ⟨rfl, fun closed => closed, [], by simp, by simp⟩

theorem Later.trans {o p q : Outflow} (first : o.Later p) (second : p.Later q) : o.Later q := by
  obtain ⟨early, began, refused⟩ := first.offers
  obtain ⟨late, went, kept⟩ := second.offers
  refine ⟨second.own.trans first.own, fun closed => second.closed (first.closed closed),
    early ++ late, by rw [went, began, List.append_assoc], fun closed entry held => ?_⟩
  rcases List.mem_append.mp held with old | new
  · exact refused closed entry old
  · exact kept (first.closed closed) entry new

theorem Later.accepted {o p : Outflow} (later : o.Later p) : o.accepted <+: p.accepted := by
  obtain ⟨late, went, -⟩ := later.offers
  exact ⟨(late.filter (·.2)).map (·.1), by simp [Outflow.accepted, went]⟩

theorem Flows.closed (flows : Flows o s done lost) : o.closed = s.closed := by
  rw [Outflow.closed, flows.known]
  rfl

namespace Flows

/-- Nothing is offered meanwhile. -/
theorem later (flows : Flows o s done lost) {p : Outflow} {u : Session}
    (known : p.session? = some u)
    (own : p.connection.session = o.connection.session) (offers : p.offers = o.offers)
    (closed : s.closed = true → u.closed = true) : o.Later p := by
  refine ⟨own, ?_, [], by simp [offers], by simp⟩
  rw [flows.closed, Outflow.closed, known]
  exact closed

/-- Nothing changes about the messages. -/
theorem left (flows : Flows o s done lost) {p : Outflow} {u : Session} (known : p.session? = some u)
    (left : s.Left u) (writer : p.connection.writer = o.connection.writer)
    (offers : p.offers = o.offers) : Flows p u done lost ∧ o.Later p := by
  have stage : p.stage = o.stage := congrArg Writer.stage writer
  refine ⟨⟨known, writer ▸ flows.written, ?_, fun running => ?_, fun stopped => ?_⟩,
    flows.later known (congrArg Writer.session writer) offers left.closed⟩
  · rw [Outflow.accepted, offers, left.queue]
    exact flows.accepted
  · rw [left.listening]
    exact flows.running (stage ▸ running)
  · rw [left.queue]
    exact (flows.stopped (stage ▸ stopped)).imp left.closed id

theorem arrives (flows : Flows o s done lost) (d : Dispatcher) (inbox : Inbox) :
    Flows (o.step d (.arrives inbox)) s done lost ∧ o.Later (o.step d (.arrives inbox)) :=
  flows.left flows.known ⟨rfl, rfl, fun closed => closed⟩ rfl rfl

/-- The writer runs as long as the session is open. -/
theorem open_running (flows : Flows o s done lost) (fresh : s.closed = false) :
    o.stage ≠ .stopped := by
  intro stopped
  cases (flows.stopped stopped).1.symm.trans fresh

theorem accepts_eq (flows : Flows o s done lost) : s.accepts = !s.closed := by
  cases closed : s.closed with
  | true => simp [Session.accepts, closed]
  | false => simp [Session.accepts, closed, (flows.running (flows.open_running closed)).1]

theorem taken (flows : Flows o s done lost) (m : Message) :
    (o.offer m).offers = o.offers ++ [(m, !s.closed)] := by
  have known : o.table.session? o.connection.session = some s := flows.known
  rw [← flows.accepts_eq]
  simp [Outflow.offer, Sessions.send, Sessions.accepts, known]

/-- An offer is accepted as long as the session is open, and then it waits behind the others. -/
theorem offer (flows : Flows o s done lost) (m : Message) :
    Flows (o.offer m) (s.send m) done lost ∧ o.Later (o.offer m) := by
  have known : (o.offer m).session? = some (s.send m) :=
    Sessions.session?_modify_self (fun s => s.id_send m) flows.known
  have accepts := flows.accepts_eq
  have taken := flows.taken m
  cases closed : s.closed with
  | false =>
    rw [closed] at accepts taken
    have sent : s.send m = { s with queue := s.queue ++ [m] } := by rw [Session.send, accepts]; rfl
    have runs := flows.open_running closed
    obtain ⟨listening, none⟩ := flows.running runs
    refine ⟨⟨known, flows.written, ?_, fun _ => ?_, fun stopped => absurd stopped runs⟩, rfl, ?_, _,
      taken, ?_⟩
    · have before := flows.accepted
      simp only [none, List.append_nil] at before ⊢
      rw [Outflow.accepted, taken, sent]
      simp [← List.append_assoc, ← before, Outflow.accepted]
    · rw [sent]
      exact ⟨listening, none⟩
    · rw [flows.closed, closed]
      exact fun closed => Bool.noConfusion closed
    · rw [flows.closed, closed]
      exact fun closed => Bool.noConfusion closed
  | true =>
    rw [closed] at accepts taken
    have sent : s.send m = s.close := by rw [Session.send, accepts]; rfl
    refine ⟨⟨known, flows.written, ?_, fun running => ?_, fun stopped => ?_⟩, rfl, fun _ => ?_, _,
      taken, ?_⟩
    · rw [sent, Outflow.accepted, taken]
      simpa [Outflow.accepted, Session.close] using flows.accepted
    · rw [sent]
      exact flows.running running
    · rw [sent]
      exact ⟨rfl, (flows.stopped stopped).2⟩
    · rw [Outflow.closed, known, sent]
      rfl
    · simp

/-- The writer only turns to something else. -/
theorem turn (flows : Flows o s done lost) (running : o.stage ≠ .stopped) {p : Outflow}
    {stage : Writer.Stage} (runs : stage ≠ .stopped)
    (turned : p = { o with connection := { o.connection with
      writer := { o.connection.writer with stage := stage } } }) :
    Flows p s done lost ∧ o.Later p := by
  subst turned
  exact ⟨⟨flows.known, flows.written, flows.accepted, fun _ => flows.running running,
    fun stopped => absurd stopped runs⟩, flows.later flows.known rfl rfl id⟩

/-- The writer takes what waits down with it. -/
theorem stop (flows : Flows o s done lost) (running : o.stage ≠ .stopped) {p : Outflow}
    {t : Sessions} {u : Session} (closes : u.closed = true)
    (known : t.session? o.connection.writer.session = some u)
    (stopped : p = { o with
      table := (o.connection.writer.stop t).1
      connection := { o.connection with writer := (o.connection.writer.stop t).2 } }) :
    Flows p { u with listening := false, queue := [] } done s.queue ∧ o.Later p := by
  subst stopped
  have gone := Sessions.session?_modify_self
    (f := fun s => { s with listening := false, queue := [] }) (fun _ => rfl) known
  refine ⟨⟨gone, flows.written, ?_, fun running => absurd rfl running, fun _ => ⟨closes, rfl⟩⟩,
    flows.later gone rfl rfl fun _ => closes⟩
  have before := flows.accepted
  rw [(flows.running running).2, List.append_nil] at before
  rw [List.append_nil]
  exact before

/-- The writer writes the message that waits longest. -/
theorem write (flows : Flows o s done lost) (running : o.stage = .queue) {p : Outflow} {m : Message}
    {rest : List Message} {frame : Bytes} (queue : s.queue = m :: rest)
    (made : Frame.encode m = .ok frame)
    (wrote : p = { o with
      table := o.table.modify o.connection.writer.session fun s => { s with queue := rest }
      connection := { o.connection with
        writer := { o.connection.writer with written := o.connection.writer.written ++ [frame] } } }) :
    Flows p { s with queue := rest } (done ++ [m]) lost ∧ o.Later p := by
  subst wrote
  have runs : o.stage ≠ .stopped := by rw [running]; exact Writer.Stage.noConfusion
  have taken := Sessions.session?_modify_self
    (f := fun s => { s with queue := rest }) (fun _ => rfl) flows.known
  refine ⟨⟨taken, ?_, ?_, fun _ => flows.running runs, fun stopped => absurd stopped runs⟩,
    flows.later taken rfl rfl id⟩
  · rw [List.mapM_append, flows.written, List.mapM_cons, made]
    rfl
  · have before := flows.accepted
    rw [queue] at before
    simpa [Outflow.accepted] using before

/-- Every look of the writer is one of these. -/
theorem look (flows : Flows o s done lost) (d : Dispatcher) (succeeds : Bool) :
    ∃ s' done' lost', Flows (o.step d (.work (.write succeeds))) s' done' lost' ∧
      o.Later (o.step d (.work (.write succeeds))) ∧
      Look o (o.step d (.work (.write succeeds))) s done lost succeeds s' done' lost' := by
  have known : o.table.session? o.connection.writer.session = some s := flows.known
  have stepped : o.step d (.work (.write succeeds)) = { o with
      table := (o.connection.writer.step o.table succeeds).1
      connection := { o.connection with
        writer := (o.connection.writer.step o.table succeeds).2 } } := by
    simp [Outflow.step, Connection.step, answer?]
  generalize o.step d (.work (.write succeeds)) = p at stepped
  cases was : o.connection.writer.stage with
  | stopped =>
    simp only [Writer.step, was] at stepped
    subst stepped
    exact ⟨s, done, lost, flows, .refl o, .halted was was⟩
  | session =>
    have runs : o.stage ≠ .stopped := by rw [Outflow.stage, was]; exact Writer.Stage.noConfusion
    cases closed : s.closed with
    | true =>
      simp only [Writer.step, was, known, closed, if_true] at stepped
      obtain ⟨flowing, later⟩ := flows.stop runs closed known stepped
      exact ⟨_, done, _, flowing, later, .stops was (stepped ▸ rfl) closed⟩
    | false =>
      simp only [Writer.step, was, known, closed, Bool.false_eq_true, if_false] at stepped
      obtain ⟨flowing, later⟩ := flows.turn runs Writer.Stage.noConfusion stepped
      exact ⟨s, done, lost, flowing, later, .returns was (stepped ▸ rfl) closed⟩
  | queue =>
    have runs : o.stage ≠ .stopped := by rw [Outflow.stage, was]; exact Writer.Stage.noConfusion
    cases queue : s.queue with
    | nil =>
      simp only [Writer.step, was, known, queue] at stepped
      obtain ⟨flowing, later⟩ := flows.turn runs Writer.Stage.noConfusion stepped
      exact ⟨s, done, lost, flowing, later, .turns was (stepped ▸ rfl) queue⟩
    | cons m rest =>
      have wrote : o.connection.writer.step o.table succeeds =
          o.connection.writer.write o.table m rest succeeds := by
        simp only [Writer.step, was, known, queue]
      rw [wrote] at stepped
      have breaks (broken : succeeds = false ∨ ∃ fault, Frame.encode m = .error fault)
          (gone : o.connection.writer.write o.table m rest succeeds =
            o.connection.writer.stop (o.table.close o.connection.writer.session)) :
          ∃ s' done' lost', Flows p s' done' lost' ∧ o.Later p ∧
            Look o p s done lost succeeds s' done' lost' := by
        rw [gone] at stepped
        obtain ⟨flowing, later⟩ := flows.stop runs (u := s.close) rfl
          (Sessions.session?_modify_self (fun _ => rfl) known) stepped
        exact ⟨_, done, _, flowing, later, .breaks was (stepped ▸ rfl) queue broken⟩
      cases made : Frame.encode m with
      | error fault => exact breaks (.inr ⟨fault, made⟩) (by simp only [Writer.write, made])
      | ok frame =>
        cases succeeds with
        | false => exact breaks (.inl rfl) (by simp only [Writer.write, made])
        | true =>
          simp only [Writer.write, made] at stepped
          obtain ⟨flowing, later⟩ := flows.write was queue made stepped
          exact ⟨_, _, lost, flowing, later, .writes was (stepped ▸ was) queue⟩

/-- A move without a look, or behind the last one, leaves the messages where they stood. -/
theorem still (flows : Flows o s done lost) (d : Dispatcher) (move : Move)
    (spares : move.Spares o.connection.session)
    (quiet : o.stage = .stopped ∨ move.looks = false) :
    ∃ s', Flows (o.step d move) s' done lost ∧ o.Later (o.step d move) ∧
      (o.step d move).stage = o.stage := by
  cases move with
  | send m =>
    obtain ⟨flowing, later⟩ := flows.offer m
    exact ⟨_, flowing, later, rfl⟩
  | close =>
    obtain ⟨flowing, later⟩ := flows.left (p := o.step d .close) (u := s.close)
      (Sessions.session?_modify_self (fun _ => rfl) flows.known) ⟨rfl, rfl, fun _ => rfl⟩ rfl rfl
    exact ⟨_, flowing, later, rfl⟩
  | elsewhere event =>
    obtain ⟨u, known, left⟩ := Sessions.left_step flows.known event spares
    obtain ⟨flowing, later⟩ := flows.left (p := o.step d (.elsewhere event)) known left rfl rfl
    exact ⟨_, flowing, later, rfl⟩
  | arrives inbox =>
    obtain ⟨flowing, later⟩ := flows.arrives d inbox
    exact ⟨_, flowing, later, rfl⟩
  | work event =>
    rcases o.work_cases d event with same | ⟨succeeds, rfl, -⟩ | ⟨inbox, same⟩ |
      ⟨m, inbox, same⟩ | ⟨leaving, same⟩
    · rw [same]
      exact ⟨s, flows, .refl o, rfl⟩
    · have halted : o.stage = .stopped := quiet.resolve_right Bool.noConfusion
      obtain ⟨s', done', lost', flowing, later, look⟩ := flows.look d succeeds
      cases look with
      | halted was now => exact ⟨s, flowing, later, now.trans was.symm⟩
      | writes was | breaks was | turns was | returns was | stops was => cases halted.symm.trans was
    · obtain ⟨flowing, later⟩ := flows.arrives d inbox
      rw [same]
      exact ⟨_, flowing, later, rfl⟩
    · obtain ⟨read, before⟩ := flows.arrives d inbox
      obtain ⟨flowing, after⟩ := read.offer m
      rw [same]
      exact ⟨_, flowing, before.trans after, rfl⟩
    · obtain ⟨u, known, left⟩ := Sessions.left_step flows.known
        (.disconnect o.connection.session) trivial
      obtain ⟨flowing, later⟩ := flows.left (p := o.step d (.work event))
        (by rw [same]; exact known) left (by rw [same]) (by rw [same])
      exact ⟨_, flowing, later, by rw [same]; rfl⟩

theorem step (flows : Flows o s done lost) (d : Dispatcher) (move : Move)
    (spares : move.Spares o.connection.session) :
    ∃ s' done' lost', Flows (o.step d move) s' done' lost' ∧ o.Later (o.step d move) := by
  cases looks : move.looks with
  | false =>
    obtain ⟨s', flowing, later, -⟩ := flows.still d move spares (.inr looks)
    exact ⟨s', done, lost, flowing, later⟩
  | true =>
    obtain ⟨succeeds, rfl⟩ := Move.eq_write looks
    obtain ⟨s', done', lost', flowing, later, -⟩ := flows.look d succeeds
    exact ⟨s', done', lost', flowing, later⟩

/-- What a run comes to: from where the messages stood to where they stand after it. -/
theorem run (flows : Flows o s done lost) (d : Dispatcher) (moves : List Move)
    (spares : ∀ move ∈ moves, move.Spares o.connection.session) :
    ∃ s' done' lost', Flows (o.after d moves) s' done' lost' ∧ o.Later (o.after d moves) := by
  induction moves generalizing o s done lost with
  | nil => exact ⟨s, done, lost, flows, .refl o⟩
  | cons move rest ih =>
    obtain ⟨here, there⟩ := List.forall_mem_cons.mp spares
    obtain ⟨s₁, done₁, lost₁, flowing, first⟩ := flows.step d move here
    rw [← first.own] at there
    obtain ⟨s₂, done₂, lost₂, flown, second⟩ := ih flowing there
    exact ⟨s₂, done₂, lost₂, flown, first.trans second⟩

/-- At every moment of a run the messages stand so, and the rest of it spares the session too. -/
theorem reach (flows : Flows o s done lost) (d : Dispatcher) (earlier later : List Move)
    (spares : ∀ move ∈ earlier ++ later, move.Spares o.connection.session) :
    ∃ s' done' lost', Flows (o.after d earlier) s' done' lost' ∧
      ∀ move ∈ later, move.Spares (o.after d earlier).connection.session := by
  obtain ⟨early, behind⟩ := List.forall_mem_append.mp spares
  obtain ⟨s', done', lost', flowing, past⟩ := flows.run d earlier early
  rw [← past.own] at behind
  exact ⟨s', done', lost', flowing, behind⟩

theorem later_append (flows : Flows o s done lost) (d : Dispatcher) (earlier later : List Move)
    (spares : ∀ move ∈ earlier ++ later, move.Spares o.connection.session) :
    (o.after d earlier).Later (o.after d (earlier ++ later)) := by
  obtain ⟨_, _, _, flowing, behind⟩ := flows.reach d earlier later spares
  obtain ⟨_, _, _, -, since⟩ := flowing.run d later behind
  rw [after_append]
  exact since

/-- A run without looks, or behind the last one, leaves the messages where they stood. -/
theorem rest (flows : Flows o s done lost) (d : Dispatcher) (moves : List Move)
    (spares : ∀ move ∈ moves, move.Spares o.connection.session)
    (quiet : o.stage = .stopped ∨ ∀ move ∈ moves, move.looks = false) :
    ∃ s', Flows (o.after d moves) s' done lost ∧ (o.after d moves).stage = o.stage := by
  induction moves generalizing o s with
  | nil => exact ⟨s, flows, rfl⟩
  | cons move rest ih =>
    obtain ⟨here, there⟩ := List.forall_mem_cons.mp spares
    rw [List.forall_mem_cons] at quiet
    obtain ⟨s₁, flowing, later, same⟩ := flows.still d move here (quiet.imp_right And.left)
    rw [← later.own] at there
    rw [← same] at quiet
    obtain ⟨s₂, flown, still⟩ := ih flowing there (quiet.imp_right And.right)
    exact ⟨s₂, flown, still.trans same⟩

end Flows
end Outflow
end Connection
end ClusterWire
