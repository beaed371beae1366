import ClusterWire.Connection
import ClusterWire.Proofs.Frame.RoundTrip
import ClusterWire.Proofs.Session.Bindings

/-! Who the requests of a client run for. A client's connection is told from another
server's once, by its first two bytes, but every frame has a family of its own, and it is
the frame's family that says where the identity comes from. A frame of a client that keeps
to its family runs for nobody or for an identity bound to the client's own session; one that
does not runs for whomever it names. -/
namespace ClusterWire

namespace Sessions

/-- One table comes out of another by what may happen to a table. -/
inductive Leads (t : Sessions) : Sessions → Prop where
  | refl : Leads t t
  | step {u : Sessions} (event : SessionEvent) : Leads t u → u.Admits event → Leads t (u.step event)

theorem Leads.one {t : Sessions} (event : SessionEvent) (admits : t.Admits event) :
    t.Leads (t.step event) :=
  .step event .refl admits

theorem Run.leads {events : List SessionEvent} {t u : Sessions} (run : Run events t)
    (leads : t.Leads u) : ∃ events, Run events u := by
  induction leads with
  | refl => exact ⟨events, run⟩
  | step event _ admits ih =>
    obtain ⟨past, behind⟩ := ih
    exact ⟨_, behind.step event admits⟩

def family? (t : Sessions) (id : SessionId) : Option Family := (t.session? id).map (·.family)

theorem lasts_family : Lasts fun s u => u.family = s.family where
  refl _ := rfl
  trans _ _ _ first second := second.trans first
  adds s i := by
    unfold Session.addIdentity
    split <;> rfl
  removes _ _ := rfl
  retires _ := rfl

/-- A session keeps the family that it was opened with. -/
theorem family?_step {t : Sessions} {id : SessionId} {family : Family}
    (known : t.family? id = some family) (event : SessionEvent) (admits : t.Admits event) :
    (t.step event).family? id = some family := by
  obtain ⟨s, entry, own⟩ := Option.map_eq_some_iff.mp known
  have alters : ∀ other change, event = .alter other change →
      (∀ s, (change s).id = s.id) ∧ (other = id → ∀ s, (change s).family = s.family) := by
    rintro other change rfl
    exact ⟨admits.id, fun _ => admits.family⟩
  obtain ⟨u, after, same⟩ := related_step lasts_family entry event alters
  rw [family?, after, Option.map_some, same, own]

theorem Leads.family? {t u : Sessions} (leads : t.Leads u) {id : SessionId} {family : Family}
    (known : t.family? id = some family) : u.family? id = some family := by
  induction leads with
  | refl => exact known
  | step event _ admits ih => exact family?_step ih event admits

theorem harmless_send (m : Message) : Harmless (·.send m) where
  id s := s.id_send m
  family s := by unfold Session.send; split <;> rfl
  identities s := by unfold Session.send; split <;> rfl

theorem leads_send (t : Sessions) (id : SessionId) (m : Message) : t.Leads (t.send id m).1 :=
  .one (.alter id (·.send m)) (harmless_send m)

end Sessions

open Sessions (Leads)

namespace Writer

theorem leads_stop (w : Writer) (t : Sessions) : t.Leads (w.stop t).1 :=
  .one (.alter w.session _) ⟨fun _ => rfl, fun _ => rfl, fun _ => rfl⟩

theorem leads_write (w : Writer) (t : Sessions) (m : Message) (rest : List Message)
    (succeeds : Bool) : t.Leads (w.write t m rest succeeds).1 := by
  unfold write
  split
  · exact .one (.alter w.session _) ⟨fun _ => rfl, fun _ => rfl, fun _ => rfl⟩
  · have closed : t.Leads (t.close w.session) :=
      .one (.alter w.session (·.close)) ⟨fun _ => rfl, fun _ => rfl, fun _ => rfl⟩
    exact .step (.alter w.session _) closed ⟨fun _ => rfl, fun _ => rfl, fun _ => rfl⟩

theorem leads_step (w : Writer) (t : Sessions) (succeeds : Bool) :
    t.Leads (w.step t succeeds).1 := by
  unfold step
  split
  · split
    · exact w.leads_write t _ _ succeeds
    · exact .refl
  · split
    · exact w.leads_stop t
    · exact .refl
  all_goals exact .refl

theorem session_step (w : Writer) (t : Sessions) (succeeds : Bool) :
    (w.step t succeeds).2.session = w.session := by
  unfold step
  split
  · split
    · unfold write
      split <;> rfl
    · rfl
  · split <;> rfl
  all_goals rfl

end Writer

namespace Dispatcher

theorem leads_receive (d : Dispatcher) (t : Sessions) (id : SessionId) (m : Message) :
    t.Leads (d.receive t id m).1 := by
  unfold receive
  split
  · exact t.leads_send id _
  all_goals exact .refl

/-- A job is a request of the session, under the identity that the extractor finds; to make
it a job changes no session. -/
theorem receive_eq_job {d : Dispatcher} {t u : Sessions} {id : SessionId} {m : Message}
    {job : Dispatch.Job} (received : d.receive t id m = (u, some job)) :
    u = t ∧ m.kind = .request ∧ ∃ s, t.session? id = some s ∧
      job = ((d.context s m).identity, d.process id m (d.context s m)) := by
  unfold receive at received
  split at received
  · cases received
  · cases received
  · cases received
  · rw [Prod.mk.injEq] at received
    obtain ⟨same, dispatched⟩ := received
    refine ⟨same.symm, ?_⟩
    unfold dispatch at dispatched
    split at dispatched
    · rename_i s request known
      cases dispatched
      exact ⟨request, s, known, rfl⟩
    · cases dispatched

end Dispatcher

namespace Connection

/-- Nobody's identity, or one that is bound to the session. -/
def Owns (t : Sessions) (id : SessionId) (identity : Int64) : Prop :=
  identity = 0 ∨ t.resolve identity = some id

/-- A client's connection at work: it was opened by a client's preamble; bytes and messages
arrive on it, any at all; it does its own steps; and between these anything may happen to
the sessions. -/
inductive Serves (d : Dispatcher) : Connection → Sessions → Prop where
  | opened {events : List SessionEvent} {t u : Sessions} {remote : SocketAddress} {limit : Nat}
      {type : UInt8} {preamble : Preamble} {c : Connection} (run : Sessions.Run events t)
      (client : preamble = .binary .external ∨ preamble = .webSocket)
      (accepted : open? t remote limit type preamble = some (u, c)) : Serves d c u
  | arrives {c : Connection} {t : Sessions} (inbox : Inbox) :
      Serves d c t → Serves d { c with inbox := inbox } t
  | elsewhere {c : Connection} {t : Sessions} (event : SessionEvent) :
      Serves d c t → t.Admits event → Serves d c (t.step event)
  | steps {c : Connection} {t : Sessions} (event : Event) :
      Serves d c t → Serves d (c.step d t event).2.1 (c.step d t event).1

/-- All that a step of a connection can be: nothing at all, a step of the writer, a message
that is read and handed over, or the end of reading. -/
theorem step_cases (d : Dispatcher) (c : Connection) (t : Sessions) (event : Event) :
    c.step d t event = (t, c, none) ∨
    (∃ succeeds, c.step d t event =
      ((c.writer.step t succeeds).1, { c with writer := (c.writer.step t succeeds).2 }, none)) ∨
    (∃ m left, c.inbox.next c.limit c.remote = .message m left ∧ c.step d t event =
      ((d.receive t c.session m).1, { c with inbox := left }, (d.receive t c.session m).2)) ∨
    ∃ leaving, c.step d t event = ((c.leave t leaving).1, (c.leave t leaving).2, none) := by
  cases gone : c.leaving with
  | some _ =>
    cases event with
    | write succeeds => exact .inr (.inl ⟨succeeds, by simp only [step, gone]⟩)
    | read | idle | shutdown | closed => exact .inl (by simp only [step, gone])
  | none =>
    cases event with
    | write succeeds => exact .inr (.inl ⟨succeeds, by simp only [step, gone]⟩)
    | idle | shutdown => exact .inr (.inr (.inr ⟨.orderly, by simp only [step, gone, if_true]⟩))
    | closed =>
      cases due : (t.session? c.session).any (·.closed) with
      | true => exact .inr (.inr (.inr ⟨.orderly, by simp only [step, gone, due, if_true]⟩))
      | false => exact .inl (by simp only [step, gone, due, Bool.false_eq_true, if_false])
    | read =>
      cases next : c.inbox.next c.limit c.remote with
      | nothing => exact .inl (by simp only [step, gone, read, next])
      | message m left =>
        exact .inr (.inr (.inl ⟨m, left, rfl, by simp only [step, gone, read, next]⟩))
      | ended leaving =>
        exact .inr (.inr (.inr ⟨leaving, by simp only [step, gone, read, next]⟩))
      | overrun => exact .inr (.inr (.inr ⟨_, by simp only [step, gone, read, next]; rfl⟩))

/-- A step of a connection is something that may happen to the sessions, and leaves the
connection its session. -/
theorem leads_step (d : Dispatcher) (c : Connection) {t : Sessions}
    (known : (t.session? c.session).isSome) (event : Event) :
    t.Leads (c.step d t event).1 ∧ (c.step d t event).2.1.session = c.session := by
  rcases c.step_cases d t event with same | ⟨succeeds, same⟩ | ⟨m, left, -, same⟩ | ⟨leaving, same⟩
  · rw [same]
    exact ⟨.refl, rfl⟩
  · rw [same]
    exact ⟨c.writer.leads_step t succeeds, c.writer.session_step t succeeds⟩
  · rw [same]
    exact ⟨d.leads_receive t c.session m, rfl⟩
  · rw [same]
    exact ⟨.one (.disconnect c.session) known, rfl⟩

theorem isSome_of_family? {t : Sessions} {id : SessionId} {family : Family}
    (known : t.family? id = some family) : (t.session? id).isSome := by
  obtain ⟨s, entry, -⟩ := Option.map_eq_some_iff.mp known
  exact Option.isSome_iff_exists.mpr ⟨s, entry⟩

/-- The table is reachable, and the session of the connection is a client's. -/
theorem serves_external {d : Dispatcher} {c : Connection} {t : Sessions} (serves : Serves d c t) :
    (∃ events, Sessions.Run events t) ∧ t.family? c.session = some .external := by
  induction serves with
  | @opened events t u remote limit type preamble c run client accepted =>
    have unknown := (Sessions.consistent_of_run run).newcomer_unknown
    have external : ∃ inbox, framing? preamble = some (.external, inbox) := by
      rcases client with rfl | rfl <;> exact ⟨_, rfl⟩
    obtain ⟨inbox, framed⟩ := external
    rw [open?, framed] at accepted
    cases accepted
    refine ⟨⟨_, run.step (.create remote .external type) trivial⟩, ?_⟩
    change ((t.create remote .external type).1.session? t.newcomer).map _ = _
    rw [Sessions.session?_create, unknown, if_pos rfl]
    rfl
  | arrives inbox _ ih => exact ih
  | elsewhere event _ admits ih =>
    obtain ⟨⟨past, run⟩, known⟩ := ih
    exact ⟨⟨_, run.step event admits⟩, Sessions.family?_step known event admits⟩
  | @steps c t event _ ih =>
    obtain ⟨⟨past, run⟩, known⟩ := ih
    obtain ⟨leads, same⟩ := leads_step d c (isSome_of_family? known) event
    refine ⟨run.leads leads, ?_⟩
    rw [same]
    exact leads.family? known

/-- A job comes from a message that was read. -/
theorem step_eq_job {d : Dispatcher} {c c' : Connection} {t u : Sessions} {event : Event}
    {job : Dispatch.Job} (stepped : c.step d t event = (u, c', some job)) :
    ∃ m left, c.inbox.next c.limit c.remote = .message m left ∧
      d.receive t c.session m = (u, some job) := by
  rcases c.step_cases d t event with same | ⟨succeeds, same⟩ | ⟨m, left, next, same⟩ |
    ⟨leaving, same⟩ <;> rw [same] at stepped
  · cases stepped
  · cases stepped
  · rw [Prod.mk.injEq, Prod.mk.injEq] at stepped
    exact ⟨m, left, next, Prod.ext stepped.1 stepped.2.2⟩
  · cases stepped

theorem owns_primary {t : Sessions} (consistent : t.Consistent) {id : SessionId} {s : Session}
    (known : t.session? id = some s) : Owns t id (s.primary?.getD 0) := by
  cases first : s.primary? with
  | none => exact .inl rfl
  | some i =>
    have listed : i ∈ t.identitiesOf id := by
      rw [Sessions.identitiesOf_eq known]
      exact List.mem_of_mem_head? first
    exact .inr ((consistent.agree i id).mpr listed)

/-- A job of a client's connection runs a request that was read from it, under a number of
its own and on its own session. Its identity is the client's own, or nobody's, if and only
if the frame is of the clients' family or names nobody but the client. -/
theorem client_identity_iff {d : Dispatcher} (default : d.extract = Dispatch.defaultExtractor)
    {c c' : Connection} {t u : Sessions} (serves : Serves d c t) {event : Event}
    {job : Dispatch.Job} (stepped : c.step d t event = (u, c', some job)) :
    ∃ m left ctx, c.inbox.next c.limit c.remote = .message m left ∧ m.kind = .request ∧
      u = t ∧ job = (ctx.identity, d.process c.session m ctx) ∧ ctx.sequence = m.sequence ∧
      (Owns t c.session ctx.identity ↔ m.family = .external ∨ Owns t c.session m.caller) := by
  obtain ⟨⟨events, run⟩, -⟩ := serves_external serves
  obtain ⟨m, left, next, received⟩ := step_eq_job stepped
  obtain ⟨same, request, s, known, rfl⟩ := Dispatcher.receive_eq_job received
  refine ⟨m, left, d.context s m, next, request, same, rfl, rfl, ?_⟩
  have identity : (d.context s m).identity = Dispatch.defaultExtractor s m := by
    rw [Dispatcher.context, default]
  rw [identity, Dispatch.defaultExtractor]
  cases own : m.family with
  | external =>
    have owned := owns_primary (Sessions.consistent_of_run run) known
    simp [owned]
  | internal => simp

/-- Two clients, the second of which has logged in as 77. -/
def clients : Sessions :=
  Sessions.after [.create (.loopback 5000) .external 0, .create (.loopback 5001) .external 0,
    .bind 77 ⟨2⟩]

/-- The connection of the first client, with what it has sent. -/
def first (sent : Message) : Connection :=
  { remote := .loopback 5000, limit := Frame.defaultLimit
    inbox := .stream (Frame.frameOf sent) false, writer := { session := ⟨1⟩ } }

def plain : Dispatcher := { registry := ⟨[], [], []⟩, serializers := .standard }

theorem serves_first (sent : Message) : Serves plain (first sent) clients := by
  have accepted : open? .empty (.loopback 5000) Frame.defaultLimit 0 (.binary .external) =
      some (Sessions.after [.create (.loopback 5000) .external 0],
        { first sent with inbox := .stream [] false }) := rfl
  have opened : Serves plain _ _ := .opened .start (.inl rfl) accepted
  have joined := opened.elsewhere (.create (.loopback 5001) .external 0) trivial
  have bound := joined.elsewhere (.bind 77 ⟨2⟩) rfl
  exact bound.arrives (.stream (Frame.frameOf sent) false)

/-- The first client's session, which is still open and bound to nothing. -/
def firstSession : Session :=
  { id := ⟨1⟩, remote := .loopback 5000, family := .external, serializeType := 0 }

theorem next_first {sent : Message} (fits : Frame.Fits sent)
    (allowed : Frame.length sent ≤ Frame.defaultLimit) :
    (first sent).inbox.next (first sent).limit (first sent).remote =
      .message sent (.stream [] false) := by
  have decoded := Frame.decode_frameOf fits allowed []
  rw [List.append_nil] at decoded
  simp only [first, Inbox.next, Inbox.nextInStream, decoded]

theorem step_first {sent : Message} (fits : Frame.Fits sent)
    (allowed : Frame.length sent ≤ Frame.defaultLimit) (request : sent.kind = .request) :
    (first sent).step plain clients .read =
      (clients, { first sent with inbox := .stream [] false },
        some (Dispatch.defaultExtractor firstSession sent,
          plain.process ⟨1⟩ sent (plain.context firstSession sent))) := by
  have known : clients.session? (first sent).session = some firstSession := rfl
  have received : plain.receive clients (first sent).session sent =
      (clients, plain.dispatch clients (first sent).session sent) := by
    simp only [Dispatcher.receive, request]
  have stepped : (first sent).step plain clients .read = (first sent).read plain clients := rfl
  simp only [stepped, read, next_first fits allowed, received, Dispatcher.dispatch, request, known]
  rfl

/-- A request of the first client that keeps to its family runs for nobody. -/
theorem client_identity_iff_first : ∃ u c job,
    (first (.clientRequest 1 ⟨10, 1⟩ [])).step plain clients .read = (u, c, some job) ∧
    Owns clients ⟨1⟩ job.1 := by
  have fits : Frame.Fits (.clientRequest 1 ⟨10, 1⟩ []) := ⟨by simp [Message.hint], by decide⟩
  have stepped := step_first fits (by decide) rfl
  obtain ⟨m, left, ctx, next, -, -, job, -, owned⟩ :=
    client_identity_iff (d := plain) rfl (serves_first _) stepped
  have sent : m = .clientRequest 1 ⟨10, 1⟩ [] := by
    rw [next_first fits (by decide), Inbox.Next.message.injEq] at next
    exact next.1.symm
  refine ⟨_, _, _, stepped, ?_⟩
  rw [job]
  exact owned.mpr (.inl (by rw [sent]; rfl))

/-- A client that names another's identity in a frame of the servers' family has its request
run under it. -/
theorem named_identity_taken : ∃ u c job,
    Serves plain (first (.peerRequest 1 ⟨10, 1⟩ 77 none [])) clients ∧
    (first (.peerRequest 1 ⟨10, 1⟩ 77 none [])).step plain clients .read = (u, c, some job) ∧
    job.1 = 77 ∧ clients.resolve 77 = some ⟨2⟩ :=
  ⟨_, _, _, serves_first _,
    step_first ⟨by simp [Message.hint], by decide⟩ (by decide) rfl, rfl, rfl⟩

end Connection
end ClusterWire
