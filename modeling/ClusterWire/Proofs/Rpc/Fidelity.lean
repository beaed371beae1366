import ClusterWire.Connection
import ClusterWire.Proofs.Link.Dropped
import ClusterWire.Proofs.Push.Frames
import ClusterWire.Proofs.Rpc.Asking
import ClusterWire.Proofs.Rpc.Handling

/-! A call from end to end. What the caller learns of it is how the handler ended that was given
what the caller passed, and nothing that is pushed to the caller in between is taken for that. -/
namespace ClusterWire

/-- What a caller learns from an answer. -/
def Reply.learned : Reply → Except RpcFault Json
  | value _ v => .ok v
  | error code message => .error (.remote code message)

/-- What a caller learns of the end of a handler. -/
def Call.learned : Except Panic (Except HandlerFault Json) → Except RpcFault Json
  | .ok (.ok v) => .ok v
  | .ok (.error (.domain code message)) => .error (.remote code message)
  | .ok (.error (.unexpected _)) | .error _ => .error (.remote .unknown "unknown error")

theorem Reply.learned_ofEnd (protocol : ProtocolId)
    (outcome : Except Panic (Except HandlerFault Json)) :
    (ofEnd protocol outcome).learned = Call.learned outcome := by
  match outcome with
  | .ok (.ok _) | .ok (.error (.domain _ _)) | .ok (.error (.unexpected _)) | .error _ => rfl

theorem Call.learned_eq_ok {outcome : Except Panic (Except HandlerFault Json)} {v : Json} :
    learned outcome = .ok v ↔ outcome = .ok (.ok v) := by
  match outcome with
  | .ok (.ok _) => simp [learned]
  | .ok (.error (.domain _ _)) | .ok (.error (.unexpected _)) | .error _ => simp [learned]

theorem Reply.portable_of_learned {r : Reply} (portable : ∀ v, r.learned = .ok v → v.Portable) :
    r.Portable := by
  cases r with
  | value protocol v => exact portable v rfl
  | error code message => trivial

/-- No answer to a call of a handler is taken for one of another kind. -/
theorem Reply.Legible.decodeResponse_any {r : Reply} {z : Serializer} {m : Message}
    (legible : r.Legible z m) (free : ∀ own v, r = .value own v → own.isReserved = false) :
    decodeResponse z Json.Shape.any m = r.learned := by
  cases r with
  | value own v => exact legible.decodeResponse_value (free own v rfl)
  | error code message => exact legible.decodeResponse_error Json.Shape.any

namespace Peer.Outgoing

open Activity (Runs)

variable (settings : PeerSettings) {o : Outgoing} {d : Dispatcher} {id : SessionId} {n : Int64}
  {descriptor : Descriptor} {handler : Handler World}

/-- The frame ends a call that is out, for good: the caller finds that result whenever it looks,
and no subscriber hears of the frame. -/
def Brings (call : Invocation) (answer : Message) (result : Except RpcFault Json) : Prop :=
  ∀ b : Board, b.desk.Waits settings.serializers call →
    ∀ link l succeeds, b.peers.link? link = some l → l.phase = .running →
      let after := b.step settings.serializers settings.link link (.receive answer succeeds)
      after.peers.clients = b.peers.clients ∧
      ∀ events clock reaper,
        obtains settings call ⟨after.desk.steps settings.serializers events, clock, reaper⟩ = result

/-- The server queues one frame for the caller, which goes over the wire and brings the caller
that result. A request under 0 is not answered. -/
def Answers (o : Outgoing) (n : Int64) (id : SessionId) (result : Except RpcFault Json)
    (stop done : World) : Prop :=
  done = stop.withSessions done.sessions ∧ (n = 0 → done.sessions = stop.sessions) ∧
  (n ≠ 0 → (∀ v, result = .ok v → v.Portable) → ∃ answer,
    stop.sessions.Queued id answer done.sessions ∧
    (∀ limit, Frame.Within limit answer → Frame.Crosses limit answer) ∧
    ∀ now, Brings settings (o.invocation settings now n) answer result)

theorem brings_of_legible {now : Instant} (asked : n ≠ 0) {r : Reply} {answer : Message}
    (legible : r.Legible settings.link answer) (own : answer.sequence = n)
    (free : ∀ own v, r = .value own v → own.isReserved = false) :
    Brings settings (o.invocation settings now n) answer r.learned := by
  intro b waits link l succeeds there running
  obtain ⟨unheard, filled⟩ := Board.filled_of_answer settings.serializers waits rfl there running
    settings.link legible.kind own asked succeeds
  refine ⟨unheard, fun events clock reaper => ?_⟩
  rw [obtains_of_filled settings (filled events)]
  exact legible.decodeResponse_any free

theorem answers_deliver {identity : Int64} {stop : World} (meets : d.Meets id settings.link stop)
    {r : Reply} (free : ∀ own v, r = .value own v → own.isReserved = false) :
    o.Answers settings n id r.learned stop (stop.withSessions
      (Reply.deliver d.serializers id ⟨identity, n⟩ (some r) stop.sessions)) := by
  refine ⟨rfl, fun quiet => Reply.deliver_quiet (.inl quiet), fun asked portable => ?_⟩
  have expects : (CallContext.mk identity n).sequence ≠ 0 := asked
  obtain ⟨answer, queued, legible, family, body, same⟩ :=
    Dispatcher.deliver_meets meets expects (Reply.portable_of_learned portable)
  refine ⟨answer, queued, fun limit within => ?_, fun now => ?_⟩
  · rw [same] at within ⊢
    exact Frame.crosses_response within
  · exact brings_of_legible settings asked legible (same ▸ rfl) free

/-- What is answered to a call of a handler is what the caller learns of the end of it. -/
theorem answers_of_handles (offers : d.Offers o.protocol descriptor handler) {identity : Int64}
    {start stop : World} {found : List (Activity.Found World)} {reply : Reply}
    (meets : d.Meets id settings.link start)
    (handles : d.Handles id settings.link ⟨identity, n⟩ descriptor handler o.argument start found
      stop reply) :
    o.Answers settings n id reply.learned stop (stop.withSessions
      (Reply.deliver d.serializers id ⟨identity, n⟩ (some reply) stop.sessions)) := by
  refine answers_deliver settings (Dispatcher.meets_of_handles meets handles) ?_
  rintro own v rfl
  rcases handles with ⟨args, outcome, -, -, same⟩ | ⟨_, -, -, -, -, same⟩
  · have named : own = descriptor.protocol := by
      match outcome with
      | .ok (.ok _) => exact congrArg Reply.protocol same
      | .ok (.error (.domain _ _)) | .ok (.error (.unexpected _)) | .error _ => cases same
    rw [named, Registry.protocol_of_handler? offers.bound]
    exact offers.built.handled_not_reserved offers.bound
  · cases same

theorem request_decodes (portable : o.argument.Portable) (n : Int64) :
    settings.link.decode (o.request settings n).body = .ok o.argument :=
  (settings.link.decode_encode portable.lawful).mpr portable.nested

/-- The request of a call runs at the server for the identity of the caller. -/
theorem received (n : Int64) {w : World} (meets : d.Meets id settings.link w) : ∃ identity,
    (d.extract = Dispatch.defaultExtractor → identity = o.ctx.identity) ∧
    d.receive w.sessions id (o.request settings n) =
      (w.sessions, some (identity, d.process id (o.request settings n) ⟨identity, n⟩)) := by
  obtain ⟨s, known, -⟩ := meets
  refine ⟨d.extract s (o.request settings n), fun standard => ?_, ?_⟩
  · rw [standard]
    rfl
  · have request : (o.request settings n).kind = .request := rfl
    simp only [Dispatcher.receive, Dispatcher.dispatch, request, known]
    rfl

/-- A call under a number of its caller's table is entered as a link takes its request. -/
structure Sends (o : Outgoing) (call : Invocation) (s : Sending) (now : Instant) (n : Int64) :
    Prop where
  own : call = o.invocation settings now n
  message : s.message = o.request settings n
  enters : ∀ w added ended link l reason, Desk.Run settings.serializers w.board.desk added ended →
    w.board.desk.Admits (.add call) → s.stage = .posting link →
    w.peers.link? link = some l → l.phase ≠ .stopped →
    let after := s.work settings reason w
    after.1.board.desk.Waits settings.serializers call ∧
    after.1.peers.link? link = some { l with queue := l.queue ++ [s.message] } ∧
    after.2.stage = .ended (.ok ())

/-- In every run of its request the handler is given what the caller passed, and however it ends,
the server queues one frame for the caller that brings it that end. With push targets the envelope
that was passed is opened for the handler, and what is none is answered as a bad request. Every way
in which the handler can end comes about in such a run. -/
structure Handled (o : Outgoing) (d : Dispatcher) (descriptor : Descriptor)
    (handler : Handler World) (id : SessionId) (n identity : Int64) (start : World) : Prop where
  ends : ∀ found done r,
    Runs (d.Meets id settings.link) (d.life id (o.request settings n) ⟨identity, n⟩) start found
      done r → r = .ok () ∧ ∃ stop,
    (∃ args outcome, descriptor.Gives id ⟨identity, n⟩ o.argument args ∧
      (handler args).Ends (d.Meets id settings.link) start found stop outcome ∧
      o.Answers settings n id (Call.learned outcome) stop done) ∨
    ∃ fault, descriptor.binds .pushTargets = true ∧
      PushEnvelope.shape o.argument = .error fault ∧ stop = start ∧
      o.Answers settings n id (.error (.remote .badRequest
        s!"malformed request body: {(CodecFault.json (.shape fault)).message}")) stop done
  comes : ∀ found stop args outcome, descriptor.Gives id ⟨identity, n⟩ o.argument args →
    (handler args).Ends (d.Meets id settings.link) start found stop outcome →
    ∃ done, Runs (d.Meets id settings.link) (d.life id (o.request settings n) ⟨identity, n⟩)
        start found done (.ok ()) ∧
      o.Answers settings n id (Call.learned outcome) stop done

/-- What a call does is what starting a call does: it makes up its request under the next number of
the caller's table. The request goes over the wire, and runs at the server for the identity of the
caller. The caller learns a value if and only if the handler gave it, the code and the message of
its fault, and an unknown error for everything else. Pushes are responses under 0, and change
nothing about any call. -/
structure Faithful (o : Outgoing) (d : Dispatcher) (descriptor : Descriptor)
    (handler : Handler World) (id : SessionId) : Prop where
  starts : o.rest settings =
    startCall settings o.address o.ctx o.protocol o.argument o.synchronous
  works : ∀ (o : Outgoing) reason w, (o.rest settings).tick reason w =
    ((o.work settings reason w).1, (o.work settings reason w).2.rest settings)
  sends : ∀ found call s, (o.after settings found).stage = .sending call s → ∃ now n,
    (∃ x ∈ found, n = x.2.calls.next.2) ∧ Sends settings o call s now n
  crosses : ∀ n limit, Frame.Within limit (o.request settings n) →
    Frame.Crosses limit (o.request settings n)
  received : ∀ n w, d.Meets id settings.link w → ∃ identity,
    (d.extract = Dispatch.defaultExtractor → identity = o.ctx.identity) ∧
    d.receive w.sessions id (o.request settings n) =
      (w.sessions, some (identity, d.process id (o.request settings n) ⟨identity, n⟩))
  handled : ∀ n identity start, d.Meets id settings.link start →
    Handled settings o d descriptor handler id n identity start
  learned : ∀ outcome v, Call.learned outcome = .ok v ↔ outcome = .ok (.ok v)
  pushed : ∀ serializers t protocol value,
    (∀ identities, Push.Adds t (Push.many serializers t identities protocol value).1) ∧
    (∀ identity, Push.Adds t (Push.one serializers t identity protocol value).1) ∧
    ∀ order, Push.Adds t (Push.broadcast serializers t order protocol value).1
  unheard : ∀ m : Message, m.Pushed → ∀ (b : Board) link succeeds,
    (b.step settings.serializers settings.link link (.receive m succeeds)).desk = b.desk

/-- Calls of handlers are faithful. -/
theorem faithful (begins : o.stage = .numbering) (portable : o.argument.Portable)
    (offers : d.Offers o.protocol descriptor handler) (id : SessionId) :
    Faithful settings o d descriptor handler id := by
  refine ⟨?_, tick_rest settings, ?_, ?_, fun n w meets => received settings n meets, ?_,
    fun _ _ => Call.learned_eq_ok, ?_, ?_⟩
  · rw [rest, begins]
  · intro found call s stage
    have start : o.Sound settings fun n => ∃ x ∈ found, n = x.2.calls.next.2 := by
      rw [Sound, begins]
      trivial
    have sound := sound_after settings start fun x held => ⟨x, held, rfl⟩
    obtain ⟨request, invocation⟩ := o.kept_after settings found
    rw [Sound, stage] at sound
    obtain ⟨now, n, given, own, message, carried⟩ := sound
    refine ⟨now, n, given, own.trans (by rw [invocation]), message.trans (by rw [request]), ?_⟩
    intro w added ended link l reason history fresh posting there takes
    exact Sending.queued settings posting carried history fresh there takes reason
  · intro n limit within
    refine Frame.crosses (fun hint named => ?_) within
    cases named
  · intro n identity start meets
    have passed := request_decodes settings portable n
    refine ⟨fun found done r run => ?_, fun found stop args outcome gives ends => ?_⟩
    · obtain ⟨ended, stop, reply, handles, rfl⟩ :=
        (Dispatcher.runs_life_offered offers meets passed).mp run
      have answers := answers_of_handles settings offers meets handles
      refine ⟨ended, stop, ?_⟩
      rcases handles with ⟨args, outcome, gives, ends, rfl⟩ |
        ⟨fault, targeted, misshapen, -, same, rfl⟩
      · rw [Reply.learned_ofEnd] at answers
        exact .inl ⟨args, outcome, gives, ends, answers⟩
      · exact .inr ⟨fault, targeted, misshapen, same, answers⟩
    · have handles : d.Handles id settings.link ⟨identity, n⟩ descriptor handler o.argument start
          found stop (.ofEnd descriptor.protocol outcome) :=
        .inl ⟨args, outcome, gives, ends, rfl⟩
      have answers := answers_of_handles settings offers meets handles
      rw [Reply.learned_ofEnd] at answers
      exact ⟨_, (Dispatcher.runs_life_offered offers meets passed).mpr
        ⟨rfl, stop, _, handles, rfl⟩, answers⟩
  · intro serializers t protocol value
    exact ⟨Push.adds_many serializers t protocol value, Push.adds_one serializers t protocol value,
      Push.adds_broadcast serializers t protocol value⟩
  · intro m pushed b link succeeds
    exact Board.desk_of_pushed settings.serializers settings.link b link pushed.2 succeeds

/-! A call of a handler that gives back what it is given. -/

def echo : Handler World := fun given => Handler.answer given.body

def echoing : Dispatcher where
  registry := ⟨[Dispatcher.served], [(Dispatcher.served, echo)], []⟩
  serializers := .standard

def echoed : Json := .number (.natural 7)

def calling : Outgoing := ⟨.loopback 1, ⟨9, 2⟩, ⟨10, 3⟩, echoed, true, .numbering⟩

/-- The caller, with a link to the peer. -/
def linked : World := World.empty.withPeers (Peers.empty.attach (.loopback 1)).1

/-- The call has its number. -/
def numbered : World := linked.withCalls linked.calls.next.1

/-- The peer, with a session for the link. -/
def listening : World :=
  World.empty.withSessions (Sessions.empty.create (.loopback 1) .internal 0).1

theorem echoed_portable : echoed.Portable where
  free := .natural 7
  orderly := .number fun _ same => by cases same
  nested := .number _ _

theorem echoing_offers : echoing.Offers ⟨10, 3⟩ Dispatcher.served echo where
  built := .bind .empty Dispatcher.served echo rfl
  unhooked := rfl
  bound := rfl
  synchronous := rfl
  body := rfl
  anyone := rfl

/-- The request of the call is in the queue of its link. -/
def queued : World :=
  (numbered.post Traffic.settings (.loopback 1) ⟨0⟩ (calling.request Traffic.settings 1)
    (some (calling.invocation Traffic.settings 0 1))).1

theorem faithful_echo : ∃ done answer,
    Runs (echoing.Meets ⟨1⟩ .json)
      (echoing.life ⟨1⟩ (calling.request Traffic.settings 1) ⟨9, 1⟩) listening [] done (.ok ()) ∧
    listening.sessions.Queued ⟨1⟩ answer done.sessions ∧
    ∀ clock, obtains Traffic.settings (calling.invocation Traffic.settings 0 1)
      ⟨(queued.board.step .standard .json ⟨0⟩ (.receive answer true)).desk, clock, none⟩ =
        .ok echoed := by
  have called :=
    faithful Traffic.settings (o := calling) rfl echoed_portable echoing_offers ⟨1⟩
  have meets : echoing.Meets ⟨1⟩ .json listening := ⟨_, rfl, rfl, rfl, rfl⟩
  have gives : Dispatcher.served.Gives ⟨1⟩ ⟨9, 1⟩ echoed ⟨⟨9, 1⟩, none, echoed, []⟩ :=
    ⟨rfl, rfl, fun _ => ⟨rfl, rfl⟩, fun targeted => by cases targeted⟩
  obtain ⟨done, run, -, -, answers⟩ :=
    (called.handled 1 9 listening meets).comes [] listening _ (.ok (.ok echoed)) gives
      (.finish meets)
  obtain ⟨answer, told, -, brings⟩ :=
    answers (by decide) fun v same => by cases same; exact echoed_portable
  obtain ⟨now, n, -, sends⟩ :=
    called.sends [(none, linked), (none, numbered), (none, numbered)] _ _ rfl
  have history : Desk.Run .standard numbered.board.desk [] [] :=
    .step .next (.start .empty) trivial
  have fresh : numbered.board.desk.Admits (.add (calling.invocation Traffic.settings 0 1)) :=
    fun slot _ => ⟨rfl, rfl⟩
  obtain ⟨waits, there, -⟩ := sends.enters numbered [] [] ⟨0⟩ _ none history fresh rfl rfl (by decide)
  obtain ⟨-, obtained⟩ := brings 0 queued.board waits ⟨0⟩ _ true there rfl
  exact ⟨done, answer, run, told, fun clock => obtained [] clock none⟩

end Peer.Outgoing
end ClusterWire
