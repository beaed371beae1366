import ClusterWire.Proofs.Dispatch.Binding
import ClusterWire.Proofs.Transcoding

/-! A call at the server. The handler gets what the caller passed, runs for the caller's
identity, and its end is what the caller is answered. -/
namespace ClusterWire

/-- The arguments that a handler gets for what a caller passes. With push targets that is the
envelope around the body. -/
structure Descriptor.Gives (d : Descriptor) (id : SessionId) (ctx : CallContext) (passed : Json)
    (args : Arguments) : Prop where
  context : args.context = ctx
  session : args.session = if d.binds .session then some id else none
  bare : d.binds .pushTargets = false → args.body = passed ∧ args.targets = []
  envelope : d.binds .pushTargets = true →
    PushEnvelope.shape passed = .ok ⟨args.targets, args.body⟩

theorem Descriptor.Gives.unique {d : Descriptor} {id : SessionId} {ctx : CallContext} {passed : Json}
    {args other : Arguments} (gives : d.Gives id ctx passed args)
    (again : d.Gives id ctx passed other) : args = other := by
  obtain ⟨context, session, body, targets⟩ := args
  obtain ⟨context', session', body', targets'⟩ := other
  have contexts := gives.context.trans again.context.symm
  have sessions := gives.session.trans again.session.symm
  cases targeted : d.binds .pushTargets with
  | false =>
    obtain ⟨bodies, none⟩ := gives.bare targeted
    obtain ⟨bodies', none'⟩ := again.bare targeted
    simp only at contexts sessions bodies none bodies' none'
    rw [contexts, sessions, bodies, none, bodies', none']
  | true =>
    have envelopes := (gives.envelope targeted).symm.trans (again.envelope targeted)
    simp only [Except.ok.injEq, PushEnvelope.mk.injEq] at envelopes
    simp only at contexts sessions
    rw [contexts, sessions, envelopes.1, envelopes.2]

namespace Dispatch

variable {serializers : Serializers} {d : Descriptor} {s : Session} {m : Message} {z : Serializer}
  {v : Json}

/-- A body is bound, unless push targets are asked for and it is no envelope. -/
theorem bindArguments_cases (known : serializers.find? s.serializeType = some z)
    (read : z.decode m.body = .ok v) (body : d.binds .body = true) (ctx : CallContext) :
    (∃ args, bindArguments serializers d s m ctx = .ok args ∧ d.Gives s.id ctx v args) ∨
    ∃ fault, d.binds .pushTargets = true ∧ PushEnvelope.shape v = .error fault ∧
      bindArguments serializers d s m ctx = .error (.json (.shape fault)) := by
  have session : (if .session ∈ d.bindings then some s.id else none) =
      if d.binds .session then some s.id else none := by simp [Descriptor.binds_iff]
  rw [bindArguments_eq, argumentsOf]
  cases targeted : d.binds .pushTargets with
  | false =>
    have outside : .pushTargets ∉ d.bindings := by
      rw [← Descriptor.binds_iff, targeted]
      exact Bool.false_ne_true
    rw [if_neg outside, if_pos (Descriptor.binds_iff.mp body),
      decodeBody_ok known read (show Json.Shape.any v = .ok v from rfl)]
    exact .inl ⟨_, rfl, rfl, session, fun _ => ⟨rfl, rfl⟩, fun some => by
      rw [targeted] at some; cases some⟩
  | true =>
    rw [if_pos (Descriptor.binds_iff.mp targeted)]
    cases shaped : PushEnvelope.shape v with
    | ok e =>
      rw [decodeBody_ok known read shaped]
      exact .inl ⟨_, rfl, rfl, session, fun none => (by rw [targeted] at none; cases none),
        fun _ => shaped⟩
    | error fault =>
      rw [decodeBody_error known read shaped]
      exact .inr ⟨fault, rfl, rfl, rfl⟩

end Dispatch

/-- How a call of a handler ends, panics included. -/
def Call.Ends (stays : World → Prop) (call : Call World) (start : World)
    (found : List (Activity.Found World)) (stop : World)
    (outcome : Except Panic (Except HandlerFault Json)) : Prop :=
  match call with
  | .crashes panic => stays start ∧ stop = start ∧ found = [] ∧ outcome = .error panic
  | .works work => Activity.Runs stays work start found stop outcome

/-- The answer to the end of a handler that is always answered. -/
def Reply.ofEnd (protocol : ProtocolId) : Except Panic (Except HandlerFault Json) → Reply
  | .ok (.ok v) => .value protocol v
  | .ok (.error (.domain code message)) => .error code message
  | .ok (.error (.unexpected _)) | .error _ => .unknown

theorem Reply.ofOutcome_synchronous (protocol : ProtocolId)
    (outcome : Except Panic (Except HandlerFault Json)) :
    ofOutcome true protocol outcome = some (ofEnd protocol outcome) := by
  match outcome with
  | .ok (.ok v) => simp [ofOutcome, ofEnd]
  | .ok (.error (.domain _ _)) | .ok (.error (.unexpected _)) | .error _ => rfl

namespace Dispatcher

/-- A handler that answers everybody: it was registered, is synchronous and takes a body, needs
no identity, and there is no hook in front of it. -/
structure Offers (d : Dispatcher) (protocol : ProtocolId) (descriptor : Descriptor)
    (handler : Handler World) : Prop where
  built : d.registry.Built
  unhooked : d.hook = none
  bound : d.registry.handler? protocol = some (descriptor, handler)
  synchronous : descriptor.isSynchronous = true
  body : descriptor.binds .body = true
  anyone : descriptor.requiresIdentity = false

/-- The caller's session is open, and its serializer is that of the caller's link. -/
def Meets (d : Dispatcher) (id : SessionId) (link : Serializer) (w : World) : Prop :=
  ∃ s, w.sessions.session? id = some s ∧ s.accepts = true ∧ s.serializeType = link.type ∧
    d.serializers.contains link.type = true

open Activity (Runs Found)

variable {d : Dispatcher} {id : SessionId} {m : Message} {ctx : CallContext} {link : Serializer}
  {descriptor : Descriptor} {handler : Handler World} {start stop done : World}
  {found : List (Found World)} {v : Json}

theorem serializer_of_meets (meets : d.Meets id link start) : ∃ s z,
    start.sessions.session? id = some s ∧ s.accepts = true ∧
      d.serializers.find? s.serializeType = some z ∧ link.type = z.type := by
  obtain ⟨s, known, accepts, type, registered⟩ := meets
  obtain ⟨z, serializer⟩ := Option.isSome_iff_exists.mp registered
  exact ⟨s, z, known, accepts, type ▸ serializer, (Serializer.type_of_find? serializer).symm⟩

theorem deliver_meets (meets : d.Meets id link stop) (asked : ctx.sequence ≠ 0) {r : Reply}
    (portable : r.Portable) : ∃ answer,
      stop.sessions.Queued id answer (Reply.deliver d.serializers id ctx (some r) stop.sessions) ∧
      r.Legible link answer ∧
      ∃ family body, answer = .response family ctx.sequence r.protocol body := by
  obtain ⟨s, z, known, accepts, serializer, type⟩ := serializer_of_meets meets
  rw [Reply.deliver_frame known asked (r.frame?_eq serializer ctx.sequence)]
  exact ⟨_, Sessions.send_queued known accepts, Reply.legible_frameOf portable s ctx.sequence type,
    s.family, _, r.frameOf_eq s ctx.sequence z⟩

theorem meets_deliver (meets : d.Meets id link stop) (r : Option Reply) :
    d.Meets id link (stop.withSessions (Reply.deliver d.serializers id ctx r stop.sessions)) := by
  obtain ⟨s, z, known, accepts, serializer, -⟩ := serializer_of_meets meets
  obtain ⟨same, there, -, type, registered⟩ := meets
  cases known.symm.trans there
  by_cases quiet : ctx.sequence = 0 ∨ r = none
  · rw [Reply.deliver_quiet quiet]
    exact ⟨s, known, accepts, type, registered⟩
  · rw [not_or] at quiet
    obtain ⟨r, rfl⟩ := Option.ne_none_iff_exists'.mp quiet.2
    rw [Reply.deliver_frame known quiet.1 (r.frame?_eq serializer ctx.sequence)]
    exact ⟨_, Sessions.session?_send known accepts, accepts, type, registered⟩

theorem judge_offered (offers : d.Offers m.protocol descriptor handler) :
    d.judge id m ctx = .act (fun w => w) (d.judgeEntered id m ctx descriptor handler) := by
  have passed : d.consult id m ctx = .finish true := by
    rw [consult, offers.unhooked]
    rfl
  change (d.consult id m ctx).bind (d.judgeRouted id m ctx) = _
  rw [passed, Activity.bind_finish, judgeRouted, offers.bound]
  simp only [judgeBound, offers.anyone, Bool.false_and, Bool.false_eq_true, if_false]
  rfl

/-- A synchronous handler comes to the verdict of its end. -/
theorem runs_judgeCall_iff (synchronous : descriptor.isSynchronous = true) {call : Call World}
    {stays : World → Prop} {r : Except Panic Verdict} :
    Runs stays (judgeCall descriptor call) start found stop r ↔
      ∃ outcome, r = .ok (.handled true outcome) ∧ call.Ends stays start found stop outcome := by
  cases call with
  | crashes panic =>
    constructor
    · intro run
      cases run with
      | finish held => exact ⟨_, rfl, held, rfl, rfl, rfl⟩
    · rintro ⟨outcome, rfl, held, rfl, rfl, rfl⟩
      exact .finish held
  | works work =>
    simp only [judgeCall, synchronous, if_true]
    constructor
    · intro run
      rcases Activity.runs_bind.mp run with ⟨p, -, crashed⟩ |
        ⟨front, back, u, outcome, split, caught, rest⟩
      · obtain ⟨_, same, -⟩ := Activity.runs_caught.mp crashed
        cases same
      · obtain ⟨_, same, ran⟩ := Activity.runs_caught.mp caught
        cases same
        cases rest with
        | finish held =>
          rw [List.append_nil] at split
          exact ⟨outcome, rfl, split ▸ ran⟩
    · rintro ⟨outcome, rfl, run⟩
      exact Activity.runs_bind.mpr (.inr ⟨found, [], stop, outcome, by simp,
        Activity.runs_caught.mpr ⟨outcome, rfl, run⟩, .finish run.stop⟩)

/-- A handler is given what a caller passed, and its end is what is answered; or it is given
nothing, since it takes an envelope and was passed none. -/
def Handles (d : Dispatcher) (id : SessionId) (link : Serializer) (ctx : CallContext)
    (descriptor : Descriptor) (handler : Handler World) (passed : Json) (start : World)
    (found : List (Found World)) (stop : World) (reply : Reply) : Prop :=
  (∃ args outcome, descriptor.Gives id ctx passed args ∧
    (handler args).Ends (d.Meets id link) start found stop outcome ∧
    reply = .ofEnd descriptor.protocol outcome) ∨
  ∃ fault, descriptor.binds .pushTargets = true ∧ PushEnvelope.shape passed = .error fault ∧
    found = [] ∧ stop = start ∧ reply = .error .badRequest
      s!"malformed request body: {(CodecFault.json (.shape fault)).message}"

theorem runs_judge_offered (offers : d.Offers m.protocol descriptor handler)
    (meets : d.Meets id link start) {r : Except Panic Verdict} :
    Runs (d.Meets id link) (d.judge id m ctx) start found stop r ↔
      Runs (d.Meets id link) (d.judgeEntered id m ctx descriptor handler start) start found stop r := by
  rw [judge_offered offers]
  constructor
  · intro run
    cases run with
    | act _ rest => exact rest
  · intro rest
    refine .act meets ?_
    exact rest

/-- The arguments of a handler that answers everybody are bound, unless it takes an envelope and
was passed none. -/
theorem bind_offered (offers : d.Offers m.protocol descriptor handler)
    (meets : d.Meets id link start) (passed : link.decode m.body = .ok v) (ctx : CallContext) :
    ∃ s, start.sessions.session? id = some s ∧
      ((∃ args, Dispatch.bindArguments d.serializers descriptor s m ctx = .ok args ∧
        descriptor.Gives id ctx v args) ∨
      ∃ fault, descriptor.binds .pushTargets = true ∧ PushEnvelope.shape v = .error fault ∧
        Dispatch.bindArguments d.serializers descriptor s m ctx =
          .error (.json (.shape fault))) := by
  obtain ⟨s, z, known, -, serializer, type⟩ := serializer_of_meets meets
  have read : z.decode m.body = .ok v := (Serializer.decode_of_type type m.body).symm.trans passed
  have binding := Dispatch.bindArguments_cases serializer read offers.body ctx
  rw [Sessions.session?_id known] at binding
  exact ⟨s, known, binding⟩

/-- What is answered to a request that a handler is bound for. -/
theorem handles_of_judge (offers : d.Offers m.protocol descriptor handler)
    (meets : d.Meets id link start) (passed : link.decode m.body = .ok v)
    {r : Except Panic Verdict} (run : Runs (d.Meets id link) (d.judge id m ctx) start found stop r) :
    ∃ verdict reply, r = .ok verdict ∧ verdict.reply m.protocol = some reply ∧
      d.Handles id link ctx descriptor handler v start found stop reply := by
  have own : descriptor.protocol = m.protocol := Registry.protocol_of_handler? offers.bound
  obtain ⟨s, known, binding⟩ := bind_offered offers meets passed ctx
  rw [runs_judge_offered offers meets, judgeEntered, known] at run
  dsimp only at run
  rcases binding with ⟨args, bound, gives⟩ | ⟨fault, targeted, misshapen, refused⟩
  · rw [bound] at run
    obtain ⟨outcome, rfl, ends⟩ := (runs_judgeCall_iff offers.synchronous).mp run
    exact ⟨_, _, rfl, own ▸ Reply.ofOutcome_synchronous _ outcome,
      .inl ⟨args, outcome, gives, ends, rfl⟩⟩
  · rw [refused] at run
    cases run with
    | finish held => exact ⟨_, _, rfl, rfl, .inr ⟨fault, targeted, misshapen, rfl, rfl, rfl⟩⟩

theorem meets_of_handles (meets : d.Meets id link start) {reply : Reply}
    (handles : d.Handles id link ctx descriptor handler v start found stop reply) :
    d.Meets id link stop := by
  rcases handles with ⟨args, outcome, -, ends, -⟩ | ⟨_, -, -, -, rfl, -⟩
  · unfold Call.Ends at ends
    split at ends
    · obtain ⟨-, rfl, -⟩ := ends
      exact meets
    · exact ends.stop
  · exact meets

/-- Whatever may become of a request at its handler does become of it. -/
theorem judge_of_handles (offers : d.Offers m.protocol descriptor handler)
    (meets : d.Meets id link start) (passed : link.decode m.body = .ok v) {reply : Reply}
    (handles : d.Handles id link ctx descriptor handler v start found stop reply) :
    ∃ verdict, verdict.reply m.protocol = some reply ∧
      Runs (d.Meets id link) (d.judge id m ctx) start found stop (.ok verdict) := by
  have own : descriptor.protocol = m.protocol := Registry.protocol_of_handler? offers.bound
  obtain ⟨s, known, binding⟩ := bind_offered offers meets passed ctx
  simp only [runs_judge_offered offers meets, judgeEntered, known]
  rcases binding with ⟨args, bound, gives⟩ | ⟨fault, targeted, misshapen, refused⟩
  · rw [bound]
    rcases handles with ⟨other, outcome, again, ends, rfl⟩ | ⟨fault, targeted, misshapen, -⟩
    · cases again.unique gives
      exact ⟨_, own ▸ Reply.ofOutcome_synchronous _ outcome,
        (runs_judgeCall_iff offers.synchronous).mpr ⟨outcome, rfl, ends⟩⟩
    · have shaped := gives.envelope targeted
      rw [misshapen] at shaped
      cases shaped
  · rw [refused]
    rcases handles with ⟨other, outcome, again, -⟩ | ⟨other, -, again, rfl, rfl, rfl⟩
    · have shaped := again.envelope targeted
      rw [misshapen] at shaped
      cases shaped
    · cases misshapen.symm.trans again
      exact ⟨_, rfl, .finish meets⟩

/-- The whole life of a request that a handler is bound for: it is handled, and the answer is
offered to the caller. -/
theorem runs_life_offered (offers : d.Offers m.protocol descriptor handler)
    (meets : d.Meets id link start) (passed : link.decode m.body = .ok v)
    {r : Except Panic Unit} :
    Runs (d.Meets id link) (d.life id m ctx) start found done r ↔
      r = .ok () ∧ ∃ stop reply, d.Handles id link ctx descriptor handler v start found stop reply ∧
        done = stop.withSessions (Reply.deliver d.serializers id ctx (some reply) stop.sessions) := by
  rw [life_eq_judge]
  constructor
  · intro run
    rcases Activity.runs_bind.mp run with ⟨p, -, crashed⟩ |
      ⟨front, back, stop, verdict, split, judged, told⟩
    · obtain ⟨_, _, same, -⟩ := handles_of_judge offers meets passed crashed
      cases same
    · obtain ⟨_, reply, same, due, handles⟩ := handles_of_judge offers meets passed judged
      cases same
      obtain ⟨rfl, ended, answered⟩ := runs_tell told
      rw [List.append_nil] at split
      subst split
      exact ⟨ended, stop, reply, handles, due ▸ answered⟩
  · rintro ⟨rfl, stop, reply, handles, rfl⟩
    obtain ⟨verdict, due, judged⟩ := judge_of_handles offers meets passed handles
    refine Activity.runs_bind.mpr (.inr ⟨found, [], stop, verdict, by simp, judged, ?_⟩)
    have answered : Runs (d.Meets id link) (d.answer id ctx (some reply)) stop []
        (stop.withSessions (Reply.deliver d.serializers id ctx (some reply) stop.sessions))
        (.ok ()) :=
      .act judged.stop (.finish (meets_deliver judged.stop (some reply)))
    cases verdict with
    | rejected | gone => cases due
    | noIdentity | malformed | handled | routed =>
      rw [← due] at answered ⊢
      exact answered

end Dispatcher
end ClusterWire
