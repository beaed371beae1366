import ClusterWire.Connection
import ClusterWire.Proofs.Activity
import ClusterWire.Proofs.Codec
import ClusterWire.Proofs.Dispatch.Verdict
import ClusterWire.Proofs.Session.Views

/-! Accounting for replies. Of the messages that arrive on an open session some
are answered with one frame, in the session's family and under their own number,
and the others with none. -/
namespace ClusterWire

namespace Sessions

/-- One more frame waits for a session, and nothing else is different. -/
structure Queued (t : Sessions) (id : SessionId) (m : Message) (u : Sessions) : Prop where
  here : ∃ s, t.session? id = some s ∧ u.session? id = some { s with queue := s.queue ++ [m] }
  elsewhere : ∀ other, other ≠ id → u.session? other = t.session? other
  tracked : u.tracked = t.tracked
  bound : u.bound = t.bound

theorem send_queued {t : Sessions} {id : SessionId} {s : Session} {m : Message}
    (known : t.session? id = some s) (accepts : s.accepts = true) :
    t.Queued id m (t.send id m).1 where
  here := ⟨s, known, session?_send known accepts⟩
  elsewhere _ differs := session?_send_other t differs m
  tracked := rfl
  bound := rfl

end Sessions

namespace Verdict

def isQuiet : Verdict → Bool
  | rejected | gone | handled false (.ok (.ok .null))
  | routed (.forwarded _) | routed .dropped => true
  | _ => false

def error? (protocol : ProtocolId) : Verdict → Option ErrorResponse
  | noIdentity => some ⟨.noIdentity, "no identity"⟩
  | malformed fault => some ⟨.badRequest, s!"malformed request body: {fault.message}"⟩
  | handled _ (.ok (.error (.domain code message))) => some ⟨code, message⟩
  | handled _ (.ok (.error (.unexpected _))) | handled _ (.error _) =>
    some ⟨.unknown, "unknown error"⟩
  | routed .unsupported => some ⟨.unsupportedProtocol, s!"protocol {protocol.text} is not supported"⟩
  | routed (.failed fault) => some fault.response
  | _ => none

def value? : Verdict → Option Json
  | handled _ (.ok (.ok v)) => some v
  | _ => none

theorem reply_cases (protocol : ProtocolId) (verdict : Verdict) :
    (verdict.isQuiet = true ∧ verdict.reply protocol = none) ∨
    (verdict.isQuiet = false ∧
      ((∃ e, verdict.error? protocol = some e ∧ verdict.value? = none ∧
        verdict.reply protocol = some (.error e.code e.message)) ∨
      ∃ v, verdict.value? = some v ∧ verdict.error? protocol = none ∧
        verdict.reply protocol = some (.value protocol v))) := by
  cases verdict with
  | rejected | gone => exact .inl ⟨rfl, rfl⟩
  | noIdentity | malformed fault => exact .inr ⟨rfl, .inl ⟨_, rfl, rfl, rfl⟩⟩
  | routed outcome =>
    cases outcome with
    | forwarded _ | dropped => exact .inl ⟨rfl, rfl⟩
    | unsupported | failed fault => exact .inr ⟨rfl, .inl ⟨_, rfl, rfl, rfl⟩⟩
  | handled synchronous outcome =>
    match outcome with
    | .error _ | .ok (.error (.domain _ _)) | .ok (.error (.unexpected _)) =>
      cases synchronous <;> exact .inr ⟨rfl, .inl ⟨_, rfl, rfl, rfl⟩⟩
    | .ok (.ok v) =>
      cases synchronous with
      | true => exact .inr ⟨rfl, .inr ⟨v, rfl, rfl, by simp [reply, Reply.ofOutcome]⟩⟩
      | false =>
        cases v with
        | null => exact .inl ⟨rfl, rfl⟩
        | _ => exact .inr ⟨rfl, .inr ⟨_, rfl, rfl, rfl⟩⟩

/-- What a frame tells of a verdict under a serializer. -/
structure Told (protocol : ProtocolId) (z : Serializer) (verdict : Verdict) (frame : Message) :
    Prop where
  value : ∀ v, verdict.value? = some v → frame.protocol = protocol ∧ frame.isError = false ∧
    frame.body = z.encode v ∧
    (z.decode frame.body = .ok v ↔ v = .null ∨ Json.decode v.encode = .ok v) ∧
    (v.Lawful → (z.decode frame.body = .ok v ↔ v.Nested Json.maxDepth))
  error : ∀ e, verdict.error? protocol = some e → frame.isError = true ∧
    z.decodeAs ErrorResponse.shape frame.body = .ok e

end Verdict

namespace Reply

variable {serializers : Serializers} {id : SessionId} {ctx : CallContext} {t : Sessions}

theorem deliver_quiet {r : Option Reply} (quiet : ctx.sequence = 0 ∨ r = none) :
    deliver serializers id ctx r t = t := by
  have silent : r ≠ none → ctx.expectsResponse = false := by
    intro some
    simp [CallContext.expectsResponse, quiet.resolve_right some]
  unfold deliver
  split
  · simp [silent]
  · rfl

theorem deliver_frame {r : Reply} {s : Session} {frame : Message}
    (known : t.session? id = some s) (expected : ctx.sequence ≠ 0) (told : r.frame? serializers s ctx.sequence = some frame) :
    deliver serializers id ctx (some r) t = (t.send id frame).1 := by
  have waits : ctx.expectsResponse = true := by simpa [CallContext.expectsResponse] using expected
  simp only [deliver, known, waits, if_true, told]

def frameOf (s : Session) (sequence : Int64) (z : Serializer) : Reply → Message
  | value protocol v => .response s.family sequence protocol (z.encode v)
  | error code message => .errorResponse s.family sequence (z.encode (ErrorResponse.toJson ⟨code, message⟩))

theorem frame?_eq (r : Reply) {s : Session} {z : Serializer}
    (serializer : serializers.find? s.serializeType = some z) (sequence : Int64) :
    r.frame? serializers s sequence = some (r.frameOf s sequence z) := by
  rw [frame?, serializer]
  cases r <;> rfl

theorem frameOf_header (r : Reply) (s : Session) (sequence : Int64) (z : Serializer) :
    (r.frameOf s sequence z).kind = .response ∧ (r.frameOf s sequence z).family = s.family ∧
      (r.frameOf s sequence z).sequence = sequence := by
  cases r <;> exact ⟨rfl, rfl, rfl⟩

end Reply

namespace Verdict

/-- What is sent for a verdict tells of it. A value is told from an error by its
protocol, which no handler has in the module of the transport. -/
theorem told_frameOf {verdict : Verdict} {protocol : ProtocolId} {r : Reply}
    (own : verdict.reply protocol = some r)
    (free : verdict.value? ≠ none → protocol.isReserved = false) (s : Session)
    (sequence : Int64) (z : Serializer) :
    verdict.Told protocol z (r.frameOf s sequence z) := by
  rcases verdict.reply_cases protocol with ⟨-, silent⟩ |
    ⟨-, ⟨e, error, noValue, reply⟩ | ⟨v, value, noError, reply⟩⟩
  · rw [silent] at own
    cases own
  · rw [reply] at own
    cases own
    constructor
    · intro v some
      rw [noValue] at some
      cases some
    · intro e' same
      rw [error] at same
      cases same
      exact ⟨rfl, e.decodeAs_toJson z⟩
  · rw [reply] at own
    cases own
    constructor
    · intro w same
      rw [value] at same
      cases same
      have other : protocol ≠ .error := by
        rintro rfl
        have reserved := free (by simp [value])
        cases reserved
      refine ⟨rfl, ?_, rfl, z.decode_encode_iff _, z.decode_encode⟩
      simp [Reply.frameOf, Message.isError, Message.kind, Message.protocol, other]
    · intro e some
      rw [noError] at some
      cases some

end Verdict

namespace Dispatcher

variable (d : Dispatcher) (id : SessionId) (family : Family)

/-- The session is open, of one family, and its serializer is known. -/
def Live (w : World) : Prop :=
  ∃ s, w.sessions.session? id = some s ∧ s.accepts = true ∧ s.family = family ∧
    d.serializers.contains s.serializeType = true

variable {d id family} {m : Message} {ctx : CallContext} {stays : World → Prop}

open Activity (Runs Safe Found)

theorem runs_tell {verdict : Verdict} {u done : World} {found : List (Found World)}
    {r : Except Panic Unit} (run : Runs stays (d.tell id m ctx verdict) u found done r) :
    found = [] ∧ r = .ok () ∧ done =
      u.withSessions (Reply.deliver d.serializers id ctx (verdict.reply m.protocol) u.sessions) := by
  have answered : ∀ reply, Runs stays (d.answer id ctx reply) u found done r →
      found = [] ∧ r = .ok () ∧
        done = u.withSessions (Reply.deliver d.serializers id ctx reply u.sessions) := by
    intro reply run
    cases run with
    | act held rest => cases rest with | finish held => exact ⟨rfl, rfl, rfl⟩
  cases verdict with
  | rejected | gone => cases run with | finish held => exact ⟨rfl, rfl, rfl⟩
  | noIdentity | malformed | handled | routed => exact answered _ run

theorem runs_caught_handled {work : Activity World (Except HandlerFault Json)} {synchronous : Bool}
    {s t : World} {found : List (Found World)} {r : Except Panic Verdict}
    (run : Runs stays (work.caught.bind fun outcome => .finish (.handled synchronous outcome))
      s found t r) : ∃ outcome, r = .ok (.handled synchronous outcome) := by
  rcases Activity.runs_bind.mp run with ⟨p, -, crashed⟩ | ⟨_, _, _, outcome, -, -, rest⟩
  · obtain ⟨_, same, -⟩ := Activity.runs_caught.mp crashed
    cases same
  · cases rest
    exact ⟨outcome, rfl⟩

theorem runs_judgeCall {descriptor : Descriptor} {call : Call World} {s t : World}
    {found : List (Found World)} {r : Except Panic Verdict}
    (run : Runs stays (judgeCall descriptor call) s found t r) :
    ∃ synchronous outcome, r = .ok (.handled synchronous outcome) := by
  cases call with
  | crashes panic =>
    cases run
    exact ⟨true, _, rfl⟩
  | works work =>
    unfold judgeCall at run
    cases mode : descriptor.isSynchronous with
    | true =>
      rw [mode] at run
      exact ⟨true, runs_caught_handled run⟩
    | false =>
      rw [mode] at run
      cases run with
      | pause held rest => exact ⟨false, runs_caught_handled rest⟩

theorem runs_judgeEntered {descriptor : Descriptor} {handler : Handler World} {w s t : World}
    {found : List (Found World)} {r : Except Panic Verdict} (held : stays w)
    (run : Runs stays (d.judgeEntered id m ctx descriptor handler w) s found t r) :
    ∃ verdict, r = .ok verdict ∧
      (verdict = .gone → ∃ w, stays w ∧ w.sessions.session? id = none) := by
  unfold judgeEntered at run
  cases known : w.sessions.session? id with
  | none =>
    rw [known] at run
    cases run
    exact ⟨_, rfl, fun _ => ⟨w, held, known⟩⟩
  | some session =>
    rw [known] at run
    dsimp only at run
    cases bound : Dispatch.bindArguments d.serializers descriptor session m ctx with
    | ok args =>
      rw [bound] at run
      obtain ⟨_, _, same⟩ := runs_judgeCall run
      exact ⟨_, same, by rintro ⟨⟩⟩
    | error fault =>
      rw [bound] at run
      cases run
      exact ⟨_, rfl, by rintro ⟨⟩⟩

theorem runs_judgeBound {descriptor : Descriptor} {handler : Handler World} {s t : World}
    {found : List (Found World)} {r : Except Panic Verdict}
    (run : Runs stays (d.judgeBound id m ctx descriptor handler) s found t r) :
    ∃ verdict, r = .ok verdict ∧
      (verdict = .gone → ∃ w, stays w ∧ w.sessions.session? id = none) := by
  unfold judgeBound at run
  cases stranger : descriptor.requiresIdentity && !ctx.hasIdentity with
  | true =>
    rw [stranger] at run
    cases run
    exact ⟨_, rfl, by rintro ⟨⟩⟩
  | false =>
    rw [stranger] at run
    cases run with
    | act held rest => exact runs_judgeEntered held rest

theorem runs_judgeRouted {passed : Bool} {s t : World} {found : List (Found World)}
    {r : Except Panic Verdict} (forwardSafe : (d.forward id m ctx).Safe)
    (run : Runs stays (d.judgeRouted id m ctx passed) s found t r) :
    ∃ verdict, r = .ok verdict ∧
      (verdict = .gone → ∃ w, stays w ∧ w.sessions.session? id = none) ∧
      (verdict.value? ≠ none → ∃ entry, d.registry.handler? m.protocol = some entry) := by
  cases passed with
  | false =>
    cases run
    exact ⟨_, rfl, by rintro ⟨⟩, fun some => absurd rfl some⟩
  | true =>
    unfold judgeRouted at run
    cases bound : d.registry.handler? m.protocol with
    | some entry =>
      rw [bound] at run
      obtain ⟨verdict, same, lost⟩ := runs_judgeBound run
      exact ⟨verdict, same, lost, fun _ => ⟨entry, rfl⟩⟩
    | none =>
      rw [bound] at run
      rcases Activity.runs_bind.mp run with ⟨p, -, crashed⟩ | ⟨_, _, _, _, -, -, rest⟩
      · exact absurd (crashed.imp fun _ _ => trivial) (forwardSafe _ _ _ _)
      · cases rest
        exact ⟨_, rfl, by rintro ⟨⟩, fun some => absurd rfl some⟩

theorem consult_safe (hookSafe : ∀ hook, d.hook = some hook → (hook id m ctx).Safe) :
    (d.consult id m ctx).Safe := by
  unfold consult
  cases hooked : d.hook with
  | none =>
    intro s found t p run
    cases run
  | some hook => exact hookSafe hook hooked

/-- A request comes to a verdict unless the hook or the forward policy crashes;
it comes to a value only through a handler that is bound for it. -/
theorem runs_judge {s t : World} {found : List (Found World)} {r : Except Panic Verdict}
    (hookSafe : ∀ hook, d.hook = some hook → (hook id m ctx).Safe)
    (forwardSafe : (d.forward id m ctx).Safe)
    (run : Runs stays (d.judge id m ctx) s found t r) :
    ∃ verdict, r = .ok verdict ∧
      (verdict = .gone → ∃ w, stays w ∧ w.sessions.session? id = none) ∧
      (verdict.value? ≠ none → ∃ entry, d.registry.handler? m.protocol = some entry) := by
  rcases Activity.runs_bind.mp run with ⟨p, -, crashed⟩ | ⟨_, _, _, passed, -, -, behind⟩
  · exact absurd (crashed.imp fun _ _ => trivial) (consult_safe hookSafe _ _ _ _)
  · exact runs_judgeRouted forwardSafe behind

/-- Told verdicts are one frame more in the session's queue, and quiet ones are
nothing at all. -/
structure Answered (d : Dispatcher) (id : SessionId) (family : Family) (m : Message)
    (verdict : Verdict) (u done : World) : Prop where
  quiet : m.sequence = 0 ∨ verdict.isQuiet = true → done = u
  told : m.sequence ≠ 0 → verdict.isQuiet = false → ∃ s z frame,
    u.sessions.session? id = some s ∧ d.serializers.find? s.serializeType = some z ∧
    done = u.withSessions done.sessions ∧ u.sessions.Queued id frame done.sessions ∧
    frame.kind = .response ∧ frame.family = family ∧ frame.sequence = m.sequence ∧
    verdict.Told m.protocol z frame

theorem deliver_live {u : World} (live : d.Live id family u) (expected : ctx.sequence ≠ 0)
    (r : Reply) : ∃ s z, u.sessions.session? id = some s ∧ s.accepts = true ∧ s.family = family ∧
      d.serializers.find? s.serializeType = some z ∧
      Reply.deliver d.serializers id ctx (some r) u.sessions =
        (u.sessions.send id (r.frameOf s ctx.sequence z)).1 := by
  obtain ⟨s, known, accepts, own, registered⟩ := live
  obtain ⟨z, serializer⟩ := Option.isSome_iff_exists.mp registered
  exact ⟨s, z, known, accepts, own, serializer,
    Reply.deliver_frame known expected (r.frame?_eq serializer ctx.sequence)⟩

theorem answered_tell (built : d.registry.Built) (own : ctx.sequence = m.sequence) {u : World}
    (live : d.Live id family u) {verdict : Verdict}
    (bound : verdict.value? ≠ none → ∃ entry, d.registry.handler? m.protocol = some entry) :
    Answered d id family m verdict u (u.withSessions
      (Reply.deliver d.serializers id ctx (verdict.reply m.protocol) u.sessions)) := by
  have free : verdict.value? ≠ none → m.protocol.isReserved = false := by
    intro some
    obtain ⟨⟨descriptor, handler⟩, found⟩ := bound some
    exact built.handled_not_reserved found
  have reply := verdict.reply_cases m.protocol
  constructor
  · intro quiet
    rw [Reply.deliver_quiet]
    · rfl
    · rw [own]
      refine quiet.imp_right fun quiet => ?_
      rcases reply with ⟨-, silent⟩ | ⟨loud, -⟩
      · exact silent
      · rw [quiet] at loud
        cases loud
  · intro expected loud
    obtain ⟨r, due⟩ : ∃ r, verdict.reply m.protocol = some r := by
      rcases reply with ⟨quiet, -⟩ | ⟨-, ⟨_, -, -, due⟩ | ⟨_, -, -, due⟩⟩
      · rw [quiet] at loud
        cases loud
      · exact ⟨_, due⟩
      · exact ⟨_, due⟩
    obtain ⟨s, z, known, accepts, family, serializer, sent⟩ := deliver_live live (own ▸ expected) r
    obtain ⟨kind, ownFamily, sequence⟩ := r.frameOf_header s ctx.sequence z
    rw [due, sent]
    exact ⟨s, z, _, known, serializer, rfl, Sessions.send_queued known accepts, kind,
      ownFamily.trans family, sequence.trans own, Verdict.told_frameOf due free s ctx.sequence z⟩

theorem live_deliver {u : World} (live : d.Live id family u) (r : Option Reply) :
    d.Live id family (u.withSessions (Reply.deliver d.serializers id ctx r u.sessions)) := by
  by_cases quiet : ctx.sequence = 0 ∨ r = none
  · rw [Reply.deliver_quiet quiet]
    exact live
  · rw [not_or] at quiet
    obtain ⟨r, rfl⟩ := Option.ne_none_iff_exists'.mp quiet.2
    obtain ⟨s, z, known, accepts, family, serializer, sent⟩ := deliver_live live quiet.1 r
    have registered : d.serializers.contains s.serializeType = true := by
      rw [Serializers.contains, serializer]
      rfl
    rw [sent]
    exact ⟨_, Sessions.session?_send known accepts, accepts, family, registered⟩

theorem tell_runs {u : World} (live : d.Live id family u) (verdict : Verdict) :
    ∃ done, Runs (d.Live id family) (d.tell id m ctx verdict) u [] done (.ok ()) := by
  have answered : ∀ reply, Runs (d.Live id family) (d.answer id ctx reply) u []
      (u.withSessions (Reply.deliver d.serializers id ctx reply u.sessions)) (.ok ()) :=
    fun reply => .act live (.finish (live_deliver live reply))
  cases verdict with
  | rejected | gone => exact ⟨u, .finish live⟩
  | noIdentity | malformed | handled | routed => exact ⟨_, answered _⟩

theorem runs_life {start done : World} {found : List (Found World)} {r : Except Panic Unit}
    (hookSafe : ∀ hook, d.hook = some hook → (hook id m ctx).Safe)
    (forwardSafe : (d.forward id m ctx).Safe)
    (run : Runs stays (d.life id m ctx) start found done r) :
    r = .ok () ∧ ∃ verdict u, Runs stays (d.judge id m ctx) start found u (.ok verdict) ∧
      done = u.withSessions
        (Reply.deliver d.serializers id ctx (verdict.reply m.protocol) u.sessions) := by
  rw [life_eq_judge] at run
  rcases Activity.runs_bind.mp run with ⟨p, -, crashed⟩ | ⟨front, back, u, verdict, split, run, told⟩
  · obtain ⟨_, same, -⟩ := runs_judge hookSafe forwardSafe crashed
    cases same
  · obtain ⟨rfl, ended, answered⟩ := runs_tell told
    rw [List.append_nil] at split
    subst split
    exact ⟨ended, verdict, u, run, answered⟩

/-- What an open session is sent for a message that arrives on it. Heartbeats are
answered at once. Responses are not answered. A request becomes a job, which
ends, and does not crash; what it comes to is told by one frame, or kept quiet,
and nothing else is done to it but what the hook, the handler and the forward
policy do. -/
theorem replies_accounted (d : Dispatcher) (built : d.registry.Built)
    (hookSafe : ∀ hook, d.hook = some hook → ∀ id m ctx, (hook id m ctx).Safe)
    (forwardSafe : ∀ id m ctx, (d.forward id m ctx).Safe)
    (id : SessionId) (family : Family) (m : Message) :
    (∀ w, d.Live id family w →
      (m.kind = .heartbeatRequest → (d.receive w.sessions id m).2 = none ∧
        w.sessions.Queued id (.heartbeatResponse family) (d.receive w.sessions id m).1) ∧
      (m.kind = .heartbeatResponse ∨ m.kind = .response →
        d.receive w.sessions id m = (w.sessions, none)) ∧
      (m.kind = .request → ∃ ctx, ctx.sequence = m.sequence ∧
        d.receive w.sessions id m = (w.sessions, some (ctx.identity, d.process id m ctx)))) ∧
    ∀ ctx, ctx.sequence = m.sequence → ∀ start,
      (∃ found done, Runs (fun _ => True) (d.life id m ctx) start found done (.ok ())) ∧
      (∀ found done r, Runs (d.Live id family) (d.life id m ctx) start found done r →
        r = .ok () ∧ ∃ verdict u, verdict ≠ .gone ∧
          Runs (d.Live id family) (d.judge id m ctx) start found u (.ok verdict) ∧
          Answered d id family m verdict u done) ∧
      ∀ found u verdict, Runs (d.Live id family) (d.judge id m ctx) start found u (.ok verdict) →
        ∃ done, Runs (d.Live id family) (d.life id m ctx) start found done (.ok ()) := by
  constructor
  · intro w live
    obtain ⟨s, known, accepts, own, -⟩ := live
    refine ⟨fun beat => ?_, fun silent => ?_, fun request => ?_⟩
    · have sent : d.receive w.sessions id m =
          ((w.sessions.send id (.heartbeatResponse s.family)).1, none) := by
        simp only [receive, beat, known]
      rw [sent, ← own]
      exact ⟨rfl, Sessions.send_queued known accepts⟩
    · rcases silent with kind | kind <;> simp only [receive, dispatch, kind]
    · refine ⟨d.context s m, rfl, ?_⟩
      simp only [receive, dispatch, request, known]
  · intro ctx own start
    have hooked : ∀ hook, d.hook = some hook → (hook id m ctx).Safe :=
      fun hook same => hookSafe hook same id m ctx
    have routed := forwardSafe id m ctx
    refine ⟨?_, fun found done r run => ?_, fun found u verdict run => ?_⟩
    -- Some run exists, every run ends well, and every verdict has its run.
    · obtain ⟨found, done, r, run⟩ := Activity.exists_runs (d.life id m ctx) start
      obtain ⟨rfl, -⟩ := runs_life hooked routed run
      exact ⟨found, done, run⟩
    · obtain ⟨ended, verdict, u, judged, rfl⟩ := runs_life hooked routed run
      obtain ⟨_, same, lost, bound⟩ := runs_judge hooked routed judged
      cases same
      refine ⟨ended, verdict, u, fun gone => ?_, judged, answered_tell built own judged.stop bound⟩
      obtain ⟨w, ⟨s, known, -⟩, unknown⟩ := lost gone
      rw [known] at unknown
      cases unknown
    · obtain ⟨done, told⟩ := tell_runs run.stop verdict
      refine ⟨done, ?_⟩
      rw [life_eq_judge]
      exact Activity.runs_bind.mpr (.inr ⟨found, [], u, verdict, by simp, run, told⟩)

/-! One handler that always gives the same value, and a request for it. -/

def served : Descriptor := { protocol := ⟨10, 3⟩, name := "served", bindings := [.body] }

def serving (v : Json) : Dispatcher where
  registry := ⟨[served], [(served, fun _ => Handler.answer v)], []⟩
  serializers := .standard

def opened : World :=
  World.empty.withSessions (Sessions.empty.create (.loopback 5000) .external 0).1

def asked : Message := .clientRequest 7 ⟨10, 3⟩ []

theorem serving_built (v : Json) : (serving v).registry.Built :=
  .bind .empty served (fun _ => Handler.answer v) rfl

theorem serving_live (v : Json) : (serving v).Live ⟨1⟩ .external opened :=
  ⟨_, rfl, rfl, rfl, rfl⟩

theorem serving_judged (v : Json) :
    Runs ((serving v).Live ⟨1⟩ .external) ((serving v).judge ⟨1⟩ asked ⟨0, 7⟩) opened [] opened
      (.ok (.handled true (.ok (.ok v)))) :=
  .act (serving_live v) (.finish (serving_live v))

theorem serving_told (v : Json) : ∃ done frame,
    Runs ((serving v).Live ⟨1⟩ .external) ((serving v).life ⟨1⟩ asked ⟨0, 7⟩) opened [] done
      (.ok ()) ∧ opened.sessions.Queued ⟨1⟩ frame done.sessions ∧
    Verdict.Told ⟨10, 3⟩ .json (.handled true (.ok (.ok v))) frame := by
  have live := serving_live v
  obtain ⟨done, told⟩ := @tell_runs (serving v) ⟨1⟩ .external asked ⟨0, 7⟩ opened live
    (.handled true (.ok (.ok v)))
  have answered := @answered_tell (serving v) ⟨1⟩ .external asked ⟨0, 7⟩ (serving_built v) rfl
    opened live (.handled true (.ok (.ok v))) fun _ => ⟨_, rfl⟩
  rw [← (runs_tell told).2.2] at answered
  obtain ⟨s, z, frame, known, serializer, -, queued, -, -, -, tells⟩ := answered.told (by decide) rfl
  cases known
  cases serializer
  refine ⟨done, frame, ?_, queued, tells⟩
  rw [life_eq_judge]
  exact Activity.runs_bind.mpr (.inr ⟨[], [], opened, _, rfl, serving_judged v, told⟩)

/-- A value can be nested deeper than readers go. It is sent as a success all the
same, and the body is not read back. -/
theorem deep_value_unread : ∃ done frame,
    Runs ((serving (.stacked 127)).Live ⟨1⟩ .external)
      ((serving (.stacked 127)).life ⟨1⟩ asked ⟨0, 7⟩) opened [] done (.ok ()) ∧
    opened.sessions.Queued ⟨1⟩ frame done.sessions ∧ frame.isError = false ∧
    Serializer.json.decode frame.body ≠ .ok (.stacked 127) := by
  obtain ⟨done, frame, run, queued, told⟩ := serving_told (.stacked 127)
  obtain ⟨-, success, -⟩ := told.value _ rfl
  refine ⟨done, frame, run, queued, success, fun read => ?_⟩
  exact Json.not_nested_stacked Json.maxDepth (Serializer.nested_of_decode read)

theorem replies_accounted_true : ∃ done frame,
    Runs ((serving (.bool true)).Live ⟨1⟩ .external)
      ((serving (.bool true)).life ⟨1⟩ asked ⟨0, 7⟩) opened [] done (.ok ()) ∧
    opened.sessions.Queued ⟨1⟩ frame done.sessions ∧ frame.sequence = 7 ∧
    frame.protocol = ⟨10, 3⟩ ∧ frame.isError = false ∧ frame.body = [0x74, 0x72, 0x75, 0x65] := by
  have accounted := replies_accounted (serving (.bool true)) (serving_built _)
    (by rintro hook ⟨⟩) (by rintro id m ctx s found t p ⟨⟩) ⟨1⟩ .external asked
  obtain ⟨-, every, all⟩ := accounted.2 ⟨0, 7⟩ rfl opened
  obtain ⟨done, run⟩ := all [] opened _ (serving_judged _)
  obtain ⟨-, verdict, u, -, judged, answered⟩ := every [] done _ run
  obtain ⟨rfl, same⟩ := judged.unique (serving_judged _)
  cases same
  obtain ⟨s, z, frame, known, serializer, -, queued, -, -, sequence, told⟩ :=
    answered.told (by decide) rfl
  obtain ⟨protocol, success, body, -⟩ := told.value _ rfl
  cases known
  cases serializer
  exact ⟨done, frame, run, queued, sequence, protocol, success, body⟩

end Dispatcher
end ClusterWire
