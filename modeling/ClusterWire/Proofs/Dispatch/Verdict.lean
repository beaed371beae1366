import ClusterWire.Dispatch
import ClusterWire.Proofs.Registry

/-! What becomes of a request before it is answered, and the answer. The whole
life of a request is what the hook, the handler or the forward policy do with
it, and then one answer at most. -/
namespace ClusterWire

/-- What a request comes to. `gone` is a request whose session is not known. -/
inductive Verdict where
  | rejected
  | gone
  | noIdentity
  | malformed (fault : CodecFault)
  | handled (synchronous : Bool) (outcome : Except Panic (Except HandlerFault Json))
  | routed (outcome : Dispatch.ForwardOutcome)

namespace Dispatcher

variable (d : Dispatcher) (id : SessionId) (m : Message) (ctx : CallContext)

/-- What follows a job: it goes on later with what was left. -/
def later : Aside World → Activity World Unit
  | none => .finish ()
  | some work => .pause 0 work

def life : Activity World Unit := do later (← d.process id m ctx)

def judgeCall (descriptor : Descriptor) : Call World → Activity World Verdict
  | .crashes panic => return .handled true (.error panic)
  | .works work =>
    if descriptor.isSynchronous then return .handled true (← work.caught)
    else .pause 0 do return .handled false (← work.caught)

def judgeEntered (descriptor : Descriptor) (handler : Handler World) (w : World) :
    Activity World Verdict :=
  match w.sessions.session? id with
  | none => return .gone
  | some s =>
    match Dispatch.bindArguments d.serializers descriptor s m ctx with
    | .ok args => judgeCall descriptor (handler args)
    | .error fault => return .malformed fault

def judgeBound (descriptor : Descriptor) (handler : Handler World) : Activity World Verdict := do
  if descriptor.requiresIdentity && !ctx.hasIdentity then return .noIdentity
  else d.judgeEntered id m ctx descriptor handler (← Activity.look)

def judgeRouted : Bool → Activity World Verdict
  | false => return .rejected
  | true =>
    match d.registry.handler? m.protocol with
    | some (descriptor, handler) => d.judgeBound id m ctx descriptor handler
    | none => do return .routed (← d.forward id m ctx)

/-- Everything that is done with a request but answering it: the hook first, then
its handler, if there is one, and the forward policy otherwise. -/
def judge : Activity World Verdict := do
  d.judgeRouted id m ctx (← d.consult id m ctx)

end Dispatcher

def Verdict.reply (protocol : ProtocolId) : Verdict → Option Reply
  | rejected | gone => none
  | noIdentity => some (.error .noIdentity "no identity")
  | malformed fault => some (.error .badRequest s!"malformed request body: {fault.message}")
  | handled synchronous outcome => Reply.ofOutcome synchronous protocol outcome
  | routed outcome => outcome.reply protocol

namespace Dispatcher

variable (d : Dispatcher) (id : SessionId) (m : Message) (ctx : CallContext)

def tell : Verdict → Activity World Unit
  | .rejected | .gone => .finish ()
  | verdict => d.answer id ctx (verdict.reply m.protocol)

theorem call_eq_judge (descriptor : Descriptor) (own : descriptor.protocol = m.protocol)
    (handler : Handler World) (args : Arguments) :
    (d.call id ctx descriptor handler args).bind later =
      (judgeCall descriptor (handler args)).bind (d.tell id m ctx) := by
  unfold call judgeCall
  rw [own]
  cases handler args with
  | crashes panic => rfl
  | works work =>
    cases descriptor.isSynchronous with
    | true =>
      change ((d.respond id ctx m.protocol true work).bind fun _ => .finish none).bind later =
        (work.caught.bind fun outcome => .finish (.handled true outcome)).bind (d.tell id m ctx)
      rw [Activity.bind_assoc, Activity.bind_assoc]
      exact Activity.bind_assoc _ _ _
    | false =>
      -- The rest of an asynchronous call starts behind the pause on both sides.
      change Activity.pause 0 (d.respond id ctx m.protocol false work) =
        Activity.pause 0 ((work.caught.bind fun outcome => .finish (.handled false outcome)).bind
          (d.tell id m ctx))
      rw [Activity.bind_assoc]
      rfl

theorem enter_eq_judge (descriptor : Descriptor) (own : descriptor.protocol = m.protocol)
    (handler : Handler World) (w : World) :
    (d.enter id m ctx descriptor handler w).bind later =
      (d.judgeEntered id m ctx descriptor handler w).bind (d.tell id m ctx) := by
  unfold enter judgeEntered
  cases w.sessions.session? id with
  | none => rfl
  | some s =>
    dsimp only
    cases Dispatch.bindArguments d.serializers descriptor s m ctx with
    | ok args => exact d.call_eq_judge id m ctx descriptor own handler args
    | error fault => rfl

theorem invoke_eq_judge (descriptor : Descriptor) (own : descriptor.protocol = m.protocol)
    (handler : Handler World) :
    (d.invoke id m ctx descriptor handler).bind later =
      (d.judgeBound id m ctx descriptor handler).bind (d.tell id m ctx) := by
  unfold invoke judgeBound
  cases descriptor.requiresIdentity && !ctx.hasIdentity with
  | true => rfl
  | false => exact congrArg (Activity.act _) (funext (d.enter_eq_judge id m ctx descriptor own handler))

theorem unbound_eq_judge :
    (d.routeUnbound id m ctx).bind later =
      ((d.forward id m ctx).bind fun outcome => .finish (.routed outcome)).bind (d.tell id m ctx) := by
  change ((d.forward id m ctx).bind fun outcome =>
    (d.answer id ctx (outcome.reply m.protocol)).bind fun _ => .finish none).bind later = _
  rw [Activity.bind_assoc, Activity.bind_assoc]
  rfl

theorem route_eq_judge (passed : Bool) :
    (d.route id m ctx passed).bind later = (d.judgeRouted id m ctx passed).bind (d.tell id m ctx) := by
  cases passed with
  | false => rfl
  | true =>
    unfold route judgeRouted
    cases found : d.registry.handler? m.protocol with
    | none => exact d.unbound_eq_judge id m ctx
    | some entry =>
      obtain ⟨descriptor, handler⟩ := entry
      exact d.invoke_eq_judge id m ctx descriptor (Registry.protocol_of_handler? found) handler

/-- A request comes to a verdict, and the verdict is told. Nothing else is done. -/
theorem life_eq_judge : d.life id m ctx = (d.judge id m ctx).bind (d.tell id m ctx) := by
  change ((d.consult id m ctx).bind (d.route id m ctx)).bind later =
    ((d.consult id m ctx).bind (d.judgeRouted id m ctx)).bind (d.tell id m ctx)
  rw [Activity.bind_assoc, Activity.bind_assoc]
  exact congrArg (Activity.bind _) (funext (d.route_eq_judge id m ctx))

end Dispatcher
end ClusterWire
