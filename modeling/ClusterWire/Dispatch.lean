import ClusterWire.Dispatch.Arguments
import ClusterWire.Dispatch.Forward
import ClusterWire.Dispatch.Hook
import ClusterWire.Schedule

/-! Dispatching requests. A connection hands a request over and reads on; the
rest happens on the worker that owns the caller's identity, and nothing a
handler does escapes it. -/
namespace ClusterWire

structure Dispatcher where
  registry : Registry (Handler World)
  serializers : Serializers
  extract : Dispatch.Extractor := Dispatch.defaultExtractor
  hook : Option Dispatch.Hook := none
  forward : Dispatch.Forward := Dispatch.drop

namespace Dispatcher

def answer (d : Dispatcher) (id : SessionId) (ctx : CallContext) (r : Option Reply) :
    Activity World Unit :=
  Activity.modify fun w => w.withSessions (Reply.deliver d.serializers id ctx r w.sessions)

def respond (d : Dispatcher) (id : SessionId) (ctx : CallContext) (protocol : ProtocolId)
    (synchronous : Bool) (work : Activity World (Except HandlerFault Json)) :
    Activity World Unit := do
  let outcome ← work.caught
  d.answer id ctx (Reply.ofOutcome synchronous protocol outcome)

/-- Calls a handler. An asynchronous one goes on beside the worker. -/
def call (d : Dispatcher) (id : SessionId) (ctx : CallContext) (descriptor : Descriptor)
    (handler : Handler World) (args : Arguments) : Activity World (Aside World) :=
  match handler args with
  | .crashes panic => do
    d.answer id ctx (Reply.ofOutcome true descriptor.protocol (.error panic))
    return none
  | .works work =>
    if descriptor.isSynchronous then do
      d.respond id ctx descriptor.protocol true work
      return none
    else return some (d.respond id ctx descriptor.protocol false work)

def enter (d : Dispatcher) (id : SessionId) (m : Message) (ctx : CallContext)
    (descriptor : Descriptor) (handler : Handler World) (w : World) :
    Activity World (Aside World) :=
  match w.sessions.session? id with
  | none => return none
  | some s =>
    match Dispatch.bindArguments d.serializers descriptor s m ctx with
    | .ok args => d.call id ctx descriptor handler args
    | .error fault => do
      d.answer id ctx (some (.error .badRequest s!"malformed request body: {fault.message}"))
      return none

def invoke (d : Dispatcher) (id : SessionId) (m : Message) (ctx : CallContext)
    (descriptor : Descriptor) (handler : Handler World) : Activity World (Aside World) := do
  if descriptor.requiresIdentity && !ctx.hasIdentity then
    d.answer id ctx (some (.error .noIdentity "no identity"))
    return none
  else
    d.enter id m ctx descriptor handler (← Activity.look)

def routeUnbound (d : Dispatcher) (id : SessionId) (m : Message) (ctx : CallContext) :
    Activity World (Aside World) := do
  let outcome ← d.forward id m ctx
  d.answer id ctx (outcome.reply m.protocol)
  return none

/-- What the hook says to a request. Without one every request passes. -/
def consult (d : Dispatcher) (id : SessionId) (m : Message) (ctx : CallContext) :
    Activity World Bool :=
  match d.hook with
  | some hook => hook id m ctx
  | none => return true

def route (d : Dispatcher) (id : SessionId) (m : Message) (ctx : CallContext) :
    Bool → Activity World (Aside World)
  | false => return none
  | true =>
    match d.registry.handler? m.protocol with
    | some (descriptor, handler) => d.invoke id m ctx descriptor handler
    | none => d.routeUnbound id m ctx

def process (d : Dispatcher) (id : SessionId) (m : Message) (ctx : CallContext) :
    Activity World (Aside World) := do
  d.route id m ctx (← d.consult id m ctx)

def context (d : Dispatcher) (s : Session) (m : Message) : CallContext :=
  ⟨d.extract s m, m.sequence⟩

/-- Takes a message of a session: requests become a job for the worker of their
identity, all else is discarded. -/
def dispatch (d : Dispatcher) (t : Sessions) (id : SessionId) (m : Message) :
    Option (Int64 × Activity World (Aside World)) :=
  match m.kind, t.session? id with
  | .request, some s =>
    let ctx := d.context s m
    some (ctx.identity, d.process id m ctx)
  | _, _ => none

end Dispatcher
end ClusterWire
