import ClusterWire.Peer
import ClusterWire.Proofs.Activity

/-! How far a message has come on its way to a link, and how far a call of the server's own.
Links come and go while an attempt to connect is waited for. -/
namespace ClusterWire.Peer

/-- What is about to be done with a message. -/
inductive Sending.Stage where
  | seeking
  | connecting
  | opening (reason : Option String)
  | posting (link : LinkId)
  | ended (result : Except RpcFault Unit)

/-- A message that is sent, with the call that is entered just before. -/
structure Sending where
  address : SocketAddress
  message : Message
  call : Option Invocation
  stage : Sending.Stage := .seeking

namespace Sending

variable (settings : PeerSettings)

def behindSearch : Option LinkId → Stage
  | some link => .posting link
  | none => .connecting

def behindOpening : Except RpcFault LinkId → Stage
  | .ok link => .posting link
  | .error fault => .ended (.error fault)

/-- What is left to do. -/
def rest (s : Sending) : Activity World (Except RpcFault Unit) :=
  match s.stage with
  | .seeking => send settings s.address s.message s.call
  | .connecting => .connect s.address (sendOver settings s.address s.message s.call)
  | .opening reason => sendOver settings s.address s.message s.call reason
  | .posting link => Activity.update (World.post settings s.address link s.message s.call)
  | .ended result => .finish result

/-- The next step. `reason` is the outcome of the connection attempt, if it waits for one. -/
def work (s : Sending) (reason : Option String) (w : World) : World × Sending :=
  match s.stage with
  | .seeking => (w, { s with stage := behindSearch (w.peers.openLink? s.address) })
  | .connecting => (w, { s with stage := .opening reason })
  | .opening reason =>
    let (w, found) := w.openLink s.address reason
    (w, { s with stage := behindOpening found })
  | .posting link =>
    let (w, result) := w.post settings s.address link s.message s.call
    (w, { s with stage := .ended result })
  | .ended _ => (w, s)

theorem rest_behindSearch (s : Sending) (link : Option LinkId) :
    sendBy settings s.address s.message s.call link =
      ({ s with stage := behindSearch link } : Sending).rest settings := by
  cases link <;> rfl

theorem rest_behindOpening (s : Sending) (found : Except RpcFault LinkId) :
    sendOn settings s.address s.message s.call found =
      ({ s with stage := behindOpening found } : Sending).rest settings := by
  cases found <;> rfl

/-- The steps of a message are those of its activity. -/
theorem tick_rest (s : Sending) (reason : Option String) (w : World) :
    (s.rest settings).tick reason w =
      ((s.work settings reason w).1, (s.work settings reason w).2.rest settings) := by
  obtain ⟨address, m, call, stage⟩ := s
  cases stage with
  | seeking => exact Prod.ext rfl (rest_behindSearch settings ⟨address, m, call, _⟩ _)
  | opening reason => exact Prod.ext rfl (rest_behindOpening settings ⟨address, m, call, _⟩ _)
  | connecting | posting | ended => rfl

end Sending

/-- What is about to be done with a call. -/
inductive Outgoing.Stage where
  | numbering
  | timing (sequence : Int64)
  | sending (call : Invocation) (s : Sending)

/-- A call of the server's own. -/
structure Outgoing where
  address : SocketAddress
  ctx : CallContext
  protocol : ProtocolId
  argument : Json
  synchronous : Bool
  stage : Outgoing.Stage := .numbering

namespace Outgoing

variable (settings : PeerSettings)

/-- The slot that the result of a call goes to. -/
def slot (sequence : Int64) : Nat := sequence.toInt.toNat

def request (o : Outgoing) (sequence : Int64) : Message :=
  .peerRequest sequence o.protocol o.ctx.identity none (settings.link.encode o.argument)

def invocation (o : Outgoing) (now : Instant) (sequence : Int64) : Invocation :=
  .waiting now o.ctx sequence o.protocol o.synchronous settings.callTimeout (slot sequence)

/-- What the caller is given once its request is sent. -/
def handle (call : Invocation) : Except RpcFault Unit → Except RpcFault Pending
  | .ok () => .ok ⟨slot call.sequence, call⟩
  | .error fault => .error fault

/-- A call that is timed, with its request on the way. -/
def timed (o : Outgoing) (now : Instant) (sequence : Int64) : Stage :=
  let call := o.invocation settings now sequence
  .sending call ⟨o.address, o.request settings sequence, some call, .seeking⟩

def rest (o : Outgoing) : Activity World (Except RpcFault Pending) :=
  match o.stage with
  | .numbering => startCall settings o.address o.ctx o.protocol o.argument o.synchronous
  | .timing sequence => do
    let w ← Activity.look
    let call := o.invocation settings w.now sequence
    handle call <$> send settings o.address (o.request settings sequence) (some call)
  | .sending call s => handle call <$> s.rest settings

def work (o : Outgoing) (reason : Option String) (w : World) : World × Outgoing :=
  match o.stage with
  | .numbering =>
    let (calls, sequence) := w.calls.next
    (w.withCalls calls, { o with stage := .timing sequence })
  | .timing sequence => (w, { o with stage := o.timed settings w.now sequence })
  | .sending call s =>
    let (w, s) := s.work settings reason w
    (w, { o with stage := .sending call s })

/-- A call that has not begun is all of what starting a call does. -/
theorem startCall_eq (o : Outgoing) :
    startCall settings o.address o.ctx o.protocol o.argument o.synchronous =
      (Activity.update fun w : World => (w.withCalls w.calls.next.1, w.calls.next.2)).bind
        fun sequence => ({ o with stage := .timing sequence } : Outgoing).rest settings := by
  refine congrArg (Activity.bind _) (funext fun sequence => ?_)
  refine congrArg (Activity.bind _) (funext fun w => ?_)
  refine congrArg (Activity.bind _) (funext fun result => ?_)
  cases result <;> rfl

/-- The steps of a call are those of its activity. -/
theorem tick_rest (o : Outgoing) (reason : Option String) (w : World) :
    (o.rest settings).tick reason w =
      ((o.work settings reason w).1, (o.work settings reason w).2.rest settings) := by
  obtain ⟨address, ctx, protocol, argument, synchronous, stage⟩ := o
  cases stage with
  | numbering =>
    rw [rest, startCall_eq settings ⟨address, ctx, protocol, argument, synchronous, .numbering⟩]
    rfl
  | timing sequence => rfl
  | sending call s => simp only [rest, work, Activity.tick_map, s.tick_rest]

end Outgoing
end ClusterWire.Peer
