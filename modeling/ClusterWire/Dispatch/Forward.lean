import ClusterWire.Dispatch.Reply
import ClusterWire.Peer
import ClusterWire.Registry

/-! What happens to requests without a handler. A gateway relays them to a
server of the type that their protocol is declared for; the answer goes back
under the caller's own number. -/
namespace ClusterWire.Dispatch

inductive ForwardOutcome where
  | forwarded (server : UInt32)
  | dropped
  | unsupported
  | failed (fault : RpcFault)
deriving Repr

/-- What the caller is told of an outcome. A relayed request is answered by
the peer. -/
def ForwardOutcome.reply (protocol : ProtocolId) : ForwardOutcome → Option Reply
  | forwarded _ | dropped => none
  | unsupported => some (.error .unsupportedProtocol s!"protocol {protocol.text} is not supported")
  | failed fault => some (.error fault.errorCode fault.wireMessage)

abbrev Forward := SessionId → Message → CallContext → Activity World ForwardOutcome

def drop : Forward := fun _ _ _ => .finish .dropped

/-- A request made up for a server, with the call that waits for its answer. -/
structure Parcel where
  server : ServerInfo
  request : Message
  call : Option Invocation
deriving Repr

/-- Relaying to peers: the declared protocols, the links, and the layout of
identities when callers go to the server that minted theirs. -/
structure Relay where
  declared : List Descriptor
  settings : PeerSettings
  shards : Option Ident.Layout

namespace Relay

/-- Callers with an identity go to its shard, if there are shards, all others
to the least loaded server. -/
def selector (r : Relay) (ctx : CallContext) : Selector :=
  match r.shards with
  | some layout => if ctx.hasIdentity then .shard layout else .leastLoaded
  | none => .leastLoaded

def body (r : Relay) (s : Session) (m : Message) : Except CodecFault Bytes := do
  (← r.settings.serializers.get s.serializeType).transcode r.settings.link m.body

/-- The relayed request: it runs for the same identity and names the address
of the caller. -/
def request (sequence : Int64) (ctx : CallContext) (s : Session) (m : Message) (body : Bytes) :
    Message :=
  (Message.peerRequest sequence m.protocol ctx.identity none body).withOriginHint s.remote.text

/-- Makes up a request. One that expects an answer takes the next number, all
others go out under 0. -/
def enter (r : Relay) (server : ServerInfo) (id : SessionId) (m : Message) (ctx : CallContext)
    (s : Session) (body : Bytes) (w : World) : World × Parcel :=
  if ctx.expectsResponse then
    let (calls, sequence) := w.calls.next
    (w.withCalls calls,
      ⟨server, request sequence ctx s m body,
        some (.forwarding w.now ctx sequence m.protocol id r.settings.callTimeout)⟩)
  else (w, ⟨server, request 0 ctx s m body, none⟩)

/-- What sending a parcel comes to. -/
def handed (p : Parcel) : Except RpcFault Unit → ForwardOutcome
  | .ok () => .forwarded p.server.id
  | .error fault => .failed fault

def hand (r : Relay) (p : Parcel) : Activity World ForwardOutcome := do
  return handed p (← Peer.send r.settings p.server.address p.request p.call)

/-- Goes on with a request once its session is looked up. -/
def relayFor (r : Relay) (server : ServerInfo) (id : SessionId) (m : Message) (ctx : CallContext) :
    Option Session → Activity World ForwardOutcome
  | none => .finish .dropped
  | some s =>
    match r.body s m with
    | .error fault => .finish (.failed (.codec fault))
    | .ok body => do r.hand (← Activity.update (r.enter server id m ctx s body))

def relayTo (r : Relay) (server : ServerInfo) (id : SessionId) (m : Message) (ctx : CallContext) :
    Activity World ForwardOutcome := do
  r.relayFor server id m ctx ((← Activity.look).sessions.session? id)

/-- Goes on with a request once a server is chosen for it. -/
def chosen (r : Relay) (id : SessionId) (m : Message) (ctx : CallContext) :
    Except SelectFault ServerInfo → Activity World ForwardOutcome
  | .error (.cluster fault) => .finish (.failed (.cluster fault))
  | .error (.overflow fault) => .crash (.text fault.message)
  | .ok server => r.relayTo server id m ctx

def relay (r : Relay) (target : ServerType) (id : SessionId) (m : Message) (ctx : CallContext) :
    Activity World ForwardOutcome := do
  r.chosen id m ctx (← Activity.update fun w : World => w.selectPeer target (r.selector ctx) ctx)

def forward (r : Relay) : Forward := fun id m ctx =>
  match r.declared.find? (·.protocol == m.protocol) with
  | none => .finish .unsupported
  | some d => r.relay d.target id m ctx

end Relay
end ClusterWire.Dispatch
