import ClusterWire.Activity
import ClusterWire.World

/-! Calls to other servers. A client connects when it first has something to
send and after its link dropped; a send that fails is not repeated. -/
namespace ClusterWire

structure PeerSettings where
  serializers : Serializers
  link : Serializer
  connectTimeout : Span
  callTimeout : Span
  heartbeatInterval : Span
  frameLimit : Nat

namespace World

def selectPeer (w : World) (type : ServerType) (selector : Selector) (ctx : CallContext) :
    World × Except SelectFault ServerInfo :=
  match w.clusters.find? type with
  | none => (w, .error (.cluster (.emptyCluster type)))
  | some c =>
    match selector.select c ctx with
    | .error fault => (w, .error fault)
    | .ok server => (w.withPeers (w.peers.withClient server.address), .ok server)

/-- The open link to an address; a client whose attempt to connect succeeded
opens one if there is none yet. `reason` says why it did not succeed. -/
def openLink (address : SocketAddress) (reason : Option String) (w : World) :
    World × Except RpcFault LinkId :=
  match w.peers.openLink? address, reason with
  | some id, _ => (w, .ok id)
  | none, some reason => (w, .error (.connection address.text reason))
  | none, none =>
    let (peers, id) := w.peers.attach address
    (w.withPeers peers, .ok id)

/-- Queues a message on a link, which may have stopped since it was looked up. -/
def post (settings : PeerSettings) (address : SocketAddress) (id : LinkId) (m : Message)
    (call : Option Invocation) (w : World) : World × Except RpcFault Unit :=
  let (board, result) := w.board.enqueue settings.serializers address id m call
  ({ w with board := board }, result)

end World

namespace Peer

section Send

variable (settings : PeerSettings) (address : SocketAddress) (m : Message)
  (call : Option Invocation)

def sendOn : Except RpcFault LinkId → Activity World (Except RpcFault Unit)
  | .ok id => Activity.update (World.post settings address id m call)
  | .error fault => .finish (.error fault)

/-- Goes on with an attempt to connect once its outcome is known. -/
def sendOver (reason : Option String) : Activity World (Except RpcFault Unit) := do
  sendOn settings address m call (← Activity.update (World.openLink address reason))

def sendBy : Option LinkId → Activity World (Except RpcFault Unit)
  | some id => sendOn settings address m call (.ok id)
  | none => .connect address (sendOver settings address m call)

/-- Sends a message over the link to an address, with its call entered just
before. -/
def send : Activity World (Except RpcFault Unit) := do
  sendBy settings address m call ((← Activity.look).peers.openLink? address)

end Send

structure Pending where
  slot : Nat
  call : Invocation
deriving Repr

/-- Starts a call. Its result goes to the slot of its own number. -/
def startCall (settings : PeerSettings) (address : SocketAddress) (ctx : CallContext)
    (protocol : ProtocolId) (argument : Json) (synchronous : Bool) :
    Activity World (Except RpcFault Pending) := do
  let sequence ← Activity.update fun w : World =>
    (w.withCalls w.calls.next.1, w.calls.next.2)
  let w ← Activity.look
  let slot := sequence.toInt.toNat
  let call := Invocation.waiting w.now ctx sequence protocol synchronous settings.callTimeout slot
  let m := Message.peerRequest sequence protocol ctx.identity none (settings.link.encode argument)
  match ← send settings address m (some call) with
  | .ok () => return .ok ⟨slot, call⟩
  | .error fault => return .error fault

def notify (settings : PeerSettings) (address : SocketAddress) (ctx : CallContext)
    (protocol : ProtocolId) (argument : Json) : Activity World (Except RpcFault Unit) :=
  send settings address
    (.peerRequest 0 protocol ctx.identity none (settings.link.encode argument)) none

end Peer
end ClusterWire
