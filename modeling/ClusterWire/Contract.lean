import ClusterWire.Peer

/-! Contracts: the methods that one server type offers to the others, and how
each of them is called. -/
namespace ClusterWire

/-- How a method is called: the caller waits, collects the result later, or
expects none. -/
inductive CallMode where
  | waited
  | collected
  | notified
deriving DecidableEq, Repr

def CallMode.text : CallMode → String
  | .waited => "sync"
  | .collected => "async"
  | .notified => "notify"

structure Method where
  name : String
  protocol : ProtocolId
  mode : CallMode
deriving DecidableEq, Repr

structure Contract where
  name : String
  target : ServerType
  methods : List Method
deriving DecidableEq, Repr

namespace Contract

def method? (c : Contract) (protocol : ProtocolId) : Option Method :=
  c.methods.find? (·.protocol == protocol)

/-- Refuses protocols that the contract lacks or calls in another way. -/
def expect (c : Contract) (protocol : ProtocolId) (mode : CallMode) : Except RpcFault Unit :=
  match c.method? protocol with
  | none => .error (.unknownMethod c.name protocol)
  | some m => if m.mode = mode then .ok () else .error (.callStyleMismatch c.name m.name)

def call (c : Contract) (settings : PeerSettings) (address : SocketAddress) (ctx : CallContext)
    (protocol : ProtocolId) (argument : Json) (mode : CallMode) :
    Activity World (Except RpcFault Peer.Pending) :=
  match c.expect protocol mode with
  | .error fault => .finish (.error fault)
  | .ok () => Peer.startCall settings address ctx protocol argument (mode == .waited)

def notify (c : Contract) (settings : PeerSettings) (address : SocketAddress) (ctx : CallContext)
    (protocol : ProtocolId) (argument : Json) : Activity World (Except RpcFault Unit) :=
  match c.expect protocol .notified with
  | .error fault => .finish (.error fault)
  | .ok () => Peer.notify settings address ctx protocol argument

end Contract
end ClusterWire
