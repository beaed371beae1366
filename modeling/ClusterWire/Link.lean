import ClusterWire.Invocation

/-! Outbound links. A client keeps at most one open link to its address; the
task of a link writes what was queued, reads responses, and at its end fails
the calls that it still owes an answer. -/
namespace ClusterWire

/-- A link is open, or its task has ended its loop and closes the connection,
or it has stopped and takes no more messages. -/
inductive LinkPhase where
  | running
  | closing
  | stopped
deriving DecidableEq, Repr

structure LinkId where
  index : Nat
deriving DecidableEq, Repr

/-- A link: messages it took and did not write yet, the numbers of requests
written and not answered, and what went to the peer. -/
structure Link where
  address : SocketAddress
  phase : LinkPhase := .running
  queue : List Message := []
  inFlight : List Int64 := []
  written : List Message := []
deriving DecidableEq, Repr

structure PeerClient where
  address : SocketAddress
  link : Option LinkId := none
  pushes : List Message := []
deriving DecidableEq, Repr

structure Peers where
  clients : List PeerClient
  links : List Link
deriving DecidableEq, Repr, Inhabited

namespace Link

def tracked? (m : Message) : Option Int64 :=
  if m.kind = .request ∧ m.sequence ≠ 0 then some m.sequence else none

def track (l : Link) (m : Message) : Link :=
  match tracked? m with
  | some n => if n ∈ l.inFlight then l else { l with inFlight := l.inFlight ++ [n] }
  | none => l

end Link

namespace Peers

def empty : Peers := ⟨[], []⟩

def client? (p : Peers) (address : SocketAddress) : Option PeerClient :=
  p.clients.find? (·.address == address)

def withClient (p : Peers) (address : SocketAddress) : Peers :=
  if (p.client? address).isSome then p
  else { p with clients := p.clients ++ [⟨address, none, []⟩] }

def link? (p : Peers) (id : LinkId) : Option Link := p.links[id.index]?

def modifyLink (p : Peers) (id : LinkId) (f : Link → Link) : Peers :=
  { p with links := p.links.modify id.index f }

def modifyClient (p : Peers) (address : SocketAddress) (f : PeerClient → PeerClient) : Peers :=
  { p with clients := p.clients.map fun c => if c.address = address then f c else c }

def openLink? (p : Peers) (address : SocketAddress) : Option LinkId := do
  let id ← (← p.client? address).link
  let l ← p.link? id
  if l.phase = .stopped then none else some id

def isConnected (p : Peers) (address : SocketAddress) : Bool := (p.openLink? address).isSome

def attach (p : Peers) (address : SocketAddress) : Peers × LinkId :=
  let id : LinkId := ⟨p.links.length⟩
  ({ (p.withClient address).modifyClient address fun c => { c with link := some id } with
      links := p.links ++ [⟨address, .running, [], [], []⟩] }, id)

def detach (p : Peers) (address : SocketAddress) : Peers :=
  p.modifyClient address fun c => { c with link := none }

def isHeld (p : Peers) (id : LinkId) : Bool := p.clients.any (·.link == some id)

end Peers

inductive LinkEvent where
  | write (succeeds : Bool)
  | receive (m : Message) (succeeds : Bool)
  /-- Forgets the numbers of calls that have ended and sends a heartbeat. -/
  | heartbeat (succeeds : Bool)
  | lost
  /-- The queue is empty and no client holds the link. -/
  | released
  /-- The connection is closed: the calls still owed an answer fail. -/
  | stop
deriving DecidableEq, Repr

structure Board where
  desk : Desk
  peers : Peers
deriving Repr, Inhabited

namespace Board

def linkClosed : String := "link closed"

def linkFault (address : SocketAddress) : RpcFault := .connection address.text linkClosed

/-- Queues a message on the link of a client, with its call entered first. A
link that has stopped refuses, and the call is taken back. -/
def enqueue (serializers : Serializers) (b : Board) (address : SocketAddress) (id : LinkId)
    (m : Message) (call : Option Invocation) : Board × Except RpcFault Unit :=
  let desk := match call with
    | some i => b.desk.add serializers i
    | none => b.desk
  if (b.peers.link? id).any (·.phase != .stopped) then
    ({ desk := desk
       peers := b.peers.modifyLink id fun l => { l with queue := l.queue ++ [m] } }, .ok ())
  else
    let desk := match call with
      | some i => (desk.remove i.sequence).1
      | none => desk
    ({ b with desk := desk }, .error (linkFault address))

/-- A frame goes out, or the loop of the task ends. -/
def wrote (l : Link) (m : Message) (succeeds : Bool) : Link :=
  if succeeds then { l with written := l.written ++ [m] } else { l with phase := .closing }

def failAll (serializers : Serializers) (fault : RpcFault) : List Int64 → Desk → Desk
  | [], d => d
  | n :: rest, d => failAll serializers fault rest (d.fail serializers n fault).1

/-- A frame from the peer. Pushes go to the client's subscribers, responses
end their calls, requests are ignored. -/
def receive (serializers : Serializers) (link : Serializer) (b : Board) (id : LinkId) (l : Link)
    (m : Message) (succeeds : Bool) : Board :=
  match m.kind with
  | .heartbeatRequest =>
    { b with peers := b.peers.modifyLink id (wrote · (.heartbeatResponse .internal) succeeds) }
  | .heartbeatResponse | .request => b
  | .response =>
    if m.sequence = 0 then
      { b with peers := b.peers.modifyClient l.address fun c =>
          { c with pushes := c.pushes ++ [m] } }
    else
      { desk := (b.desk.complete serializers link m).1
        peers := b.peers.modifyLink id fun l =>
          { l with inFlight := l.inFlight.filter (· != m.sequence) } }

/-- One step of the task of a link. A step that is not due changes nothing. -/
def step (serializers : Serializers) (link : Serializer) (b : Board) (id : LinkId)
    (event : LinkEvent) : Board :=
  match b.peers.link? id with
  | none => b
  | some l =>
    let put (f : Link → Link) : Board := { b with peers := b.peers.modifyLink id f }
    match l.phase, event with
    | .running, .write succeeds =>
      match l.queue with
      | [] => b
      | m :: rest => put fun l => wrote ({ l with queue := rest }.track m) m succeeds
    | .running, .receive m succeeds => receive serializers link b id l m succeeds
    | .running, .heartbeat succeeds =>
      put fun l => wrote { l with inFlight := l.inFlight.filter b.desk.calls.contains }
        (.heartbeatRequest .internal) succeeds
    | .running, .lost => put fun l => { l with phase := .closing }
    | .running, .released =>
      if l.queue.isEmpty ∧ !b.peers.isHeld id then put fun l => { l with phase := .closing } else b
    | .closing, .stop =>
      let owed := (l.queue.foldl Link.track l).inFlight
      { desk := failAll serializers (linkFault l.address) owed b.desk
        peers := b.peers.modifyLink id fun l =>
          { l with phase := .stopped, queue := [], inFlight := [] } }
    | _, _ => b

end Board
end ClusterWire
