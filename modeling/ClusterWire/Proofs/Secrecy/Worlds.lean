import ClusterWire.Dispatch.Forward
import ClusterWire.Proofs.Secrecy.Faults

/-! Servers that only differ in failures. Their links go on alike, and so does a gateway: what it
relays does not depend on how earlier calls failed, nor its outcomes on why a peer could not be
reached, but for failures that are alike. -/
namespace ClusterWire

/-- Two boards that only differ in what waiters find. -/
structure Board.Near (b c : Board) : Prop where
  desk : b.desk.Near c.desk
  peers : b.peers = c.peers

namespace Board.Near

variable {b c : Board} (serializers : Serializers)

theorem enqueue (near : b.Near c) (address : SocketAddress) (id : LinkId) (m : Message)
    (call : Option Invocation) :
    (b.enqueue serializers address id m call).1.Near (c.enqueue serializers address id m call).1 ∧
    (b.enqueue serializers address id m call).2 = (c.enqueue serializers address id m call).2 := by
  obtain ⟨d, p⟩ := b
  obtain ⟨e, q⟩ := c
  obtain ⟨near, peers⟩ := near
  obtain rfl : p = q := peers
  unfold Board.enqueue
  cases call with
  | none =>
    dsimp only
    split
    · exact ⟨⟨near, rfl⟩, rfl⟩
    · exact ⟨⟨near, rfl⟩, rfl⟩
  | some i =>
    dsimp only
    split
    · exact ⟨⟨near.add serializers i, rfl⟩, rfl⟩
    · exact ⟨⟨(near.add serializers i).remove i.sequence, rfl⟩, rfl⟩

theorem failAll {d e : Desk} (near : d.Near e) (fault : RpcFault) (owed : List Int64) :
    (Board.failAll serializers fault owed d).Near (Board.failAll serializers fault owed e) := by
  induction owed generalizing d e with
  | nil => exact near
  | cons n rest ih => exact ih (near.fail serializers n (.refl fault))

theorem receive (near : b.Near c) (link : Serializer) (id : LinkId) (l : Link) (m : Message)
    (succeeds : Bool) : (b.receive serializers link id l m succeeds).Near
      (c.receive serializers link id l m succeeds) := by
  obtain ⟨d, p⟩ := b
  obtain ⟨e, q⟩ := c
  obtain ⟨near, peers⟩ := near
  obtain rfl : p = q := peers
  unfold Board.receive
  split
  · exact ⟨near, rfl⟩
  · exact ⟨near, rfl⟩
  · exact ⟨near, rfl⟩
  · split
    · exact ⟨near, rfl⟩
    · exact ⟨near.complete serializers link m, rfl⟩

/-- The task of a link goes on the same way. -/
theorem step (near : b.Near c) (link : Serializer) (id : LinkId) (event : LinkEvent) :
    (b.step serializers link id event).Near (c.step serializers link id event) := by
  obtain ⟨d, p⟩ := b
  obtain ⟨e, q⟩ := c
  obtain ⟨near, peers⟩ := near
  obtain rfl : p = q := peers
  have calls : d.calls.contains = e.calls.contains :=
    funext fun n => congrArg Option.isSome (near.find? n)
  unfold Board.step
  cases p.link? id with
  | none => exact ⟨near, rfl⟩
  | some l =>
    dsimp only
    split
    · split <;> exact ⟨near, rfl⟩
    · exact receive serializers ⟨near, rfl⟩ link id l _ _
    · exact ⟨near, by rw [calls]⟩
    · exact ⟨near, rfl⟩
    · split <;> exact ⟨near, rfl⟩
    · exact ⟨failAll serializers near _ _, rfl⟩
    · exact ⟨near, rfl⟩

end Board.Near

/-- Two servers that only differ in what waiters find. -/
structure World.Near (v w : World) : Prop where
  now : v.now = w.now
  board : v.board.Near w.board
  clusters : v.clusters = w.clusters

namespace World.Near

variable {v w : World}

theorem sessions (near : v.Near w) : v.sessions = w.sessions := near.board.desk.sessions

theorem peers (near : v.Near w) : v.peers = w.peers := near.board.peers

theorem withSessions (near : v.Near w) (t : Sessions) : (v.withSessions t).Near (w.withSessions t) :=
  ⟨near.now, ⟨⟨rfl, near.board.desk.last, near.board.desk.pending, near.board.desk.results⟩,
    near.board.peers⟩, near.clusters⟩

theorem withPeers (near : v.Near w) (p : Peers) : (v.withPeers p).Near (w.withPeers p) :=
  ⟨near.now, ⟨near.board.desk, rfl⟩, near.clusters⟩

theorem selectPeer (near : v.Near w) (type : ServerType) (selector : Selector) (ctx : CallContext) :
    (v.selectPeer type selector ctx).1.Near (w.selectPeer type selector ctx).1 ∧
    (v.selectPeer type selector ctx).2 = (w.selectPeer type selector ctx).2 := by
  unfold World.selectPeer
  rw [near.clusters, near.peers]
  split
  · exact ⟨near, rfl⟩
  · split
    · exact ⟨near, rfl⟩
    · exact ⟨near.withPeers _, rfl⟩

/-- The reason why a peer cannot be reached makes no difference but in the fault. -/
theorem openLink (near : v.Near w) (address : SocketAddress) {reason other : Option String}
    (same : reason.isSome = other.isSome) :
    (v.openLink address reason).1.Near (w.openLink address other).1 ∧
    Paired RpcFault.Alike Eq (v.openLink address reason).2 (w.openLink address other).2 := by
  unfold World.openLink
  rw [near.peers]
  cases w.peers.openLink? address with
  | some id => exact ⟨near, .ok rfl⟩
  | none =>
    cases reason with
    | none =>
      cases other with
      | none => exact ⟨near.withPeers _, .ok rfl⟩
      | some text => cases same
    | some text =>
      cases other with
      | none => cases same
      | some detail => exact ⟨near, .error (.hidden rfl rfl rfl)⟩

theorem post (near : v.Near w) (settings : PeerSettings) (address : SocketAddress) (id : LinkId)
    (m : Message) (call : Option Invocation) :
    (v.post settings address id m call).1.Near (w.post settings address id m call).1 ∧
    (v.post settings address id m call).2 = (w.post settings address id m call).2 := by
  obtain ⟨queued, result⟩ := near.board.enqueue settings.serializers address id m call
  exact ⟨⟨near.now, queued, near.clusters⟩, result⟩

theorem enter (near : v.Near w) (r : Dispatch.Relay) (server : ServerInfo) (id : SessionId)
    (m : Message) (ctx : CallContext) (s : Session) (body : Bytes) :
    (r.enter server id m ctx s body v).1.Near (r.enter server id m ctx s body w).1 ∧
    (r.enter server id m ctx s body v).2 = (r.enter server id m ctx s body w).2 := by
  have last : v.calls.lastSequence = w.calls.lastSequence := near.board.desk.last
  unfold Dispatch.Relay.enter
  cases ctx.expectsResponse with
  | false => exact ⟨near, rfl⟩
  | true =>
    simp only [if_true, Invocations.next, last, near.now]
    exact ⟨⟨near.now, ⟨⟨near.sessions, rfl, near.board.desk.pending, near.board.desk.results⟩,
      near.peers⟩, near.clusters⟩, trivial⟩

end World.Near

/-- What waiters find may differ, and the reasons why peers cannot be reached. -/
def World.margin : Margin World := ⟨World.Near, fun reason other => reason.isSome = other.isSome⟩

/-- The world after something has happened to its calls. -/
def World.told (serializers : Serializers) (event : CallEvent) (w : World) : World :=
  w.withDesk (w.board.desk.step serializers event)

namespace World.Near

variable {v w : World}

/-- Failures of calls that are alike make no difference. -/
theorem told (near : v.Near w) (serializers : Serializers) {event other : CallEvent}
    (alike : event.Alike other) : (v.told serializers event).Near (w.told serializers other) :=
  ⟨near.now, ⟨near.board.desk.step serializers alike, near.board.peers⟩, near.clusters⟩

/-- Nor does what happens on a link, such as its end, when the calls it owes fail. -/
theorem link (near : v.Near w) (serializers : Serializers) (own : Serializer) (id : LinkId)
    (event : LinkEvent) : World.Near { v with board := v.board.step serializers own id event }
      { w with board := w.board.step serializers own id event } :=
  ⟨near.now, near.board.step serializers own id event, near.clusters⟩

end World.Near

namespace Dispatch

open Activity (Like like_look like_update)

/-- The same outcome, but for the failure of a request that was not relayed. -/
inductive ForwardOutcome.Alike : ForwardOutcome → ForwardOutcome → Prop where
  | refl (outcome : ForwardOutcome) : Alike outcome outcome
  | failed {fault other : RpcFault} (alike : fault.Alike other) : Alike (.failed fault) (.failed other)

/-- Callers are told the same of outcomes that are alike. -/
theorem ForwardOutcome.Alike.reply {outcome other : ForwardOutcome} (alike : outcome.Alike other)
    (protocol : ProtocolId) : outcome.reply protocol = other.reply protocol := by
  cases alike with
  | refl => rfl
  | @failed fault other alike =>
    have told := alike.response
    rw [RpcFault.response, RpcFault.response, ErrorResponse.mk.injEq] at told
    simp only [ForwardOutcome.reply, told]

theorem like_send (settings : PeerSettings) (address : SocketAddress) (m : Message)
    (call : Option Invocation) : Like World.margin (Paired RpcFault.Alike Eq)
      (Peer.send settings address m call) (Peer.send settings address m call) := by
  have posting : ∀ {found other : Except RpcFault LinkId}, Paired RpcFault.Alike Eq found other →
      Like World.margin (Paired RpcFault.Alike Eq) (Peer.sendOn settings address m call found)
        (Peer.sendOn settings address m call other) := by
    intro found other same
    cases same with
    | error alike => exact .finish (.error alike)
    | @ok id id' same =>
      obtain rfl : id = id' := same
      refine like_update World.margin fun v w near => ?_
      obtain ⟨posted, result⟩ := near.post settings address id m call
      refine ⟨posted, ?_⟩
      rw [result]
      cases (w.post settings address id m call).2 with
      | ok => exact .ok rfl
      | error fault => exact .error (.refl fault)
  refine like_look.bind fun v w near => ?_
  rw [near.peers]
  cases w.peers.openLink? address with
  | some id => exact posting (.ok rfl)
  | none =>
    exact .connect address fun reason other same =>
      (like_update World.margin fun v w near => near.openLink address same).bind
        fun _ _ found => posting found

namespace Relay

/-- A gateway does the same with a request, whatever waiters find and whyever a peer cannot be
reached. -/
theorem like_forward (r : Relay) (id : SessionId) (m : Message) (ctx : CallContext) :
    Like World.margin ForwardOutcome.Alike (r.forward id m ctx) (r.forward id m ctx) := by
  unfold forward
  cases r.declared.find? (·.protocol == m.protocol) with
  | none => exact .finish (.refl _)
  | some d =>
    refine (like_update World.margin fun v w near =>
      near.selectPeer d.target (r.selector ctx) ctx).bind ?_
    rintro chosen _ rfl
    cases chosen with
    | error fault =>
      cases fault with
      | cluster fault => exact .finish (.refl _)
      | overflow fault => exact .crash _ _
    | ok server =>
      refine like_look.bind fun v w near => ?_
      rw [near.sessions]
      cases w.sessions.session? id with
      | none => exact .finish (.refl _)
      | some s =>
        simp only [relayFor]
        cases r.body s m with
        | error fault => exact .finish (.refl _)
        | ok body =>
          refine (like_update World.margin fun v w near =>
            near.enter r server id m ctx s body).bind ?_
          rintro p _ rfl
          refine (like_send r.settings p.server.address p.request p.call).bind ?_
          rintro _ _ (same | alike)
          · exact .finish (.refl _)
          · exact .finish (.failed alike)

end Relay
end Dispatch
end ClusterWire
