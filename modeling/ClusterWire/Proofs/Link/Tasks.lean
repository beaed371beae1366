import ClusterWire.Proofs.Link.Outgoing
import ClusterWire.Proofs.Relay.Stages

/-! The work that puts messages on links: the server's own calls, its notices, and the requests
it relays. What a step of it may do to the numbers, the links and the calls is said once, by
what the task holds before and behind it. -/
namespace ClusterWire

open Dispatch (Relay)
open Dispatch.Relay (Errand)
open Peer (Sending Outgoing)

/-- A message about to be queued on a link. -/
structure Post where
  address : SocketAddress
  link : LinkId
  message : Message
  call : Option Invocation

/-- What a task holds: a number it took for a call that is not entered yet; what its next step
queues, or that it takes a number then. It `fits` if requests with a call, and only those,
carry its number. -/
structure Holding where
  number? : Option Int64 := none
  post? : Option Post := none
  takes : Bool := false
  fits : Prop := True

/-- What a step does, by what was held before and is held behind it: nothing to calls and links
but for a link that is opened, or it takes a number, or it queues a message. -/
inductive Works (serializers : Serializers) (w : World) (h : Holding) : World → Holding → Prop where
  | quiet {w' : World} {h' : Holding} (calls : w'.calls = w.calls)
      (links : ∃ opened, (∀ l ∈ opened, ∃ address, l = { address }) ∧
        w'.peers.links = w.peers.links ++ opened)
      (number : h'.number? = h.number? ∨ h'.number? = none) (nothing : h.post? = none)
      (fits : h.fits → h'.fits) : Works serializers w h w' h'
  | number {w' : World} {h' : Holding} (takes : h.takes = true) (nothing : h.post? = none)
      (calls : w'.calls = w.calls.next.1) (links : w'.peers.links = w.peers.links)
      (number : h'.number? = some w.calls.next.2) (fits : w.calls.next.2 ≠ 0 → h'.fits) :
      Works serializers w h w' h'
  | post {w' : World} {h' : Holding} (p : Post) (posts : h.post? = some p)
      (world : w'.board = (w.board.enqueue serializers p.address p.link p.message p.call).1)
      (number : h.number? = p.call.map (·.sequence)) (none : h'.number? = none)
      (carries : h.fits → Link.tracked? p.message = p.call.map (·.sequence)) (fits : h'.fits) :
      Works serializers w h w' h'

theorem Peers.links_withClient (p : Peers) (address : SocketAddress) :
    (p.withClient address).links = p.links := by
  unfold withClient
  split <;> rfl

namespace Works

variable {serializers : Serializers} {w : World} {h h' : Holding}

/-- A step that leaves the world as it is. -/
theorem still (number : h'.number? = h.number? ∨ h'.number? = none) (nothing : h.post? = none)
    (fits : h.fits → h'.fits) : Works serializers w h w h' :=
  .quiet rfl ⟨[], by simp, by simp⟩ number nothing fits

theorem openLink {address : SocketAddress} {reason : Option String}
    (number : h'.number? = h.number? ∨ h'.number? = none) (nothing : h.post? = none)
    (fits : h.fits → h'.fits) : Works serializers w h (w.openLink address reason).1 h' := by
  have opened : ∃ opened : List Link, (∀ l ∈ opened, ∃ address, l = { address }) ∧
      (w.openLink address reason).1.calls = w.calls ∧
      (w.openLink address reason).1.peers.links = w.peers.links ++ opened := by
    unfold World.openLink
    split
    · exact ⟨[], by simp, rfl, by simp⟩
    · exact ⟨[], by simp, rfl, by simp⟩
    · exact ⟨[{ address }], by simp, rfl, rfl⟩
  obtain ⟨opened, fresh, calls, links⟩ := opened
  exact .quiet calls ⟨opened, fresh, links⟩ number nothing fits

theorem selectPeer {type : ServerType} {selector : Selector} {ctx : CallContext}
    (number : h'.number? = h.number? ∨ h'.number? = none) (nothing : h.post? = none)
    (fits : h.fits → h'.fits) : Works serializers w h (w.selectPeer type selector ctx).1 h' := by
  have same : (w.selectPeer type selector ctx).1.calls = w.calls ∧
      (w.selectPeer type selector ctx).1.peers.links = w.peers.links := by
    unfold World.selectPeer
    split
    · exact ⟨rfl, rfl⟩
    · split
      · exact ⟨rfl, rfl⟩
      · exact ⟨rfl, Peers.links_withClient w.peers _⟩
  exact .quiet same.1 ⟨[], by simp, by simp [same.2]⟩ number nothing fits

end Works

namespace Peer

namespace Sending

/-- The message carries the number of its call. -/
def Fits (s : Sending) : Prop := Link.tracked? s.message = s.call.map (·.sequence)

def holding (s : Sending) : Holding :=
  match s.stage with
  | .seeking | .connecting | .opening _ =>
    { number? := s.call.map (·.sequence), fits := s.Fits }
  | .posting link =>
    { number? := s.call.map (·.sequence), post? := some ⟨s.address, link, s.message, s.call⟩
      fits := s.Fits }
  | .ended _ => {}

theorem works (settings : PeerSettings) (s : Sending) (reason : Option String) (w : World) :
    Works settings.serializers w s.holding (s.work settings reason w).1
      (s.work settings reason w).2.holding := by
  obtain ⟨address, m, call, stage⟩ := s
  cases stage with
  | seeking =>
    unfold work
    cases w.peers.openLink? address <;> exact .still (.inl rfl) rfl id
  | connecting => exact .still (.inl rfl) rfl id
  | opening reason =>
    simp only [work]
    cases (w.openLink address reason).2 with
    | ok link => exact .openLink (.inl rfl) rfl id
    | error fault => exact .openLink (.inr rfl) rfl fun _ => trivial
  | posting link => exact .post ⟨address, link, m, call⟩ rfl rfl rfl rfl id trivial
  | ended result => exact .still (.inl rfl) rfl id

end Sending

namespace Outgoing

def holding (o : Outgoing) : Holding :=
  match o.stage with
  | .numbering => { takes := true }
  | .timing sequence => { number? := some sequence, fits := sequence ≠ 0 }
  | .sending _ s => s.holding

theorem works (settings : PeerSettings) (o : Outgoing) (reason : Option String) (w : World) :
    Works settings.serializers w o.holding (o.work settings reason w).1
      (o.work settings reason w).2.holding := by
  obtain ⟨address, ctx, protocol, argument, synchronous, stage⟩ := o
  cases stage with
  | numbering => exact .number rfl rfl rfl rfl rfl id
  | timing sequence =>
    refine .still (.inl rfl) rfl fun asked => ?_
    exact if_pos ⟨rfl, asked⟩
  | sending call s => exact s.works settings reason w

end Outgoing
end Peer

namespace Dispatch

def Parcel.number? (p : Parcel) : Option Int64 := p.call.map (·.sequence)

/-- The request carries the number of its call. -/
def Parcel.Carries (p : Parcel) : Prop := Link.tracked? p.request = p.number?

namespace Relay.Errand

variable (d : Dispatcher) (r : Relay)

def holding (e : Errand) : Holding :=
  match e.stage with
  | .entering _ _ _ => { takes := e.ctx.expectsResponse }
  | .seeking p | .connecting p | .opening p _ => { number? := p.number?, fits := p.Carries }
  | .posting p link =>
    { number? := p.number?, post? := some ⟨p.server.address, link, p.request, p.call⟩
      fits := p.Carries }
  | .choosing _ | .reading _ | .answering _ | .finished | .crashed _ => {}

theorem works (e : Errand) (reason : Option String) (w : World) :
    Works r.settings.serializers w e.holding (e.work d r reason w).1
      (e.work d r reason w).2.holding := by
  obtain ⟨session, m, identity, stage⟩ := e
  cases stage with
  | choosing target =>
    have chosen : ∀ choice, holding ⟨session, m, identity, .behindChoice choice⟩ = {} := by
      intro choice
      cases choice with
      | ok server => rfl
      | error fault => cases fault <;> rfl
    refine .selectPeer ?_ rfl ?_
    · exact .inr (by rw [work, chosen])
    · exact fun _ => by simp only [work, chosen]
  | reading server =>
    have looked : ∀ s, (holding ⟨session, m, identity, .behindLook r server m s⟩).number? = none ∧
        (holding ⟨session, m, identity, .behindLook r server m s⟩).fits := by
      intro s
      cases s with
      | none => exact ⟨rfl, trivial⟩
      | some s =>
        simp only [Stage.behindLook]
        cases r.body s m <;> exact ⟨rfl, trivial⟩
    exact .still (.inr (looked _).1) rfl fun _ => (looked _).2
  | entering server s body =>
    simp only [work, enter]
    cases asked : CallContext.expectsResponse (ctx ⟨session, m, identity, _⟩) with
    | true =>
      refine .number asked rfl rfl rfl rfl fun numbered => ?_
      exact if_pos ⟨rfl, numbered⟩
    | false => exact .still (.inl rfl) rfl fun _ => rfl
  | seeking p =>
    simp only [work]
    cases w.peers.openLink? p.server.address <;> exact .still (.inl rfl) rfl id
  | connecting p => exact .still (.inl rfl) rfl id
  | opening p reason =>
    simp only [work]
    cases (w.openLink p.server.address reason).2 with
    | ok link => exact .openLink (.inl rfl) rfl id
    | error fault => exact .openLink (.inr rfl) rfl fun _ => trivial
  | posting p link =>
    exact .post ⟨p.server.address, link, p.request, p.call⟩ rfl rfl rfl rfl id trivial
  | answering outcome =>
    exact .quiet rfl ⟨[], by simp, (List.append_nil _).symm⟩ (.inl rfl) rfl id
  | finished | crashed => exact .still (.inl rfl) rfl id

end Relay.Errand
end Dispatch

/-- Work that may put a message on a link. -/
inductive Task where
  | call (settings : PeerSettings) (o : Outgoing)
  | notice (settings : PeerSettings) (s : Sending)
  | relay (d : Dispatcher) (r : Relay) (e : Errand)

namespace Task

/-- Work that has not begun: a call, a notice, or a request that the dispatcher has no handler
for. -/
inductive Fresh : Task → Prop where
  | call (settings : PeerSettings) (address : SocketAddress) (ctx : CallContext)
      (protocol : ProtocolId) (argument : Json) (synchronous : Bool) :
      Fresh (.call settings ⟨address, ctx, protocol, argument, synchronous, .numbering⟩)
  | notice (settings : PeerSettings) (address : SocketAddress) (ctx : CallContext)
      (protocol : ProtocolId) (argument : Json) :
      Fresh (.notice settings ⟨address, .peerRequest 0 protocol ctx.identity none
        (settings.link.encode argument), none, .seeking⟩)
  | relay (d : Dispatcher) (r : Relay) (id : SessionId) (m : Message) (identity : Int64) :
      Fresh (.relay d r (.fresh r id m identity))

def serializers : Task → Serializers
  | call settings _ | notice settings _ => settings.serializers
  | relay _ r _ => r.settings.serializers

def holding : Task → Holding
  | call _ o => o.holding
  | notice _ s => s.holding
  | relay _ _ e => e.holding

/-- What is left to do. -/
def rest : Task → Activity World Unit
  | call settings o => (fun _ => ()) <$> o.rest settings
  | notice settings s => (fun _ => ()) <$> s.rest settings
  | relay d r e => (fun _ => ()) <$> e.rest d r

/-- The next step. `reason` is the outcome of the connection attempt, if it waits for one. -/
def work (t : Task) (reason : Option String) (w : World) : World × Task :=
  match t with
  | call settings o => ((o.work settings reason w).1, .call settings (o.work settings reason w).2)
  | notice settings s =>
    ((s.work settings reason w).1, .notice settings (s.work settings reason w).2)
  | relay d r e => ((e.work d r reason w).1, .relay d r (e.work d r reason w).2)

/-- The steps of a task are those of its activity. -/
theorem tick_rest (t : Task) (reason : Option String) (w : World) :
    t.rest.tick reason w = ((t.work reason w).1, (t.work reason w).2.rest) := by
  cases t with
  | call settings o => simp only [rest, work, Activity.tick_map, o.tick_rest]
  | notice settings s => simp only [rest, work, Activity.tick_map, s.tick_rest]
  | relay d r e => simp only [rest, work, Activity.tick_map, e.tick_rest]

theorem works (t : Task) (reason : Option String) (w : World) :
    Works t.serializers w t.holding (t.work reason w).1 (t.work reason w).2.holding := by
  cases t with
  | call settings o => exact o.works settings reason w
  | notice settings s => exact s.works settings reason w
  | relay d r e => exact e.works d r reason w

/-- Work that has not begun holds nothing that does not fit. -/
theorem holding_fresh {t : Task} (fresh : t.Fresh) : t.holding.number? = none ∧ t.holding.fits := by
  cases fresh with
  | call => exact ⟨rfl, trivial⟩
  | notice => exact ⟨rfl, rfl⟩
  | relay d r id m identity =>
    simp only [holding, Errand.fresh]
    cases r.declared.find? (·.protocol == m.protocol) <;> exact ⟨rfl, trivial⟩

end Task
end ClusterWire
