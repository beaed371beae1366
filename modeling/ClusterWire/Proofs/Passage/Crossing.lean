import ClusterWire.Proofs.Connection.Provenance
import ClusterWire.Proofs.Executor.Arrival
import ClusterWire.Proofs.Passage.Relaying

/-! A gateway and a backend over the lifetime of a link between them. The workers of both, the
task of the link, the network and the connection at the backend take turns in any order, and so
does everything else on either server. -/
namespace ClusterWire

open Dispatch (Relay)

/-- The gateway relays what it has no handler for, and the backend runs requests between servers
for the caller that they name. -/
structure Route where
  gateway : Dispatcher
  relay : Relay
  relays : gateway.forward = relay.forward
  link : LinkId
  backend : Dispatcher
  callers : ∀ s m, m.family = .internal → backend.extract s m = m.caller

/-- The serializer that a session speaks. -/
def Sessions.type? (t : Sessions) (id : SessionId) : Option UInt8 :=
  (t.session? id).map (·.serializeType)

/-- More may come in. -/
def Inbox.isOpen : Inbox → Bool
  | .stream _ ended => !ended
  | .messages _ => false

/-- The two servers, the bytes between them, and the connection that the backend reads from.
Beside this a record is kept: of all that was queued on the link, with the number of the job that
relayed it; of what was begun to be written, and what was read; and of the requests that became
jobs of the backend, with their numbers there. -/
structure Crossing where
  gate : Workshop
  back : Workshop
  reader : Connection
  wire : Bytes := []
  taken : List (Option Nat × Message) := []
  begun : List Message := []
  read : List Message := []
  landed : List (Message × Nat) := []

namespace Workshop

/-- The job that relays its request in a move. -/
def author? (s : Workshop) : Move → Option Nat
  | .work w _ =>
    match s.shift.pool.running? w with
    | some ⟨n, ⟨_, .forwarding _⟩⟩ => some n
    | _ => none
  | _ => none

end Workshop

namespace Frame

/-- What goes out of a frame; without success it is the first bytes, or none. -/
def sent (m : Message) (succeeds : Bool) (torn : Nat) : Bytes :=
  match encode m with
  | .ok frame => if succeeds then frame else frame.take torn
  | .error _ => []

end Frame

namespace Crossing

inductive Move where
  /-- Workers of the gateway, requests that come in there, and all else but the link's task. -/
  | gateway (move : Workshop.Move)
  | link (event : LinkEvent) (torn : Nat)
  | deliver (count : Nat)
  | hangUp
  | reader (event : Connection.Event)
  /-- Workers of the backend, requests of its other sessions, and all else there. -/
  | backend (move : Workshop.Move)

variable (x : Route) (c : Crossing)

def outbox? : Option Outbox := c.gate.world.peers.outbox? x.link

def waiting : List Message := ((c.outbox? x).map (·.queue)).getD []

/-- A move of the gateway, with what it queues on the link. -/
def afterGateway (move : Workshop.Move) : Crossing :=
  let after := { c with gate := c.gate.step x.gateway move }
  let new := (after.waiting x).drop (c.waiting x).length
  { after with taken := c.taken ++ new.map (c.gate.author? move, ·) }

/-- What a step of the link's task puts on the wire, and whether it gets through. -/
def puts? (event : LinkEvent) : Option (Message × Bool) := (c.outbox? x).bind (·.puts? event)

def bytes (event : LinkEvent) (torn : Nat) : Bytes :=
  match c.puts? x event with
  | some (m, succeeds) => Frame.sent m succeeds torn
  | none => []

/-- A step of the link's task, with the bytes that it puts on the wire. -/
def afterLink (event : LinkEvent) (torn : Nat) : Crossing :=
  let world := c.gate.world
  let board := world.board.step x.relay.settings.serializers x.relay.settings.link x.link event
  let bytes := c.bytes x event torn
  { c with
    gate := c.gate.step x.gateway (.elsewhere { world with board := board })
    wire := c.wire ++ bytes
    begun := c.begun ++ if bytes.isEmpty then [] else (c.puts? x event).toList.map (·.1) }

/-- The next bytes of the wire arrive, unless the backend has found its end already. -/
def afterDelivery (count : Nat) : Crossing :=
  let bytes := if c.reader.inbox.isOpen then c.wire.take count else []
  { c with
    reader := { c.reader with inbox := c.reader.inbox.feed bytes }
    wire := c.wire.drop bytes.length }

/-- The message that a step of the connection reads. -/
def message? (event : Connection.Event) : Option Message :=
  match event, c.reader.leaving, c.reader.inbox.next c.reader.limit c.reader.remote with
  | .read, none, .message m _ => some m
  | _, _, _ => none

/-- A step of the connection at the backend, with the request that it hands over. -/
def afterReader (event : Connection.Event) : Crossing :=
  let (sessions, reader, _) := c.reader.step x.backend c.back.world.sessions event
  let back := c.back.step x.backend (.elsewhere (c.back.world.withSessions sessions))
  let lands (m : Message) : Bool := (x.backend.duty? sessions c.reader.session m).isSome
  { c with
    reader := reader
    back := match c.message? event with
      | some m => back.step x.backend (.dispatch c.reader.session m)
      | none => back
    read := c.read ++ (c.message? event).toList
    landed := c.landed ++
      ((c.message? event).filter lands).toList.map (·, c.back.shift.dealt.length) }

def step : Move → Crossing
  | .gateway move => c.afterGateway x move
  | .link event torn => c.afterLink x event torn
  | .deliver count => c.afterDelivery count
  | .hangUp => { c with reader := { c.reader with inbox := c.reader.inbox.finish } }
  | .reader event => c.afterReader x event
  | .backend move => { c with back := c.back.step x.backend move }

/-- The serializer of the backend's session of the link. -/
def type? : Option UInt8 := c.back.world.sessions.type? c.reader.session

/-- What can come next. Whatever else goes on at the gateway may queue messages on the link, but
only its task takes them off or closes it; what is written has a frame; and at the backend only
the connection hands over messages of its session, which keeps its serializer. -/
def Admits : Move → Prop
  | .gateway move => c.gate.author? move = none → ∀ o, c.outbox? x = some o → ∃ new,
    (c.gate.step x.gateway move).world.peers.outbox? x.link = some (o.adding new)
  | .link event _ => ∀ m, c.puts? x event = some (m, true) → Frame.Fits m
  | .backend move => (∀ m, move ≠ .dispatch c.reader.session m) ∧
    ({ c with back := c.back.step x.backend move } : Crossing).type? = c.type?
  | .deliver _ | .hangUp | .reader _ => True

/-- The link has just been opened, and the backend has accepted it as a connection of its own. -/
structure Opening (size width : Nat) (c : Crossing) : Prop where
  gate : Workshop.Run x.gateway size c.gate
  back : Workshop.Run x.backend width c.back
  link : c.outbox? x = some {}
  accepted : ∃ events t remote limit type family, Sessions.Run events t ∧
    Connection.open? t remote limit type (.binary family) = some (c.back.world.sessions, c.reader)
  unused : ∀ n q, c.back.request? n = some q → q.session ≠ c.reader.session
  wire : c.wire = []
  record : c.taken = [] ∧ c.begun = [] ∧ c.read = [] ∧ c.landed = []

inductive Run (size width : Nat) : Crossing → Prop where
  | start {c : Crossing} (opening : c.Opening x size width) : Run size width c
  | step {c : Crossing} (move : Move) (run : Run size width c) (admits : c.Admits x move) :
      Run size width (c.step x move)

variable {x} {c} {size width : Nat}

/-! Each side is a workshop of its own, for which all else goes on elsewhere. -/

/-- The connection that was accepted is new, and so is its session. -/
theorem Opening.reader_eq (opening : c.Opening x size width) :
    ∃ t remote limit family type, (∃ events, Sessions.Run events t) ∧
      c.back.world.sessions = (t.create remote family type).1 ∧
      c.reader = { remote := remote, limit := limit, inbox := .stream [] false
                   writer := { session := t.newcomer } } := by
  obtain ⟨events, t, remote, limit, type, family, run, accepted⟩ := opening.accepted
  simp only [Connection.open?, Connection.framing?, Option.map_some, Option.some.injEq,
    Prod.mk.injEq] at accepted
  exact ⟨t, remote, limit, family, type, ⟨events, run⟩, accepted.1.symm, accepted.2.symm⟩

theorem gate_of_run (run : Run x size width c) : Workshop.Run x.gateway size c.gate := by
  induction run with
  | start opening => exact opening.gate
  | step move _ _ ih =>
    cases move with
    | gateway move => exact .step move ih
    | link event torn => exact .step (.elsewhere _) ih
    | deliver | hangUp | reader | backend => exact ih

theorem back_of_run (run : Run x size width c) : Workshop.Run x.backend width c.back := by
  induction run with
  | start opening => exact opening.back
  | @step c move _ _ ih =>
    cases move with
    | reader event =>
      simp only [step, afterReader]
      cases c.message? event with
      | none => exact .step (.elsewhere _) ih
      | some m => exact .step (.dispatch _ m) (.step (.elsewhere _) ih)
    | backend move => exact .step move ih
    | gateway | link | deliver | hangUp => exact ih

/-- A step of the connection reads a message and hands it over, or it leaves alone what has come
in and hands over nothing. -/
theorem reader_cases (d : Dispatcher) (event : Connection.Event) (t : Sessions) :
    (∃ m left, c.message? event = some m ∧
      c.reader.inbox.next c.reader.limit c.reader.remote = .message m left ∧
      c.reader.step d t event = ((d.receive t c.reader.session m).1,
        { c.reader with inbox := left }, (d.receive t c.reader.session m).2)) ∨
    (c.message? event = none ∧ (c.reader.step d t event).2.2 = none ∧
      (c.reader.step d t event).2.1.inbox = c.reader.inbox) := by
  unfold message? Connection.step
  cases c.reader.leaving with
  | some _ => cases event <;> exact .inr ⟨rfl, rfl, rfl⟩
  | none =>
    cases event with
    | write | idle | shutdown => exact .inr ⟨rfl, rfl, rfl⟩
    | closed =>
      refine .inr ⟨rfl, ?_⟩
      dsimp only
      split <;> exact ⟨rfl, rfl⟩
    | read =>
      simp only [Connection.read]
      cases next : c.reader.inbox.next c.reader.limit c.reader.remote with
      | message m left => exact .inl ⟨m, left, rfl, rfl, rfl⟩
      | nothing | ended | overrun => exact .inr ⟨rfl, rfl, rfl⟩

theorem job_receive (d : Dispatcher) (t : Sessions) (id : SessionId) (m : Message) :
    (d.receive t id m).2 = d.dispatch t id m := by
  unfold Dispatcher.receive Dispatcher.dispatch
  cases m.kind <;> cases t.session? id <;> rfl

/-- The job that the connection hands over is that of the request that it reads, which is what
the pool of the backend is given. -/
theorem handed_over (event : Connection.Event) (t : Sessions) :
    (c.reader.step x.backend t event).2.2 =
      (c.message? event).bind fun m => x.backend.dispatch t c.reader.session m := by
  rcases c.reader_cases x.backend event t with ⟨m, left, read, -, same⟩ | ⟨read, none, -⟩
  · rw [same, read]
    exact job_receive ..
  · rw [read, none]
    rfl

end Crossing
end ClusterWire
