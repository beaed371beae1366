import ClusterWire.Proofs.Invocation.Series
import ClusterWire.Proofs.Relay.Stages

/-! A gateway at work. Its requests, its links, the reaper and everything else take turns
in any order. Beside the state of the program a gateway keeps a record: which request
entered its call last under a number, and which frames went out for which request. -/
namespace ClusterWire

/-- The frame of an answer that is offered to a session, if there is one. -/
def Reply.offered? (serializers : Serializers) (id : SessionId) (ctx : CallContext)
    (r : Option Reply) (t : Sessions) : Option Message := do
  let s ← t.session? id
  if ctx.expectsResponse then (← r).frame? serializers s ctx.sequence else none

theorem Reply.deliver_eq (serializers : Serializers) (id : SessionId) (ctx : CallContext)
    (r : Option Reply) (t : Sessions) :
    deliver serializers id ctx r t =
      match offered? serializers id ctx r t with
      | some m => (t.send id m).1
      | none => t := by
  unfold deliver offered?
  cases r with
  | none => cases t.session? id <;> simp
  | some r =>
    cases t.session? id with
    | none => rfl
    | some s =>
      cases ctx.expectsResponse with
      | false => rfl
      | true => cases told : r.frame? serializers s ctx.sequence <;> simp [told]

/-- The desk once a frame is offered to a session. -/
def Desk.offer (d : Desk) (id : SessionId) : Option Message → Desk
  | some m => { d with sessions := (d.sessions.send id m).1 }
  | none => d

def Ending.frame? : Ending → Option Message
  | sent _ m => some m
  | _ => none

namespace Dispatch.Relay

namespace Errand

variable (d : Dispatcher) (r : Relay)

/-- What the next step does to the table of calls. -/
def callEvents (e : Errand) (w : World) : List CallEvent :=
  match e.stage with
  | .entering _ _ _ => if e.ctx.expectsResponse then [.next] else []
  | .posting p link => w.board.postEvents link p.call
  | _ => []

/-- The number under which the next step enters a call. -/
def entered? (e : Errand) : Option Int64 :=
  match e.stage with
  | .posting p _ => p.call.map (·.sequence)
  | _ => none

/-- The frame that the dispatcher itself answers with in the next step. -/
def answer? (e : Errand) (w : World) : Option Message :=
  match e.stage with
  | .answering outcome =>
    Reply.offered? d.serializers e.session e.ctx (outcome.reply e.message.protocol) w.sessions
  | _ => none

@[simp] theorem session_work (e : Errand) (reason : Option String) (w : World) :
    (e.work d r reason w).2.session = e.session := by
  unfold work
  cases e.stage <;> rfl

@[simp] theorem message_work (e : Errand) (reason : Option String) (w : World) :
    (e.work d r reason w).2.message = e.message := by
  unfold work
  cases e.stage <;> rfl

theorem desk_selectPeer (w : World) (target : ServerType) (selector : Selector)
    (ctx : CallContext) : (w.selectPeer target selector ctx).1.board.desk = w.board.desk := by
  unfold World.selectPeer
  split
  · rfl
  · split <;> rfl

theorem desk_openLink (w : World) (address : SocketAddress) (reason : Option String) :
    (w.openLink address reason).1.board.desk = w.board.desk := by
  unfold World.openLink
  split <;> rfl

/-- A step of a request changes the table of calls by its events, and the sessions by
their ends and its answer. -/
theorem desk_work (e : Errand) (reason : Option String) (w : World) :
    (e.work d r reason w).1.board.desk =
      (w.board.desk.steps r.settings.serializers (e.callEvents w)).offer e.session
        (e.answer? d w) := by
  obtain ⟨id, m, identity, stage⟩ := e
  cases stage with
  | choosing target => exact desk_selectPeer w target _ _
  | entering server s body =>
    simp only [work, enter, callEvents, answer?, Desk.offer]
    split <;> rfl
  | opening p reason => exact desk_openLink w p.server.address reason
  | posting p link => exact w.board.desk_enqueue r.settings.serializers p.server.address link _ p.call
  | answering outcome =>
    simp only [work, callEvents, answer?, Reply.deliver_eq]
    cases Reply.offered? d.serializers id _ (outcome.reply m.protocol) w.sessions <;> rfl
  | reading | seeking | connecting | finished | crashed => rfl

end Errand

structure Gateway where
  world : World
  errands : List Errand := []
  behind : Int64 → Option Nat := fun _ => none
  told : List (Nat × Message) := []

/-- What may happen next: a request that has no handler comes in, a request takes a step, a
link does, the reaper looks at the deadlines, a client drops its link, or something else. -/
inductive Move where
  | arrive (id : SessionId) (m : Message) (identity : Int64)
  | work (k : Nat) (reason : Option String)
  | link (id : LinkId) (event : LinkEvent)
  | reap (now : Instant)
  | close (address : SocketAddress)
  | elsewhere (w : World)

namespace Gateway

variable (d : Dispatcher) (r : Relay)

/-- The frames of calls that end, each for the request that entered the call. -/
def credit (g : Gateway) (ended : List Ended) : List (Nat × Message) :=
  ended.filterMap fun x => do return (← g.behind x.call.sequence, ← x.ending.frame?)

def ends (g : Gateway) (events : List CallEvent) : List Ended :=
  g.world.board.desk.endsAll r.settings.serializers events

def step (g : Gateway) : Move → Gateway
  | .arrive id m identity => { g with errands := g.errands ++ [.fresh r id m identity] }
  | .work k reason =>
    match g.errands[k]? with
    | none => g
    | some e =>
      { world := (e.work d r reason g.world).1
        errands := g.errands.set k (e.work d r reason g.world).2
        behind := fun n => if e.entered? = some n then some k else g.behind n
        told := g.told ++ g.credit (g.ends r (e.callEvents g.world)) ++
          (e.answer? d g.world).toList.map (k, ·) }
  | .link id event =>
    { g with
      world := { g.world with
        board := g.world.board.step r.settings.serializers r.settings.link id event }
      told := g.told ++ g.credit (g.ends r (g.world.board.callEvents r.settings.link id event)) }
  | .reap now =>
    { g with
      world := g.world.withDesk (g.world.board.desk.evict r.settings.serializers now).1
      told := g.told ++ g.credit (g.ends r [.evict now]) }
  | .close address => { g with world := g.world.withPeers (g.world.peers.detach address) }
  | .elsewhere w => { g with world := w }

def owns (g : Gateway) (k : Nat) (i : Invocation) : Bool :=
  i.isForward && g.behind i.sequence == some k

/-- The calls that are out for a request. -/
def callsOf (g : Gateway) (k : Nat) : List Invocation := g.world.calls.pending.filter (g.owns k)

def framesFor (k : Nat) (told : List (Nat × Message)) : List Message :=
  (told.filter (·.1 == k)).map (·.2)

/-- The frames that went out for a request. -/
def framesOf (g : Gateway) (k : Nat) : List Message := framesFor k g.told

/-- The requests of a session. -/
def isOf (g : Gateway) (id : SessionId) (k : Nat) : Bool :=
  g.errands[k]?.any (·.session == id)

/-- The frames for the requests of a session. -/
def framesTo (g : Gateway) (id : SessionId) (told : List (Nat × Message)) : List Message :=
  (told.filter fun x => g.isOf id x.1).map (·.2)

/-- A client that is served all along: its session is open, and frames for it can be
encoded. -/
def Serves (id : SessionId) (w : World) : Prop :=
  w.sessions.Open d.serializers id ∧ w.sessions.Open r.settings.serializers id

/-- What happens elsewhere leaves the client's session open and the calls that are relayed
alone. Calls of the server's own come and go, under other numbers. -/
def Admits (id : SessionId) (g : Gateway) : Move → Prop
  | .elsewhere w => Serves d r id w ∧ w.calls.Unique ∧
      w.calls.pending.filter (·.isForward) = g.world.calls.pending.filter (·.isForward)
  | _ => True

/-- Whatever may happen to a gateway while a client is served, from a moment on at which
nothing was out for it. -/
inductive Run (id : SessionId) : Gateway → Prop where
  | start {w : World} (served : Serves d r id w) (unique : w.calls.Unique)
      (none : ∀ i ∈ w.calls.pending, i.completion ≠ .forward id) : Run id { world := w }
  | step {g : Gateway} (move : Move) : Run id g → g.Admits d r id move → Run id (g.step d r move)

end Gateway
end Dispatch.Relay
end ClusterWire
