import ClusterWire.Dispatch
import ClusterWire.Proofs.Activity

/-! How far a relayed request has come. Between two steps of its activity anything else
may happen: what the activity has found out so far is all that it goes on with. -/
namespace ClusterWire

namespace Ident.Layout

/-- The tag of the worker or the sequence number takes more than the 64 bits there are. -/
def Wide (l : Layout) : Prop := 64 ≤ l.workerBits.toNat ∨ 64 ≤ l.sequenceBits.toNat

theorem wide_of_workerOf {l : Layout} {id : Int64} {fault : Overflow}
    (failed : l.workerOf id = .error fault) :
    l.Wide := by
  apply Classical.byContradiction
  intro narrow
  unfold Wide at narrow
  have worker : l.workerBits.toNat < 64 := by omega
  have sequence : l.sequenceBits.toNat < 64 := by omega
  simp [workerOf, shiftRight, maxWorker, fieldMask, shiftLeft, worker, sequence, bind, Except.bind,
    Except.map, pure, Except.pure] at failed

end Ident.Layout

namespace Dispatch.Relay

/-- What a relayed request is about to do, with what it has found out. -/
inductive Stage where
  | choosing (target : ServerType)
  | reading (server : ServerInfo)
  | entering (server : ServerInfo) (s : Session) (body : Bytes)
  | seeking (p : Parcel)
  | connecting (p : Parcel)
  | opening (p : Parcel) (reason : Option String)
  | posting (p : Parcel) (link : LinkId)
  | answering (outcome : ForwardOutcome)
  | finished
  | crashed (panic : Panic)

namespace Stage

/-- The parcel that is on its way to a link. -/
def parcel? : Stage → Option Parcel
  | seeking p | connecting p | opening p _ | posting p _ => some p
  | _ => none

def behindChoice : Except SelectFault ServerInfo → Stage
  | .error (.cluster fault) => .answering (.failed (.cluster fault))
  | .error (.overflow fault) => .crashed (.text fault.message)
  | .ok server => .reading server

def behindLook (r : Relay) (server : ServerInfo) (m : Message) : Option Session → Stage
  | none => .answering .dropped
  | some s =>
    match r.body s m with
    | .error fault => .answering (.failed (.codec fault))
    | .ok body => .entering server s body

def behindSearch (p : Parcel) : Option LinkId → Stage
  | some link => .posting p link
  | none => .connecting p

def behindOpening (p : Parcel) : Except RpcFault LinkId → Stage
  | .ok link => .posting p link
  | .error fault => .answering (.failed fault)

end Stage

/-- A request that a dispatcher relays: its session, the identity it runs for, and how far
it has come. -/
structure Errand where
  session : SessionId
  message : Message
  identity : Int64
  stage : Stage

namespace Errand

variable (d : Dispatcher) (r : Relay)

def ctx (e : Errand) : CallContext := ⟨e.identity, e.message.sequence⟩

/-- The last thing that is done with a request. -/
def report (e : Errand) (outcome : ForwardOutcome) : Activity World (Aside World) := do
  d.answer e.session e.ctx (outcome.reply e.message.protocol)
  return none

/-- What is left to do. -/
def rest (e : Errand) : Activity World (Aside World) :=
  match e.stage with
  | .choosing target => do e.report d (← r.relay target e.session e.message e.ctx)
  | .reading server => do e.report d (← r.relayTo server e.session e.message e.ctx)
  | .entering server s body => do
    e.report d (← r.hand (← Activity.update (r.enter server e.session e.message e.ctx s body)))
  | .seeking p => do e.report d (← r.hand p)
  | .connecting p => .connect p.server.address fun reason => do
    e.report d (handed p (← Peer.sendOver r.settings p.server.address p.request p.call reason))
  | .opening p reason => do
    e.report d (handed p (← Peer.sendOver r.settings p.server.address p.request p.call reason))
  | .posting p link => do
    e.report d (handed p
      (← Activity.update (World.post r.settings p.server.address link p.request p.call)))
  | .answering outcome => e.report d outcome
  | .finished => .finish none
  | .crashed panic => .crash panic

def fresh (id : SessionId) (m : Message) (identity : Int64) : Errand where
  session := id
  message := m
  identity := identity
  stage := match r.declared.find? (·.protocol == m.protocol) with
    | none => .answering .unsupported
    | some descriptor => .choosing descriptor.target

/-- The next step of a request: the world behind it, and what the request is about to do
then. `reason` is the outcome of the connection attempt, if it waits for one. -/
def work (e : Errand) (reason : Option String) (w : World) : World × Errand :=
  match e.stage with
  | .choosing target =>
    let (w, choice) := w.selectPeer target (r.selector e.ctx) e.ctx
    (w, { e with stage := .behindChoice choice })
  | .reading server =>
    (w, { e with stage := .behindLook r server e.message (w.sessions.session? e.session) })
  | .entering server s body =>
    let (w, p) := r.enter server e.session e.message e.ctx s body w
    (w, { e with stage := .seeking p })
  | .seeking p =>
    (w, { e with stage := .behindSearch p (w.peers.openLink? p.server.address) })
  | .connecting p => (w, { e with stage := .opening p reason })
  | .opening p reason =>
    let (w, found) := w.openLink p.server.address reason
    (w, { e with stage := .behindOpening p found })
  | .posting p link =>
    let (w, result) := w.post r.settings p.server.address link p.request p.call
    (w, { e with stage := .answering (handed p result) })
  | .answering outcome =>
    (w.withSessions (Reply.deliver d.serializers e.session e.ctx
      (outcome.reply e.message.protocol) w.sessions), { e with stage := .finished })
  | .finished | .crashed _ => (w, e)

/-- A request that has just come in is all of what the dispatcher does with requests that
have no handler. -/
theorem rest_fresh (relays : d.forward = r.forward) (id : SessionId) (m : Message)
    (identity : Int64) :
    (fresh r id m identity).rest d r = d.routeUnbound id m ⟨identity, m.sequence⟩ := by
  unfold Dispatcher.routeUnbound
  rw [relays]
  unfold Relay.forward
  cases found : r.declared.find? (·.protocol == m.protocol) with
  | none => simp only [fresh, found]; rfl
  | some descriptor => simp only [fresh, found]; rfl

theorem rest_behindChoice (e : Errand) (choice : Except SelectFault ServerInfo) :
    (r.chosen e.session e.message e.ctx choice).bind (e.report d) =
      ({ e with stage := .behindChoice choice } : Errand).rest d r := by
  cases choice with
  | ok server => rfl
  | error fault => cases fault <;> rfl

theorem rest_behindLook (e : Errand) (server : ServerInfo) (s : Option Session) :
    (r.relayFor server e.session e.message e.ctx s).bind (e.report d) =
      ({ e with stage := .behindLook r server e.message s } : Errand).rest d r := by
  cases s with
  | none => rfl
  | some s =>
    simp only [relayFor, Stage.behindLook]
    cases r.body s e.message <;> rfl

theorem rest_behindSearch (e : Errand) (p : Parcel) (link : Option LinkId) :
    (Peer.sendBy r.settings p.server.address p.request p.call link).bind
        (fun result => e.report d (handed p result)) =
      ({ e with stage := .behindSearch p link } : Errand).rest d r := by
  cases link <;> rfl

theorem rest_behindOpening (e : Errand) (p : Parcel) (found : Except RpcFault LinkId) :
    (Peer.sendOn r.settings p.server.address p.request p.call found).bind
        (fun result => e.report d (handed p result)) =
      ({ e with stage := .behindOpening p found } : Errand).rest d r := by
  cases found <;> rfl

/-- The steps of a request are those of its activity. -/
theorem tick_rest (e : Errand) (reason : Option String) (w : World) :
    (e.rest d r).tick reason w = ((e.work d r reason w).1, (e.work d r reason w).2.rest d r) := by
  obtain ⟨id, m, identity, stage⟩ := e
  cases stage with
  | choosing target => exact Prod.ext rfl (rest_behindChoice d r _ _)
  | reading server => exact Prod.ext rfl (rest_behindLook d r ⟨id, m, identity, _⟩ server _)
  | seeking p =>
    refine Prod.ext rfl ?_
    have found := rest_behindSearch d r ⟨id, m, identity, .seeking p⟩ p
      (w.peers.openLink? p.server.address)
    rw [work, ← found]
    change (Activity.bind (Activity.bind _ _) _) = _
    rw [Activity.bind_assoc]
    rfl
  | opening p reason => exact Prod.ext rfl (rest_behindOpening d r ⟨id, m, identity, _⟩ p _)
  | entering | connecting | posting | answering | finished | crashed => rfl

/-- The activity of a request has ended only if the request is over. -/
theorem finished_of_rest {e : Errand} (done : e.rest d r = .finish none) : e.stage = .finished := by
  obtain ⟨id, m, identity, stage⟩ := e
  cases stage with
  | finished => rfl
  | crashed panic => cases done
  | choosing | reading | entering | seeking | connecting | opening | posting | answering =>
    cases congrArg Activity.isOver done

theorem crashed_of_rest {e : Errand} {panic : Panic} (crashed : e.rest d r = .crash panic) :
    e.stage = .crashed panic := by
  obtain ⟨id, m, identity, stage⟩ := e
  cases stage with
  | finished => cases crashed
  | crashed reason =>
    cases crashed
    rfl
  | choosing | reading | entering | seeking | connecting | opening | posting | answering =>
    cases congrArg Activity.isOver crashed

end Errand

/-! Choosing a server crashes on layouts that do not fit into 64 bits, and only there. -/

theorem wide_of_select {s : Selector} {c : Cluster} {ctx : CallContext} {fault : Ident.Overflow}
    (failed : s.select c ctx = .error (.overflow fault)) :
    ∃ l, s = .shard l ∧ l.Wide := by
  have found : ∀ (server : Option ServerInfo) (other : ClusterFault),
      Selector.orElse server other ≠ .error (.overflow fault) := by
    intro server other same
    cases server <;> cases same
  cases s with
  | hash | leastLoaded | explicit id => exact absurd failed (found _ _)
  | shard l =>
    refine ⟨l, rfl, ?_⟩
    simp only [Selector.select] at failed
    split at failed
    · split at failed
      · rename_i overflow chosen
        exact Ident.Layout.wide_of_workerOf chosen
      · exact absurd failed (found _ _)
    · cases failed

theorem wide_of_crash (r : Relay) {w : World} {target : ServerType} {ctx : CallContext}
    {panic : Panic}
    (crashed : Stage.behindChoice (w.selectPeer target (r.selector ctx) ctx).2 = .crashed panic) :
    ∃ l, r.shards = some l ∧ l.Wide := by
  have overflow : ∃ fault c, (r.selector ctx).select c ctx = .error (.overflow fault) := by
    unfold World.selectPeer at crashed
    split at crashed
    · cases crashed
    · rename_i c found
      cases choice : (r.selector ctx).select c ctx with
      | ok server => simp [choice, Stage.behindChoice] at crashed
      | error fault =>
        cases fault with
        | cluster fault => simp [choice, Stage.behindChoice] at crashed
        | overflow fault => exact ⟨fault, c, choice⟩
  obtain ⟨fault, c, failed⟩ := overflow
  obtain ⟨l, shard, wide⟩ := wide_of_select failed
  refine ⟨l, ?_, wide⟩
  unfold selector at shard
  split at shard
  · split at shard
    · rename_i layout shards known
      cases shard
      exact shards
    · cases shard
  · cases shard

end Dispatch.Relay
end ClusterWire
