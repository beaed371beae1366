import ClusterWire.Proofs.Executor.Workshop
import ClusterWire.Proofs.Passage.Outbox

/-! A worker that relays a request. As long as the job of a request forwards it, what is left
of the job is what is left of an errand; a step of that puts on a link nothing, or the request
that was made up for the peer, and has then nothing more to put there. -/
namespace ClusterWire

open Dispatch (Relay)
open Dispatch.Relay (Errand)

/-- The message that a relayed request goes on as: it asks for the same protocol, on behalf of
the same identity, and its body is that of the request in the encoding of the link. -/
def Request.GoesAs (q : Request) (r : Relay) (m : Message) : Prop :=
  ∃ sequence s body, r.body s q.message = .ok body ∧
    m = Relay.request sequence q.context s q.message body

namespace Dispatch.Relay.Errand

variable (d : Dispatcher) (r : Relay)

/-- What the errand of a request has made up is what the request goes on as. -/
def Made (q : Request) : Stage → Prop
  | .entering _ s body => r.body s q.message = .ok body
  | .seeking p | .connecting p | .opening p _ | .posting p _ => q.GoesAs r p.request
  | _ => True

structure Serves (q : Request) (e : Errand) : Prop where
  message : e.message = q.message
  context : e.ctx = q.context
  made : Made r q e.stage

variable {r} {q : Request} {e : Errand}

theorem serves_fresh (own : q.context.sequence = q.message.sequence) :
    (fresh r q.session q.message q.context.identity).Serves r q where
  message := rfl
  context := congrArg (CallContext.mk q.context.identity) own.symm
  made := by
    unfold fresh
    cases r.declared.find? (·.protocol == q.message.protocol) <;> trivial

theorem made_enter (context : e.ctx = q.context) (message : e.message = q.message)
    (server : ServerInfo) {s : Session} {body : Bytes} (made : r.body s q.message = .ok body)
    (w : World) : q.GoesAs r (r.enter server e.session e.message e.ctx s body w).2.request := by
  rw [context, message]
  unfold enter
  split <;> exact ⟨_, s, body, made, rfl⟩

theorem ctx_work (reason : Option String) (w : World) : (e.work d r reason w).2.ctx = e.ctx := by
  unfold work
  cases e.stage <;> rfl

theorem made_work (serves : e.Serves r q) (reason : Option String) (w : World) :
    Made r q (e.work d r reason w).2.stage := by
  obtain ⟨message, context, made⟩ := serves
  obtain ⟨id, m, identity, stage⟩ := e
  cases stage with
  | choosing target =>
    simp only [work]
    cases (w.selectPeer target (r.selector _) _).2 with
    | ok server => trivial
    | error fault => cases fault <;> trivial
  | reading server =>
    simp only [work]
    cases w.sessions.session? id with
    | none => trivial
    | some s =>
      simp only [Stage.behindLook]
      cases body : r.body s m with
      | error fault => trivial
      | ok found => exact (congrArg (r.body s) message).symm.trans body
  | entering server s body => exact made_enter context message server made w
  | seeking p =>
    simp only [work]
    cases w.peers.openLink? p.server.address <;> exact made
  | connecting p => exact made
  | opening p reason =>
    simp only [work]
    cases (w.openLink p.server.address reason).2 with
    | ok link => exact made
    | error fault => trivial
  | posting | answering | finished | crashed => trivial

theorem serves_work (serves : e.Serves r q) (reason : Option String) (w : World) :
    (e.work d r reason w).2.Serves r q where
  message := (message_work d r e reason w).trans serves.message
  context := (ctx_work d reason w).trans serves.context
  made := made_work d serves reason w

/-- What an errand is about to post is what the request goes on as; then it only answers. -/
theorem posts (serves : e.Serves r q) {p : Post} (holds : e.holding.post? = some p) :
    q.GoesAs r p.message ∧ ∀ reason w, ∃ outcome,
      (e.work d r reason w).2.stage = .answering outcome := by
  obtain ⟨-, -, made⟩ := serves
  obtain ⟨id, m, identity, stage⟩ := e
  cases stage with
  | posting parcel link =>
    cases holds
    exact ⟨made, fun reason w => ⟨_, rfl⟩⟩
  | choosing | reading | entering | seeking | connecting | opening | answering | finished
  | crashed => cases holds

end Dispatch.Relay.Errand

namespace Duty

variable (d : Dispatcher) (r : Relay)

/-- The job puts nothing on a link any more by forwarding its request. -/
def Stage.Settled : Stage → Prop
  | .answering _ | .ended _ | .crashed _ => True
  | .consulting _ | .looking _ _ | .handling _ _ | .forwarding _ => False

theorem settled_work {e : Duty} (settled : e.stage.Settled) (reason : Option String) (w : World) :
    (e.work d reason w).2.stage.Settled := by
  obtain ⟨q, stage⟩ := e
  cases stage with
  | answering | ended | crashed => trivial
  | consulting | looking | handling | forwarding => cases settled

/-- A job that forwards its request does what an errand does. -/
def Relays (e : Duty) : Prop :=
  ∀ a, e.stage = .forwarding a → ∃ errand : Errand, errand.Serves r e.request ∧
    e.rest d = errand.rest d r

variable {d r} {q : Request}

theorem relays_of_not {e : Duty} (other : ∀ a, e.stage ≠ .forwarding a) : e.Relays d r :=
  fun a forwarding => absurd forwarding (other a)

theorem relays_consulted (relays : d.forward = r.forward)
    (own : q.context.sequence = q.message.sequence) (outcome : Activity.Status World Bool) :
    Relays d r ⟨q, q.consulted d outcome⟩ := by
  match outcome with
  | .pending a => exact relays_of_not (by simp [Request.consulted])
  | .ended (.error panic) => exact relays_of_not (by simp [Request.consulted])
  | .ended (.ok false) => exact relays_of_not (by simp [Request.consulted, Request.routed])
  | .ended (.ok true) =>
    simp only [Request.consulted, Request.routed]
    cases d.registry.handler? q.message.protocol with
    | some entry =>
      refine relays_of_not fun a => ?_
      dsimp only
      split <;> simp
    | none =>
      refine fun _ _ => ⟨_, Errand.serves_fresh own, ?_⟩
      have left := Errand.rest_fresh d r relays q.session q.message q.context.identity
      rw [left, ← own]
      exact (rest_forwarded d q (d.forward q.session q.message q.context)).symm

theorem not_forwarding_entered (descriptor : Descriptor) (handler : Handler World)
    (args : Option (Except CodecFault Arguments))
    (a : Activity.Pending World Dispatch.ForwardOutcome) :
    q.entered d descriptor handler args ≠ .forwarding a := by
  match args with
  | none | some (.error fault) => simp [Request.entered]
  | some (.ok args) =>
    simp only [Request.entered, Request.called]
    cases handler args with
    | crashes panic => simp
    | works work =>
      dsimp only
      split
      · cases work.status <;> simp [Request.handled]
      · simp

/-- The steps of a job that forwards its request are those of the errand. -/
theorem work_errand {e : Duty} {errand : Errand} (left : e.rest d = errand.rest d r)
    (reason : Option String) (w : World) :
    (e.work d reason w).1 = (errand.work d r reason w).1 ∧
    (e.work d reason w).2.rest d = (errand.work d r reason w).2.rest d r := by
  have steps := e.tick_rest d reason w
  rw [left, errand.tick_rest] at steps
  rw [Prod.mk.injEq] at steps
  exact ⟨steps.1.symm, steps.2.symm⟩

theorem relays_work (relays : d.forward = r.forward) {e : Duty}
    (own : e.request.context.sequence = e.request.message.sequence) (before : e.Relays d r)
    (reason : Option String) (w : World) : (e.work d reason w).2.Relays d r := by
  obtain ⟨q, stage⟩ := e
  cases stage with
  | consulting a => exact relays_consulted relays own _
  | looking descriptor handler =>
    exact relays_of_not fun a => not_forwarding_entered descriptor handler _ a
  | handling descriptor a =>
    refine relays_of_not fun b => ?_
    simp only [work]
    cases (a.1.tick reason w).2.status <;> simp [Request.handled]
  | forwarding a =>
    obtain ⟨errand, serves, left⟩ := before a rfl
    intro _ _
    rw [request_work]
    exact ⟨_, errand.serves_work d serves reason w, (work_errand left reason w).2⟩
  | answering | ended | crashed => exact relays_of_not (by simp [work])

/-- A job that still forwards its request is not about to answer only. -/
theorem rest_forwarding_ne (a : Activity.Pending World Dispatch.ForwardOutcome) {errand : Errand}
    {outcome : Dispatch.ForwardOutcome} (answers : errand.stage = .answering outcome) :
    rest d ⟨q, .forwarding a⟩ ≠ errand.rest d r := by
  obtain ⟨a, going⟩ := a
  intro same
  simp only [rest, Errand.rest, answers] at same
  cases a with
  | finish | crash => cases going
  | pause | connect => cases same
  | act change next =>
    obtain ⟨-, nexts⟩ := Activity.act.inj same
    have ends := congrFun nexts .empty
    cases left : next .empty with
    | finish outcome => rw [left] at ends; cases ends
    | crash | act | pause | connect => rw [left] at ends; cases ends

/-- A step of a job that forwards its request puts at most this request on a link, which settles
the job. -/
theorem work_forwarding {e : Duty} (relays : e.Relays d r)
    {a : Activity.Pending World Dispatch.ForwardOutcome} (forwarding : e.stage = .forwarding a)
    {w : World} {id : LinkId} {o : Outbox} (known : w.peers.outbox? id = some o)
    (reason : Option String) : ∃ new,
    (e.work d reason w).1.peers.outbox? id = some (o.adding new) ∧ (new = [] ∨
      ∃ m, new = [m] ∧ e.request.GoesAs r m ∧ (e.work d reason w).2.stage.Settled) := by
  obtain ⟨errand, serves, left⟩ := relays a forwarding
  obtain ⟨moved, behind⟩ := work_errand left reason w
  obtain ⟨new, added, one⟩ := (errand.works d r reason w).outbox? known
  rw [← moved] at added
  refine ⟨new, added, one.imp_right ?_⟩
  rintro ⟨p, posts, rfl⟩
  obtain ⟨goes, answers⟩ := Errand.posts d serves posts
  obtain ⟨outcome, answers⟩ := answers reason w
  refine ⟨_, rfl, goes, ?_⟩
  obtain ⟨q, stage⟩ := e
  cases forwarding
  simp only [work] at behind ⊢
  cases status : (a.1.tick reason w).2.status with
  | ended result => cases result <;> trivial
  | pending b =>
    rw [status] at behind
    exact absurd behind (rest_forwarding_ne b answers)

end Duty

namespace Workshop

variable {d : Dispatcher} {r : Relay} {size : Nat} {s : Workshop}

/-- A job at a gateway, and the request that it is for. -/
def Relaying (d : Dispatcher) (r : Relay) (origin : Duty) (_ : List Deed) (now : Duty) : Prop :=
  now.request = origin.request ∧
  origin.request.context.sequence = origin.request.message.sequence ∧ now.Relays d r

theorem keeps_relaying (relays : d.forward = r.forward) {move : Move}
    {event : Shift.Event Duty Deed} (happens : s.Happens d move event) :
    s.shift.Keeps (Relaying d r) event := by
  cases happens with
  | dispatch job =>
    obtain ⟨session, rfl⟩ := Dispatcher.duty?_eq_some job
    exact ⟨rfl, rfl, Duty.relays_consulted relays rfl _⟩
  | start | finish => exact trivial
  | @work w t reason running =>
    intro u runs origin before kept
    cases running.symm.trans runs
    obtain ⟨same, own, before⟩ := kept
    refine ⟨(Duty.request_work d t.job reason s.world).trans same, own, ?_⟩
    exact Duty.relays_work relays (same ▸ own) before reason s.world

theorem relaying_of_run (relays : d.forward = r.forward) (run : Run d size s) :
    Shift.Holds (Relaying d r) s.shift := by
  induction run with
  | start world => exact .start
  | @step s move before holds =>
    simp only [step]
    cases known : s.event? d move with
    | none => exact holds
    | some event =>
      exact holds.step (sound_of_run before).orderly
        (keeps_relaying relays (happens_of_event known))

end Workshop
end ClusterWire
