import ClusterWire.Proofs.Relay.Gateway

/-! How far the job of a request has come, and what it does on the way: it consults the hook,
calls the handler that is bound for the request, works on with a synchronous one, or forwards
the request, and answers. -/
namespace ClusterWire

theorem Reply.header_of_offered {serializers : Serializers} {id : SessionId} {ctx : CallContext}
    {r : Option Reply} {t : Sessions} {frame : Message}
    (offered : offered? serializers id ctx r t = some frame) :
    frame.kind = .response ∧ frame.sequence = ctx.sequence := by
  simp only [offered?, Option.bind_eq_bind, Option.bind_eq_some_iff] at offered
  obtain ⟨s, -, offered⟩ := offered
  split at offered
  · obtain ⟨reply, -, framed⟩ := Option.bind_eq_some_iff.mp offered
    obtain ⟨serializer, -, rfl⟩ := Option.map_eq_some_iff.mp framed
    cases reply <;> exact ⟨rfl, rfl⟩
  · cases offered

/-- A request as it was dispatched. -/
structure Request where
  session : SessionId
  message : Message
  context : CallContext

/-- What is seen of a job: the call of its handler, the handler's work, and the answer. -/
inductive Deed where
  | called (descriptor : Descriptor) (args : Arguments)
  | worked
  | told (frame : Message)

namespace Duty

open Activity (Pending Status)

inductive Stage where
  | consulting (a : Pending World Bool)
  | looking (descriptor : Descriptor) (handler : Handler World)
  | handling (descriptor : Descriptor) (a : Pending World (Except HandlerFault Json))
  | forwarding (a : Pending World Dispatch.ForwardOutcome)
  | answering (r : Option Reply)
  | ended (aside : Aside World)
  | crashed (panic : Panic)

end Duty

structure Duty where
  request : Request
  stage : Duty.Stage

namespace Request

open Activity (Status)
open Duty (Stage)

variable (d : Dispatcher) (q : Request)

def forwarded : Status World Dispatch.ForwardOutcome → Stage
  | .ended (.ok outcome) => .answering (outcome.reply q.message.protocol)
  | .ended (.error panic) => .crashed panic
  | .pending a => .forwarding a

def handled (descriptor : Descriptor) : Status World (Except HandlerFault Json) → Stage
  | .ended outcome => .answering (Reply.ofOutcome true descriptor.protocol outcome)
  | .pending a => .handling descriptor a

def called (descriptor : Descriptor) : Call World → Stage
  | .crashes panic => .answering (Reply.ofOutcome true descriptor.protocol (.error panic))
  | .works work =>
    if descriptor.isSynchronous then handled descriptor work.status
    else .ended (some (d.respond q.session q.context descriptor.protocol false work))

/-- What the handler is called with, if it is. -/
def arguments (descriptor : Descriptor) (w : World) : Option (Except CodecFault Arguments) :=
  (w.sessions.session? q.session).map fun s =>
    Dispatch.bindArguments d.serializers descriptor s q.message q.context

def entered (descriptor : Descriptor) (handler : Handler World) :
    Option (Except CodecFault Arguments) → Stage
  | none => .ended none
  | some (.ok args) => q.called d descriptor (handler args)
  | some (.error fault) =>
    .answering (some (.error .badRequest s!"malformed request body: {fault.message}"))

def routed : Bool → Stage
  | false => .ended none
  | true =>
    match d.registry.handler? q.message.protocol with
    | some (descriptor, handler) =>
      if descriptor.requiresIdentity && !q.context.hasIdentity then
        .answering (some (.error .noIdentity "no identity"))
      else .looking descriptor handler
    | none => q.forwarded (d.forward q.session q.message q.context).status

def consulted : Status World Bool → Stage
  | .ended (.ok passed) => q.routed d passed
  | .ended (.error panic) => .crashed panic
  | .pending a => .consulting a

end Request

namespace Duty

variable (d : Dispatcher)

/-- A job that has not been taken up. -/
def fresh (q : Request) : Duty :=
  ⟨q, q.consulted d (d.consult q.session q.message q.context).status⟩

/-- What is left to do. -/
def rest (e : Duty) : Activity World (Aside World) :=
  match e.stage with
  | .consulting a => do
    d.route e.request.session e.request.message e.request.context (← a.1)
  | .looking descriptor handler => do
    d.enter e.request.session e.request.message e.request.context descriptor handler
      (← Activity.look)
  | .handling descriptor a => do
    d.respond e.request.session e.request.context descriptor.protocol true a.1
    return none
  | .forwarding a => do
    let outcome ← a.1
    d.answer e.request.session e.request.context (outcome.reply e.request.message.protocol)
    return none
  | .answering r => do
    d.answer e.request.session e.request.context r
    return none
  | .ended aside => .finish aside
  | .crashed panic => .crash panic

/-- The next step of a job: the world behind it, and the job. -/
def work (e : Duty) (reason : Option String) (w : World) : World × Duty :=
  match e.stage with
  | .consulting a =>
    let (w, a) := a.1.tick reason w
    (w, { e with stage := e.request.consulted d a.status })
  | .looking descriptor handler =>
    (w, { e with stage :=
      e.request.entered d descriptor handler (e.request.arguments d descriptor w) })
  | .handling descriptor a =>
    let (w, a) := a.1.tick reason w
    (w, { e with stage := Request.handled descriptor a.status })
  | .forwarding a =>
    let (w, a) := a.1.tick reason w
    (w, { e with stage := e.request.forwarded a.status })
  | .answering r =>
    (w.withSessions
      (Reply.deliver d.serializers e.request.session e.request.context r w.sessions),
      { e with stage := .ended none })
  | .ended _ | .crashed _ => (w, e)

theorem request_work (e : Duty) (reason : Option String) (w : World) :
    (e.work d reason w).2.request = e.request := by
  unfold work
  cases e.stage <;> rfl

/-- What the next step of a job does that is seen of it. -/
def deeds (e : Duty) (w : World) : List Deed :=
  match e.stage with
  | .looking descriptor _ =>
    match e.request.arguments d descriptor w with
    | some (.ok args) => [.called descriptor args]
    | _ => []
  | .handling _ _ => [.worked]
  | .answering r =>
    (Reply.offered? d.serializers e.request.session e.request.context r w.sessions).toList.map
      .told
  | _ => []

theorem rest_forwarded (q : Request) (a : Activity World Dispatch.ForwardOutcome) :
    (a.bind fun outcome =>
      (d.answer q.session q.context (outcome.reply q.message.protocol)).bind fun _ =>
        .finish none) = rest d ⟨q, q.forwarded a.status⟩ := by
  cases a <;> rfl

theorem rest_handled (q : Request) (descriptor : Descriptor)
    (a : Activity World (Except HandlerFault Json)) :
    ((d.respond q.session q.context descriptor.protocol true a).bind fun _ => .finish none) =
      rest d ⟨q, Request.handled descriptor a.status⟩ := by
  cases a <;> rfl

theorem rest_called (q : Request) (descriptor : Descriptor) (handler : Handler World)
    (args : Arguments) : d.call q.session q.context descriptor handler args =
      rest d ⟨q, q.called d descriptor (handler args)⟩ := by
  unfold Dispatcher.call
  cases handler args with
  | crashes panic => rfl
  | works work =>
    cases mode : descriptor.isSynchronous with
    | true =>
      simp only [Request.called, mode]
      exact rest_handled d q descriptor work
    | false =>
      simp only [Request.called, mode]
      rfl

theorem rest_entered (q : Request) (descriptor : Descriptor) (handler : Handler World)
    (w : World) : d.enter q.session q.message q.context descriptor handler w =
      rest d ⟨q, q.entered d descriptor handler (q.arguments d descriptor w)⟩ := by
  unfold Dispatcher.enter Request.arguments
  cases w.sessions.session? q.session with
  | none => rfl
  | some s =>
    simp only [Option.map_some]
    cases Dispatch.bindArguments d.serializers descriptor s q.message q.context with
    | ok args => exact rest_called d q descriptor handler args
    | error fault => rfl

theorem rest_routed (q : Request) (passed : Bool) :
    d.route q.session q.message q.context passed = rest d ⟨q, q.routed d passed⟩ := by
  cases passed with
  | false => rfl
  | true =>
    unfold Dispatcher.route Request.routed
    cases d.registry.handler? q.message.protocol with
    | none => exact rest_forwarded d q _
    | some entry =>
      obtain ⟨descriptor, handler⟩ := entry
      simp only [Dispatcher.invoke]
      split <;> rfl

theorem rest_consulted (q : Request) (a : Activity World Bool) :
    a.bind (d.route q.session q.message q.context) = rest d ⟨q, q.consulted d a.status⟩ := by
  cases a with
  | finish passed => exact rest_routed d q passed
  | crash | act | pause | connect => rfl

/-- A job that has not been taken up is all of what the dispatcher does with the request. -/
theorem rest_fresh (q : Request) :
    (fresh d q).rest d = d.process q.session q.message q.context :=
  (rest_consulted d q _).symm

/-- Step by step a job does what is left of it. -/
theorem tick_rest (e : Duty) (reason : Option String) (w : World) :
    (e.rest d).tick reason w = ((e.work d reason w).1, (e.work d reason w).2.rest d) := by
  obtain ⟨q, stage⟩ := e
  cases stage with
  | consulting a =>
    exact (Activity.tick_bind a.2 _ reason w).trans (congrArg _ (rest_consulted d q _))
  | looking descriptor handler => exact congrArg _ (rest_entered d q descriptor handler w)
  | handling descriptor a =>
    have going : a.1.caught.isOver = false := (Activity.isOver_caught a.1).trans a.2
    have step := Activity.tick_bind going (fun outcome => (d.answer q.session q.context
      (Reply.ofOutcome true descriptor.protocol outcome)).bind fun _ =>
        (.finish none : Activity World (Aside World))) reason w
    rw [Activity.tick_caught a.2, ← Activity.bind_assoc, ← Activity.bind_assoc] at step
    exact step.trans (congrArg _ (rest_handled d q descriptor _))
  | forwarding a =>
    exact (Activity.tick_bind a.2 _ reason w).trans (congrArg _ (rest_forwarded d q _))
  | answering | ended | crashed => rfl

theorem rest_work {e : Duty} {a : Activity World (Aside World)} (left : e.rest d = a)
    (reason : Option String) (w : World) :
    (e.work d reason w).2.rest d = (a.tick reason w).2 := by
  rw [← left, e.tick_rest d]

theorem ended_of_rest {e : Duty} {aside : Aside World} (left : e.rest d = .finish aside) :
    e.stage = .ended aside := by
  obtain ⟨q, stage⟩ := e
  cases stage with
  | ended other =>
    cases left
    rfl
  | consulting a =>
    have going := Activity.isOver_bind a.2 (d.route q.session q.message q.context)
    cases going.symm.trans (congrArg Activity.isOver left)
  | handling descriptor a =>
    have going := Activity.isOver_bind ((Activity.isOver_caught a.1).trans a.2) fun outcome =>
      d.answer q.session q.context (Reply.ofOutcome true descriptor.protocol outcome)
    have more := Activity.isOver_bind going fun _ => (.finish none : Activity World (Aside World))
    cases more.symm.trans (congrArg Activity.isOver left)
  | forwarding a =>
    have going := Activity.isOver_bind a.2 fun outcome =>
      (d.answer q.session q.context (outcome.reply q.message.protocol)).bind fun _ =>
        (.finish none : Activity World (Aside World))
    cases going.symm.trans (congrArg Activity.isOver left)
  | looking | answering | crashed => cases left

/-- An answer is offered to the session of the request, and nothing else is done in that step. -/
theorem work_told {e : Duty} {w : World} {frame : Message} (told : .told frame ∈ e.deeds d w) :
    e.deeds d w = [.told frame] ∧ ∀ reason, (e.work d reason w).1 =
      w.withSessions (w.sessions.send e.request.session frame).1 := by
  obtain ⟨q, stage⟩ := e
  cases stage with
  | answering r =>
    simp only [deeds] at told ⊢
    obtain ⟨m, offered, same⟩ := List.mem_map.mp told
    cases same
    have offered := Option.mem_toList.mp offered
    constructor
    · rw [offered]
      rfl
    · intro reason
      simp only [work, Reply.deliver_eq, offered]
  | looking descriptor handler =>
    simp only [deeds] at told
    split at told
    · cases List.mem_singleton.mp told
    · cases told
  | handling => cases told; contradiction
  | consulting | forwarding | ended | crashed => cases told

/-- A handler is called with what was bound for it, and nothing else is done in that step. -/
theorem work_called {e : Duty} {w : World} {descriptor : Descriptor} {args : Arguments}
    (called : .called descriptor args ∈ e.deeds d w) : ∃ handler,
      e.stage = .looking descriptor handler ∧ e.deeds d w = [.called descriptor args] ∧
      ∀ reason, (e.work d reason w).2.rest d =
        d.call e.request.session e.request.context descriptor handler args := by
  obtain ⟨q, stage⟩ := e
  cases stage with
  | looking found handler =>
    simp only [deeds] at called ⊢
    split at called
    · rename_i bound arguments
      cases List.mem_singleton.mp called
      refine ⟨handler, rfl, rfl, fun reason => ?_⟩
      simp only [work, arguments, Request.entered]
      exact (rest_called d q descriptor handler args).symm
    · cases called
  | answering r =>
    simp only [deeds] at called
    obtain ⟨m, -, same⟩ := List.mem_map.mp called
    cases same
  | handling => cases called; contradiction
  | consulting | forwarding | ended | crashed => cases called

/-! What a job has done by the time that it is at a stage. -/

/-- The handler that is bound for a request. -/
def Bound (q : Request) (descriptor : Descriptor) : Prop :=
  ∃ handler, d.registry.handler? q.message.protocol = some (descriptor, handler)

/-- What a job does before it answers: it calls the handler, if at all, and works on with a
synchronous one. -/
inductive Called (q : Request) : List Deed → Prop where
  | never : Called q []
  | once {descriptor : Descriptor} (args : Arguments) (bound : Bound d q descriptor) (n : Nat)
      (works : n ≠ 0 → descriptor.isSynchronous = true) :
      Called q (.called descriptor args :: List.replicate n .worked)

/-- What a job does in all: there is one answer at most, under the number of the request. -/
def Done (q : Request) (deeds : List Deed) : Prop :=
  ∃ front, Called d q front ∧ (deeds = front ∨ ∃ frame, deeds = front ++ [.told frame] ∧
    frame.kind = .response ∧ frame.sequence = q.context.sequence)

def Traced (q : Request) (deeds : List Deed) : Stage → Prop
  | .consulting _ | .forwarding _ | .crashed _ => deeds = []
  | .looking descriptor handler => deeds = [] ∧
    d.registry.handler? q.message.protocol = some (descriptor, handler)
  | .handling descriptor _ => Bound d q descriptor ∧ descriptor.isSynchronous = true ∧
    ∃ args n, deeds = .called descriptor args :: List.replicate n .worked
  | .answering _ => Called d q deeds
  | .ended aside => Done d q deeds ∧
    (aside ≠ none → ∃ descriptor, Bound d q descriptor ∧ descriptor.isSynchronous = false)

theorem done_of_traced {q : Request} {deeds : List Deed} {stage : Stage}
    (traced : Traced d q deeds stage) : Done d q deeds := by
  have never : deeds = [] → Done d q deeds := by
    rintro rfl
    exact ⟨[], .never, .inl rfl⟩
  cases stage with
  | consulting | forwarding | crashed => exact never traced
  | looking => exact never traced.1
  | handling =>
    obtain ⟨bound, synchronous, args, n, rfl⟩ := traced
    exact ⟨_, .once args bound n fun _ => synchronous, .inl rfl⟩
  | answering => exact ⟨deeds, traced, .inl rfl⟩
  | ended => exact traced.1

theorem traced_forwarded (q : Request) (a : Activity.Status World Dispatch.ForwardOutcome) :
    Traced d q [] (q.forwarded a) := by
  match a with
  | .ended (.ok outcome) => exact .never
  | .ended (.error panic) => exact rfl
  | .pending a => exact rfl

theorem traced_handled {q : Request} {descriptor : Descriptor} (bound : Bound d q descriptor)
    (synchronous : descriptor.isSynchronous = true) (args : Arguments) (n : Nat)
    (a : Activity.Status World (Except HandlerFault Json)) :
    Traced d q (.called descriptor args :: List.replicate n .worked)
      (Request.handled descriptor a) := by
  cases a with
  | ended outcome => exact .once args bound n fun _ => synchronous
  | pending a => exact ⟨bound, synchronous, args, n, rfl⟩

theorem traced_called {q : Request} {descriptor : Descriptor} (bound : Bound d q descriptor)
    (args : Arguments) (call : Call World) :
    Traced d q [.called descriptor args] (q.called d descriptor call) := by
  have once : Called d q [.called descriptor args] :=
    .once args bound 0 fun some => absurd rfl some
  cases call with
  | crashes panic => exact once
  | works work =>
    simp only [Request.called]
    cases mode : descriptor.isSynchronous with
    | true => exact traced_handled d bound mode args 0 _
    | false => exact ⟨⟨_, once, .inl rfl⟩, fun _ => ⟨descriptor, bound, mode⟩⟩

theorem traced_routed (q : Request) (passed : Bool) : Traced d q [] (q.routed d passed) := by
  cases passed with
  | false => exact ⟨⟨[], .never, .inl rfl⟩, fun some => absurd rfl some⟩
  | true =>
    unfold Request.routed
    cases found : d.registry.handler? q.message.protocol with
    | none => exact traced_forwarded d q _
    | some entry =>
      obtain ⟨descriptor, handler⟩ := entry
      simp only
      split
      · exact .never
      · exact ⟨rfl, found⟩

theorem traced_consulted (q : Request) (a : Activity.Status World Bool) :
    Traced d q [] (q.consulted d a) := by
  match a with
  | .ended (.ok passed) => exact traced_routed d q passed
  | .ended (.error panic) => exact rfl
  | .pending a => exact rfl

/-- Each step of a job adds what is seen of it. -/
theorem traced_work {e : Duty} {deeds : List Deed} (traced : Traced d e.request deeds e.stage)
    (reason : Option String) (w : World) :
    Traced d e.request (deeds ++ e.deeds d w) (e.work d reason w).2.stage := by
  obtain ⟨q, stage⟩ := e
  cases stage with
  | consulting a =>
    rw [show deeds = [] from traced]
    exact traced_consulted d q _
  | looking descriptor handler =>
    obtain ⟨none, bound⟩ := traced
    rw [none]
    simp only [Duty.deeds, work]
    match q.arguments d descriptor w with
    | some (.ok args) => exact traced_called d ⟨handler, bound⟩ args _
    | some (.error fault) => exact .never
    | .none => exact ⟨⟨[], .never, .inl rfl⟩, fun some => absurd rfl some⟩
  | handling descriptor a =>
    obtain ⟨bound, synchronous, args, n, rfl⟩ := traced
    have more := traced_handled d bound synchronous args (n + 1) (a.1.tick reason w).2.status
    rw [List.replicate_succ'] at more
    exact more
  | forwarding a =>
    rw [show deeds = [] from traced]
    exact traced_forwarded d q _
  | answering r =>
    refine ⟨⟨deeds, traced, ?_⟩, fun some => absurd rfl some⟩
    simp only [Duty.deeds]
    cases offered : Reply.offered? d.serializers q.session q.context r w.sessions with
    | none => exact .inl (List.append_nil _)
    | some frame => exact .inr ⟨frame, rfl, Reply.header_of_offered offered⟩
  | ended aside =>
    rw [Duty.deeds, List.append_nil]
    exact traced
  | crashed panic =>
    rw [Duty.deeds, List.append_nil]
    exact traced

end Duty
end ClusterWire
