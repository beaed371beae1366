import ClusterWire.Proofs.Dispatch.Verdict
import ClusterWire.Proofs.Secrecy.Worlds

/-! What callers learn of failures inside. Two servers go side by side that get the same requests
and only differ in how their handlers fail unexpectedly or panic, and in which failures end their
calls and their attempts to relay, as long as a caller cannot tell these apart. Then the same
frames are queued on every session at every moment. What else may differ between their worlds is
left open, but for the sessions. -/
namespace ClusterWire

open Activity (Like like_look like_self)

/-- The same fault, or two that were not expected. -/
inductive HandlerFault.Alike : HandlerFault → HandlerFault → Prop where
  | refl (fault : HandlerFault) : Alike fault fault
  | unexpected (text other : String) : Alike (.unexpected text) (.unexpected other)

/-- Calls that do the same, but for panics and what the caller learns nothing of. -/
inductive Call.Alike (margin : Margin World) : Call World → Call World → Prop where
  | crashes (p q : Panic) : Alike margin (.crashes p) (.crashes q)
  | works {work other : Activity World (Except HandlerFault Json)}
      (like : Like margin (Paired HandlerFault.Alike Eq) work other) :
      Alike margin (.works work) (.works other)

/-- Callers are told the same of ends that only differ so. -/
theorem Reply.ofOutcome_alike (synchronous : Bool) (protocol : ProtocolId)
    {outcome other : Except Panic (Except HandlerFault Json)}
    (alike : Paired (fun _ _ => True) (Paired HandlerFault.Alike Eq) outcome other) :
    ofOutcome synchronous protocol outcome = ofOutcome synchronous protocol other := by
  cases alike with
  | error => rfl
  | ok alike =>
    cases alike with
    | ok same => rw [same]
    | error alike =>
      cases alike with
      | refl => rfl
      | unexpected => rfl

/-- Worlds within the margin have the same sessions, and stay within it as their sessions go on. -/
structure World.Veils (margin : Margin World) : Prop where
  sessions : ∀ v w, margin.near v w → v.sessions = w.sessions
  withSessions : ∀ v w, margin.near v w → ∀ t, margin.near (v.withSessions t) (w.withSessions t)

namespace Dispatcher

/-- The same dispatcher, but for how its handlers and its relaying fail inside. -/
structure Alike (margin : Margin World) (d e : Dispatcher) : Prop where
  veils : World.Veils margin
  serializers : d.serializers = e.serializers
  extract : d.extract = e.extract
  hook : ∀ id m ctx, Like margin Eq (d.consult id m ctx) (e.consult id m ctx)
  handler : ∀ protocol,
    Option.Rel (fun h k => h.1 = k.1 ∧ ∀ args, (h.2 args).Alike margin (k.2 args))
      (d.registry.handler? protocol) (e.registry.handler? protocol)
  forward : ∀ id m ctx,
    Like margin Dispatch.ForwardOutcome.Alike (d.forward id m ctx) (e.forward id m ctx)

/-- What is left to be done beside the workers is alike. -/
abbrev Beside (margin : Margin World) : Aside World → Aside World → Prop :=
  Option.Rel (Like margin Eq)

namespace Alike

variable {margin : Margin World} {d e : Dispatcher} (alike : d.Alike margin e)
  (id : SessionId) (m : Message) (ctx : CallContext)
include alike

theorem answer (r : Option Reply) : Like margin Eq (d.answer id ctx r) (e.answer id ctx r) := by
  refine .act (fun v w related => ?_) fun _ _ _ => .finish rfl
  rw [alike.serializers, alike.veils.sessions v w related]
  exact alike.veils.withSessions v w related _

theorem answered (r : Option Reply) : Like margin (Beside margin)
    ((d.answer id ctx r).bind fun _ => .finish none)
    ((e.answer id ctx r).bind fun _ => .finish none) :=
  (alike.answer id ctx r).bind fun _ _ _ => .finish .none

theorem respond (protocol : ProtocolId) (synchronous : Bool)
    {work other : Activity World (Except HandlerFault Json)}
    (like : Like margin (Paired HandlerFault.Alike Eq) work other) :
    Like margin Eq (d.respond id ctx protocol synchronous work)
      (e.respond id ctx protocol synchronous other) :=
  like.caught.bind fun outcome other same => by
    rw [Reply.ofOutcome_alike synchronous protocol same]
    exact alike.answer id ctx _

theorem call (descriptor : Descriptor) {handler other : Handler World} {args : Arguments}
    (same : (handler args).Alike margin (other args)) :
    Like margin (Beside margin) (d.call id ctx descriptor handler args)
      (e.call id ctx descriptor other args) := by
  unfold Dispatcher.call
  generalize handler args = called, other args = beside at same ⊢
  cases same with
  | crashes p q => exact alike.answered id ctx _
  | works like =>
    dsimp only
    split
    · exact (alike.respond id ctx descriptor.protocol true like).bind fun _ _ _ => .finish .none
    · exact .finish (.some (alike.respond id ctx descriptor.protocol false like))

theorem enter (descriptor : Descriptor) {handler other : Handler World}
    (same : ∀ args, (handler args).Alike margin (other args)) {v w : World}
    (related : margin.near v w) :
    Like margin (Beside margin) (d.enter id m ctx descriptor handler v)
      (e.enter id m ctx descriptor other w) := by
  unfold Dispatcher.enter
  rw [alike.veils.sessions v w related, alike.serializers]
  split
  · exact .finish .none
  · split
    · exact alike.call id ctx descriptor (same _)
    · exact alike.answered id ctx _

theorem invoke (descriptor : Descriptor) {handler other : Handler World}
    (same : ∀ args, (handler args).Alike margin (other args)) :
    Like margin (Beside margin) (d.invoke id m ctx descriptor handler)
      (e.invoke id m ctx descriptor other) := by
  unfold Dispatcher.invoke
  split
  · exact alike.answered id ctx _
  · exact like_look.bind fun v w related => alike.enter id m ctx descriptor same related

theorem routeUnbound :
    Like margin (Beside margin) (d.routeUnbound id m ctx) (e.routeUnbound id m ctx) :=
  (alike.forward id m ctx).bind fun outcome other same => by
    rw [same.reply]
    exact alike.answered id ctx _

theorem route (passed : Bool) :
    Like margin (Beside margin) (d.route id m ctx passed) (e.route id m ctx passed) := by
  cases passed with
  | false => exact .finish .none
  | true =>
    have bound := alike.handler m.protocol
    unfold Dispatcher.route
    generalize d.registry.handler? m.protocol = found, e.registry.handler? m.protocol = also
      at bound ⊢
    cases bound with
    | none => exact alike.routeUnbound id m ctx
    | @some h k same =>
      obtain ⟨descriptor, handler⟩ := h
      obtain ⟨own, other⟩ := k
      obtain ⟨descriptors, handlers⟩ := same
      obtain rfl : descriptor = own := descriptors
      exact alike.invoke id m ctx descriptor handlers

/-- Whatever is done with a request is done alike. -/
theorem process : Like margin (Beside margin) (d.process id m ctx) (e.process id m ctx) :=
  (alike.hook id m ctx).bind fun passed other same => by
    rw [same]
    exact alike.route id m ctx other

/-- A message is a request for both or for neither. -/
theorem dispatch (t : Sessions) :
    Option.Rel (fun a b => a.1 = b.1 ∧ Like margin (Beside margin) a.2 b.2)
      (d.dispatch t id m) (e.dispatch t id m) := by
  unfold Dispatcher.dispatch
  split
  · rename_i s _ _
    have context : d.context s m = e.context s m := by
      rw [Dispatcher.context, Dispatcher.context, alike.extract]
    rw [context]
    exact .some ⟨rfl, alike.process id m _⟩
  · exact .none

end Alike

/-- Without a margin every dispatcher is like itself. -/
theorem alike_self (d : Dispatcher) : d.Alike (.none World) d where
  veils := ⟨fun _ _ same => congrArg World.sessions same, fun _ _ same t => same ▸ rfl⟩
  serializers := rfl
  extract := rfl
  hook id m ctx := like_self _
  handler protocol := by
    have called : ∀ c : Call World, c.Alike (.none World) c := by
      intro c
      cases c with
      | crashes panic => exact .crashes panic panic
      | works work =>
        refine .works ((like_self work).imp ?_)
        rintro result _ rfl
        cases result with
        | ok v => exact .ok rfl
        | error fault => exact .error (.refl fault)
    cases d.registry.handler? protocol with
    | none => exact .none
    | some entry => exact .some ⟨rfl, fun args => called _⟩
  forward id m ctx := (like_self _).imp fun outcome _ same => same ▸ .refl outcome

theorem like_later {margin : Margin World} {a b : Aside World} (same : Beside margin a b) :
    Like margin Eq (later a) (later b) := by
  cases same with
  | none => exact .finish rfl
  | some like => exact .pause 0 like

end Dispatcher

namespace Dispatch

/-- A server with all that is being done about requests. -/
structure Floor where
  world : World
  work : List (Activity World Unit) := []

namespace Floor

/-- What happens next: a message comes in, one of the activities takes a step, or anything
happens to the world. -/
inductive Move where
  | dispatch (id : SessionId) (m : Message)
  | work (n : Nat) (reason : Option String)
  | elsewhere (change : World → World)

def step (d : Dispatcher) (f : Floor) : Move → Floor
  | .dispatch id m =>
    let job := d.dispatch f.world.sessions id m
    { f with work := f.work ++ (job.map fun j => j.2.bind Dispatcher.later).toList }
  | .work n reason =>
    match f.work[n]? with
    | some a =>
      let (w, a) := a.tick reason f.world
      ⟨w, f.work.set n a⟩
    | none => f
  | .elsewhere change => { f with world := change f.world }

def after (d : Dispatcher) (f : Floor) (moves : List Move) : Floor := moves.foldl (step d) f

/-- The same move, but for the reason why there is no connection, and for changes of the world
that the relation allows for. -/
inductive Move.Alike (margin : Margin World) : Move → Move → Prop where
  | dispatch (id : SessionId) (m : Message) : Alike margin (.dispatch id m) (.dispatch id m)
  | work (n : Nat) {reason other : Option String} (same : margin.reasons reason other) :
      Alike margin (.work n reason) (.work n other)
  | elsewhere {change other : World → World}
      (keeps : ∀ v w, margin.near v w → margin.near (change v) (other w)) :
      Alike margin (.elsewhere change) (.elsewhere other)

structure Near (margin : Margin World) (f g : Floor) : Prop where
  world : margin.near f.world g.world
  work : List.Forall₂ (Like margin Eq) f.work g.work

variable {margin : Margin World}

theorem getElem?_like {a b : List (Activity World Unit)} (same : List.Forall₂ (Like margin Eq) a b)
    (n : Nat) : Option.Rel (Like margin Eq) a[n]? b[n]? := by
  induction same generalizing n with
  | nil => exact .none
  | cons first _ ih =>
    cases n with
    | zero => exact .some first
    | succ n => exact ih n

theorem set_like {a b : List (Activity World Unit)} (same : List.Forall₂ (Like margin Eq) a b)
    {x y : Activity World Unit} (like : Like margin Eq x y) (n : Nat) :
    List.Forall₂ (Like margin Eq) (a.set n x) (b.set n y) := by
  induction same generalizing n with
  | nil => exact .nil
  | cons first rest ih =>
    cases n with
    | zero => exact .cons like rest
    | succ n => exact .cons first (ih n)

variable {d e : Dispatcher} {f g : Floor}

/-- Servers that are alike go on so. -/
theorem near_step (alike : d.Alike margin e) (related : f.Near margin g) {move other : Move}
    (same : move.Alike margin other) : (f.step d move).Near margin (g.step e other) := by
  cases same with
  | dispatch id m =>
    have job := alike.dispatch id m g.world.sessions
    simp only [step, alike.veils.sessions _ _ related.world]
    generalize d.dispatch g.world.sessions id m = found, e.dispatch g.world.sessions id m = also
      at job ⊢
    refine ⟨related.world, List.rel_append related.work ?_⟩
    cases job with
    | none => exact .nil
    | some same => exact .cons (same.2.bind fun _ _ => Dispatcher.like_later) .nil
  | work n same =>
    have like := getElem?_like related.work n
    simp only [step]
    generalize f.work[n]? = here, g.work[n]? = there at like ⊢
    cases like with
    | none => exact related
    | some like =>
      obtain ⟨world, rest⟩ := like.tick related.world same
      exact ⟨world, set_like related.work rest n⟩
  | elsewhere keeps => exact ⟨keeps _ _ related.world, related.work⟩

theorem near_after (alike : d.Alike margin e) {moves others : List Move}
    (same : List.Forall₂ (Move.Alike margin) moves others) (related : f.Near margin g) :
    (f.after d moves).Near margin (g.after e others) := by
  induction same generalizing f g with
  | nil => exact related
  | cons first _ ih => exact ih (near_step alike related first)

end Floor

/-- What the margin may be: none, and then every dispatcher is like itself; or what waiters find
and why peers cannot be reached. Calls may then end by failures that are alike, and whatever else
happens to calls and links keeps to it, as do gateways. -/
structure Veiled : Prop where
  plain : ∀ d : Dispatcher, d.Alike (.none World) d
  veils : World.Veils World.margin
  calls : ∀ serializers (event other : CallEvent), event.Alike other → ∀ v w : World, v.Near w →
    (v.told serializers event).Near (w.told serializers other)
  links : ∀ serializers own id event, ∀ v w : World, v.Near w →
    World.Near { v with board := v.board.step serializers own id event }
      { w with board := w.board.step serializers own id event }
  relays : ∀ (r : Relay) id m ctx,
    Like World.margin ForwardOutcome.Alike (r.forward id m ctx) (r.forward id m ctx)

theorem veiled : Veiled where
  plain := Dispatcher.alike_self
  veils := ⟨fun _ _ near => near.sessions, fun _ _ near => near.withSessions⟩
  calls serializers _ _ alike _ _ near := near.told serializers alike
  links serializers own id event _ _ near := near.link serializers own id event
  relays := Relay.like_forward

/-- What a caller can be told of a failure: what its handler says itself, what a remote error
says, that its protocol is not supported, or one of a few fixed answers. -/
structure Discreet : Prop where
  handled : ∀ synchronous protocol outcome code message,
    Reply.ofOutcome synchronous protocol outcome = some (.error code message) ↔
      outcome = .ok (.error (.domain code message)) ∨
      ((∃ text, outcome = .ok (.error (.unexpected text))) ∨ ∃ panic, outcome = .error panic) ∧
        code = .unknown ∧ message = "unknown error"
  forwarded : ∀ protocol outcome code message,
    ForwardOutcome.reply protocol outcome = some (.error code message) →
      outcome = .failed (.remote code message) ∨
      outcome = .unsupported ∧ code = .unsupportedProtocol ∧
        message = s!"protocol {protocol.text} is not supported" ∨
      ∃ fault, outcome = .failed fault ∧ fault.isRemote = false ∧ ⟨code, message⟩ ∈ RpcFault.fixed
  failed : ∀ fault : RpcFault, fault.isRemote = false → fault.response ∈ RpcFault.fixed
  remote : ∀ code message, (RpcFault.remote code message).response = ⟨code, message⟩

theorem discreet : Discreet where
  handled synchronous protocol outcome code message := by
    cases outcome with
    | error panic => simp [Reply.ofOutcome, Reply.unknown, eq_comm]
    | ok result =>
      cases result with
      | ok v =>
        rw [Reply.ofOutcome]
        split <;> simp
      | error fault =>
        cases fault with
        | domain own text => simp [Reply.ofOutcome]
        | unexpected text => simp [Reply.ofOutcome, Reply.unknown, eq_comm]
  forwarded protocol outcome code message told := by
    cases outcome with
    | forwarded server => cases told
    | dropped => cases told
    | unsupported =>
      cases told
      exact .inr (.inl ⟨rfl, rfl, rfl⟩)
    | failed fault =>
      cases told
      cases own : fault.isRemote with
      | false => exact .inr (.inr ⟨fault, rfl, own, RpcFault.response_fixed own⟩)
      | true =>
        cases fault with
        | remote code message => exact .inl rfl
        | _ => cases own
  failed fault own := RpcFault.response_fixed own
  remote code message := rfl

/-- Two servers that only differ in failures inside, and go on with the same requests and alike
otherwise, have queued the same frames on every session whenever they have come equally far. What
their worlds may differ by is left open, and may be what their calls have failed with. Of a
failure callers are told only what may be told. -/
theorem frames_hide_failures {margin : Margin World} {d e : Dispatcher}
    (alike : d.Alike margin e) {moves others : List Floor.Move}
    (same : List.Forall₂ (Floor.Move.Alike margin) moves others) {v w : World}
    (related : margin.near v w) :
    (∀ n, (Floor.after d ⟨v, []⟩ (moves.take n)).world.sessions =
      (Floor.after e ⟨w, []⟩ (others.take n)).world.sessions) ∧ Veiled ∧ Discreet := by
  refine ⟨fun n => ?_, veiled, discreet⟩
  have start : Floor.Near margin ⟨v, []⟩ ⟨w, []⟩ := ⟨related, .nil⟩
  exact alike.veils.sessions _ _ (Floor.near_after alike (List.forall₂_take n same) start).world

/-- A server whose one handler fails unexpectedly, whose other one panics, and which fails to
relay. -/
def ailing (text : String) (panic : Panic) (fault : RpcFault) : Dispatcher where
  registry := ⟨[], [({ protocol := ⟨10, 3⟩, name := "save" },
    fun _ => .works (.finish (.error (.unexpected text)))),
    ({ protocol := ⟨10, 4⟩, name := "load" }, fun _ => .crashes panic)], []⟩
  serializers := .standard
  forward := fun _ _ _ => .finish (.failed fault)

theorem ailing_alike (text other : String) (p q : Panic) {fault also : RpcFault}
    (alike : fault.Alike also) : (ailing text p fault).Alike World.margin (ailing other q also) where
  veils := veiled.veils
  serializers := rfl
  extract := rfl
  hook _ _ _ := .finish rfl
  handler protocol := by
    simp only [ailing, Registry.handler?, List.find?_cons, List.find?_nil]
    split
    · exact .some ⟨rfl, fun _ => .works (.finish (.error (.unexpected text other)))⟩
    · split
      · exact .some ⟨rfl, fun _ => .crashes p q⟩
      · exact .none
  forward _ _ _ := .finish (.failed alike)

/-- A client's session that waits for the answer to a request that was relayed. -/
def relaying : World where
  now := 0
  board := ⟨⟨(Sessions.empty.create (.loopback 5000) .external 0).1,
    ⟨9, [.forwarding 0 ⟨5, 6⟩ 9 ⟨10, 9⟩ ⟨1⟩ (.ofSeconds 5)], []⟩⟩, .empty⟩
  clusters := .empty

/-- Requests for both handlers and for neither, and the end of the relayed one. -/
def ailments (fault : RpcFault) : List Floor.Move :=
  [.dispatch ⟨1⟩ (.clientRequest 4 ⟨10, 3⟩ []), .dispatch ⟨1⟩ (.clientRequest 5 ⟨10, 4⟩ []),
    .dispatch ⟨1⟩ (.clientRequest 7 ⟨10, 8⟩ []), .work 0 none, .work 0 none, .work 1 none,
    .work 1 none, .work 2 none, .elsewhere (World.told .standard (.fail 9 fault))]

/-- The client is told four times that something failed, whatever it was. -/
theorem frames_hide_failures_ailing :
    (Floor.after (ailing "disk full" (.text "index out of range")
      (.connection "10.0.0.7:9000" "refused")) ⟨relaying, []⟩
      (ailments (.connection "10.0.0.7:9000" "link closed"))).world.sessions =
    (Floor.after (ailing "no such table" .other (.codec (.unknownSerializer 7))) ⟨relaying, []⟩
      (ailments (.abandoned ⟨10, 9⟩))).world.sessions ∧
    ((Floor.after (ailing "no such table" .other (.codec (.unknownSerializer 7))) ⟨relaying, []⟩
      (ailments (.abandoned ⟨10, 9⟩))).world.sessions.session? ⟨1⟩).map (·.queue) =
    some ([4, 5, 7, 6].map fun n => Message.errorResponse .external n
      (Json.encode (ErrorResponse.toJson ⟨.unknown, "unknown error"⟩))) := by
  have ends : (RpcFault.connection "10.0.0.7:9000" "link closed").Alike (.abandoned ⟨10, 9⟩) :=
    .hidden rfl rfl rfl
  have same : List.Forall₂ (Floor.Move.Alike World.margin)
      (ailments (.connection "10.0.0.7:9000" "link closed")) (ailments (.abandoned ⟨10, 9⟩)) :=
    .cons (.dispatch _ _) <| .cons (.dispatch _ _) <| .cons (.dispatch _ _) <|
    .cons (.work 0 rfl) <| .cons (.work 0 rfl) <| .cons (.work 1 rfl) <| .cons (.work 1 rfl) <|
    .cons (.work 2 rfl) <| .cons (.elsewhere (veiled.calls _ _ _ (.fail 9 ends))) .nil
  have near : World.margin.near relaying relaying := ⟨rfl, ⟨⟨rfl, rfl, rfl, .nil⟩, rfl⟩, rfl⟩
  have relays : (RpcFault.connection "10.0.0.7:9000" "refused").Alike
      (.codec (.unknownSerializer 7)) := .hidden rfl rfl rfl
  have alike := ailing_alike "disk full" "no such table" (.text "index out of range") .other relays
  exact ⟨(frames_hide_failures alike same near).1 9, by decide⟩

end Dispatch
end ClusterWire
