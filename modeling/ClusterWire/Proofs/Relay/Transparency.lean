import ClusterWire.Proofs.Frame.RoundTrip
import ClusterWire.Proofs.Link.Duties
import ClusterWire.Proofs.Relay.Contents
import ClusterWire.Proofs.SocketAddress

/-! A gateway is transparent: a peer reads what the client said out of the request that is
made up for it, and the client reads out of one frame what the peer answered. -/
namespace ClusterWire

/-- The answer comes as this frame from a peer that was asked under a number, over a link
whose serializer the peer's session has. -/
def Reply.Comes (r : Reply) (link : Serializer) (sequence : Int64) (answer : Message) : Prop :=
  ∃ serializers t id s ctx, t.session? id = some s ∧ s.serializeType = link.type ∧
    ctx.sequence = sequence ∧ offered? serializers id ctx (some r) t = some answer

theorem Reply.Comes.legible {r : Reply} {link : Serializer} {sequence : Int64} {answer : Message}
    (comes : r.Comes link sequence answer) (portable : r.Portable) : sequence ≠ 0 ∧
      r.Legible link answer ∧ ∃ family body, answer = .response family sequence r.protocol body := by
  obtain ⟨serializers, t, id, s, ctx, known, type, rfl, offered⟩ := comes
  simp only [offered?, known, Option.bind_eq_bind, Option.bind_some] at offered
  split at offered
  · rename_i expects
    cases found : serializers.find? s.serializeType with
    | none => simp [frame?, found] at offered
    | some z =>
      rw [r.frame?_eq found] at offered
      cases offered
      have same : link.type = z.type := type.symm.trans (Serializer.type_of_find? found).symm
      exact ⟨by simpa [CallContext.expectsResponse] using expects,
        legible_frameOf portable s ctx.sequence same, s.family, _, r.frameOf_eq s ctx.sequence z⟩
  · cases offered

theorem Dispatch.Parcel.Asks.crosses {p : Parcel} {link : Serializer} {protocol : ProtocolId}
    {identity : Int64} {origin : String} {v : Json} (asks : p.Asks link protocol identity origin v)
    (short : origin.utf8ByteSize ≤ 255) {limit : Nat} (within : Frame.Within limit p.request) :
    Frame.Crosses limit p.request := by
  obtain ⟨sequence, body, request, -⟩ := asks
  refine Frame.crosses (fun hint named => ?_) within
  rw [request] at named
  cases named
  exact short

namespace Dispatch.Relay.Gateway

variable {d : Dispatcher} {r : Relay} {client : SessionId} {g h : Gateway} {k : Nat} {e : Errand}

/-! The call of a request is entered as the request is queued. -/

theorem mem_callsOf {i : Invocation} : i ∈ g.callsOf k ↔
    i ∈ g.world.calls.pending ∧ i.isForward = true ∧ g.behind i.sequence = some k := by
  rw [callsOf, List.mem_filter, owns, Bool.and_eq_true, beq_iff_eq]

theorem queued (sound : g.Sound d r client) (entry : g.errands[k]? = some e)
    (asked : e.message.sequence ≠ 0) {p : Parcel} {link : LinkId} (stage : e.stage = .posting p link)
    {l : Link} (there : g.world.peers.link? link = some l) (takes : l.phase ≠ .stopped)
    (reason : Option String) : ∃ i ∈ (g.step d r (.work k reason)).callsOf k,
      p.request.sequence = i.sequence ∧
      (g.step d r (.work k reason)).world.peers.link? link =
        some { l with queue := l.queue ++ [p.request] } := by
  have fits : p.Fits e.session e.message.sequence :=
    Errand.fits_of_parcel r (sound.errand k e entry) (by rw [stage]; rfl)
  obtain ⟨i, call, number, relayed, -⟩ := fits.asking asked
  have accepts := g.world.board.accepts_of_phase there takes
  obtain ⟨fault, steps, -⟩ := g.world.board.steps_post r.settings.serializers link i
  have desk := e.desk_work d r reason g.world
  have quiet : e.answer? d g.world = none := by simp only [Errand.answer?, stage]
  have events : e.callEvents g.world = g.world.board.postEvents link (some i) := by
    simp only [Errand.callEvents, stage, call]
  rw [quiet, events, steps, accepts, if_pos rfl] at desk
  rw [step_work entry reason]
  refine ⟨i, mem_callsOf.mpr ⟨?_, isForward_of_completion relayed, ?_⟩, number, ?_⟩
  · rw [World.calls, desk]
    exact List.mem_append_right _ (List.mem_singleton_self i)
  · simp [Errand.entered?, stage, call]
  · simp only [Errand.work, stage]
    exact g.world.board.link?_enqueue r.settings.serializers p.server.address p.request p.call
      there takes

/-! It is out until its answer comes, its link ends, or its time is up. -/

/-- The move does not end the call. -/
def Spares (r : Relay) (g : Gateway) (i : Invocation) : Move → Prop
  | .work k _ => ∀ e, g.errands[k]? = some e → e.entered? ≠ some i.sequence
  | .link id event =>
    ∀ x ∈ g.world.board.callEvents r.settings.link id event, x.Spares i
  | .reap now => now < i.deadline
  | .arrive .. | .close _ | .elsewhere _ => True

theorem spares_of_plain (plain : e.entered? = none) (i : Invocation) (w : World) :
    ∀ event ∈ e.callEvents w, event.Spares i := by
  obtain ⟨id, m, identity, stage⟩ := e
  cases stage with
  | entering server s body =>
    intro event held
    simp only [Errand.callEvents] at held
    split at held
    · cases List.mem_singleton.mp held
      trivial
    · cases held
  | posting p link =>
    have none : p.call = none := by simpa [Errand.entered?] using plain
    intro event held
    simp only [Errand.callEvents, none] at held
    cases held
  | choosing | reading | seeking | connecting | opening | answering | finished | crashed =>
    intro event held
    cases held

theorem stays_work (sound : g.Sound d r client) {i : Invocation} (out : i ∈ g.callsOf k) {j : Nat}
    (entry : g.errands[j]? = some e) (other : e.entered? ≠ some i.sequence)
    (reason : Option String) : i ∈ (g.step d r (.work j reason)).callsOf k := by
  obtain ⟨pending, forward, behind⟩ := mem_callsOf.mp out
  have left : ∃ events added new,
      Advance d r client j e added new (g.behindEvents r events) (g.step d r (.work j reason)) ∧
      i ∈ (g.behindEvents r events).world.calls.pending := by
    cases entered : e.entered? with
    | none =>
      exact ⟨_, _, _, advance_plain sound entry entered reason,
        Desk.mem_steps r.settings.serializers sound.unique pending (heard_of_plain entered g.world)
          (spares_of_plain entered i g.world)⟩
    | some n =>
      obtain ⟨p, link, call, stage, carried⟩ := posting_of_entered entered
      obtain ⟨fault, added, advance⟩ := advance_posting sound entry stage carried reason
      have differs : call.sequence ≠ i.sequence := by
        simpa [Errand.entered?, stage, carried] using other
      exact ⟨_, added, [], advance, Desk.mem_finish pending differs _⟩
  obtain ⟨events, added, new, advance, kept⟩ := left
  refine mem_callsOf.mpr ⟨?_, forward, ?_⟩
  · rw [advance.pending]
    exact List.mem_append_left _ kept
  · rw [advance.kept i kept]
    exact behind

theorem stays (sound : g.Sound d r client) {i : Invocation} (out : i ∈ g.callsOf k) {move : Move}
    (admits : g.Admits d r client move) (spares : g.Spares r i move) :
    i ∈ (g.step d r move).callsOf k := by
  obtain ⟨pending, forward, behind⟩ := mem_callsOf.mp out
  cases move with
  | arrive | close => exact out
  | elsewhere w =>
    have relayed : i ∈ w.calls.pending.filter (·.isForward) := by
      rw [admits.2.2]
      exact List.mem_filter.mpr ⟨pending, forward⟩
    exact mem_callsOf.mpr ⟨(List.mem_filter.mp relayed).1, forward, behind⟩
  | reap now =>
    have timely : (CallEvent.evict now).Spares i := spares
    exact mem_callsOf.mpr
      ⟨Desk.mem_step r.settings.serializers sound.unique pending timely, forward, behind⟩
  | link id event =>
    have kept := Desk.mem_steps r.settings.serializers sound.unique pending
      (Board.heard_callEvents r.settings.link g.world.board id event) spares
    rw [← Board.desk_step] at kept
    exact mem_callsOf.mpr ⟨kept, forward, behind⟩
  | work j reason =>
    cases entry : g.errands[j]? with
    | none =>
      simp only [step, entry]
      exact out
    | some e => exact stays_work sound out entry (spares e entry) reason

/-! The answer to a request goes to the client as one frame. -/

/-- The gateway goes on to this one. -/
inductive Leads (d : Dispatcher) (r : Relay) (client : SessionId) (g : Gateway) : Gateway → Prop where
  | refl : Leads d r client g g
  | step {h : Gateway} (move : Move) (before : Leads d r client g h)
      (admits : h.Admits d r client move) : Leads d r client g (h.step d r move)

theorem Leads.run (leads : Leads d r client g h) (run : Run d r client g) : Run d r client h := by
  induction leads with
  | refl => exact run
  | step move _ admits ih => exact ih.step move admits

theorem told_step (g : Gateway) (move : Move) : ∃ new, (g.step d r move).told = g.told ++ new := by
  cases move with
  | arrive | close | elsewhere => exact ⟨[], (List.append_nil _).symm⟩
  | link | reap => exact ⟨_, rfl⟩
  | work k reason =>
    cases entry : g.errands[k]? with
    | none =>
      simp only [step, entry]
      exact ⟨[], (List.append_nil _).symm⟩
    | some e =>
      rw [step_work entry reason]
      exact ⟨_, List.append_assoc _ _ _⟩

theorem lookup_step (g : Gateway) (entry : g.errands[k]? = some e) (move : Move) :
    ∃ same : Errand, (g.step d r move).errands[k]? = some same ∧ same.session = e.session := by
  cases move with
  | link | reap | close | elsewhere => exact ⟨e, entry, rfl⟩
  | arrive id m identity =>
    refine ⟨e, ?_, rfl⟩
    exact (List.getElem?_append_left (List.getElem?_eq_some_iff.mp entry).1).trans entry
  | work j reason =>
    cases there : g.errands[j]? with
    | none =>
      simp only [step, there]
      exact ⟨e, entry, rfl⟩
    | some other =>
      rw [step_work there reason]
      by_cases own : k = j
      · subst own
        cases entry.symm.trans there
        exact ⟨_, List.getElem?_set_self (List.getElem?_eq_some_iff.mp there).1,
          e.session_work d r reason _⟩
      · exact ⟨e, (List.getElem?_set_ne (Ne.symm own)).trans entry, rfl⟩

/-- A request of the client that was answered by a frame is not answered again. -/
theorem Leads.frames (leads : Leads d r client g h) (run : Run d r client g)
    (entry : g.errands[k]? = some e) (own : e.session = client) {frame : Message}
    (answered : frame ∈ g.framesOf k) : h.callsOf k = [] ∧ h.framesOf k = [frame] := by
  have kept : (∃ same : Errand, h.errands[k]? = some same ∧ same.session = client) ∧
      frame ∈ h.framesOf k := by
    induction leads with
    | refl => exact ⟨⟨e, entry, own⟩, answered⟩
    | @step h move before admits ih =>
      obtain ⟨⟨same, entry, session⟩, told⟩ := ih
      obtain ⟨next, there, kept⟩ := h.lookup_step (d := d) (r := r) entry move
      obtain ⟨new, more⟩ := h.told_step (d := d) (r := r) move
      refine ⟨⟨next, there, kept.trans session⟩, ?_⟩
      rw [framesOf, more, framesFor_append]
      exact List.mem_append_left _ told
  obtain ⟨⟨same, entry, session⟩, told⟩ := kept
  have balance := (sound_of_run (leads.run run)).balance k same entry session
  have most := same.due_le_one
  have some := List.length_pos_of_mem told
  obtain ⟨other, single⟩ := List.length_eq_one_iff.mp (show (h.framesOf k).length = 1 by omega)
  rw [single] at told
  exact ⟨List.length_eq_zero_iff.mp (by omega), single.trans (by rw [List.mem_singleton.mp told])⟩

variable {s : Session} {c : Serializer}

/-- The answer of a peer ends the call, with a frame for the client in which it is legible. -/
theorem completed_legible {t : Sessions} (keeps : t.Keeps client s) {serializers : Serializers}
    (serializer : serializers.find? s.serializeType = some c) {i : Invocation}
    (relayed : i.completion = .forward client) (asked : i.parent ≠ 0) {link : Serializer}
    {reply : Reply} {answer : Message} (legible : reply.Legible link answer)
    (portable : reply.Portable) : ∃ body,
    i.completed serializers t link answer =
      .sent client (.response s.family i.parent reply.protocol body) ∧
    reply.Legible c (.response s.family i.parent reply.protocol body) := by
  obtain ⟨u, known, -, family, type⟩ := keeps
  obtain ⟨body, transcoded, moved⟩ := legible.moved portable c s.family i.parent
  have caller : i.caller? serializers t client = some (u, c) := by
    simp [Invocation.caller?, asked, known, type, serializer]
  refine ⟨body, ?_, legible.protocol ▸ moved⟩
  simp only [Invocation.completed, relayed, caller, transcoded, family, legible.protocol]

theorem answered (steady : Steady d r client s g)
    (serializer : r.settings.serializers.find? s.serializeType = some c)
    (entry : g.errands[k]? = some e) (own : e.session = client) {i : Invocation}
    (out : i ∈ g.callsOf k) {reply : Reply} {answer : Message} (portable : reply.Portable)
    (comes : reply.Comes r.settings.link i.sequence answer) {id : LinkId} {l : Link}
    (there : g.world.peers.link? id = some l) (running : l.phase = .running) (succeeds : Bool) :
    ∃ body, let frame := Message.response s.family e.message.sequence reply.protocol body
      reply.Legible c frame ∧
      frame ∈ (g.step d r (.link id (.receive answer succeeds))).framesOf k ∧
      (g.step d r (.link id (.receive answer succeeds))).world.sessions.queueOf client =
        g.world.sessions.queueOf client ++ [frame] := by
  have sound := sound_of_run steady.run
  obtain ⟨pending, forward, behind⟩ := mem_callsOf.mp out
  obtain ⟨number, legible, family, told, rfl⟩ := comes.legible portable
  obtain ⟨same, known, relayed, parent, asked⟩ := sound.out i pending forward k behind
  cases entry.symm.trans known
  rw [own] at relayed
  obtain ⟨body, completed, read⟩ :=
    completed_legible steady.keeps serializer relayed (parent ▸ asked) legible portable
  have events : g.world.board.callEvents r.settings.link id
      (.receive (.response family i.sequence reply.protocol told) succeeds) =
      [.complete r.settings.link (.response family i.sequence reply.protocol told)] := by
    have peer : g.world.board.peers.link? id = some l := there
    simp [Board.callEvents, peer, running, Message.kind, Message.sequence, number]
  have found : g.world.board.desk.calls.find? i.sequence = some i :=
    Invocations.find?_of_mem sound.unique pending
  have ended : g.ends r [.complete r.settings.link
      (.response family i.sequence reply.protocol told)] =
      [⟨i, .sent client (.response s.family i.parent reply.protocol body)⟩] := by
    have ending : i.completed r.settings.serializers g.world.board.desk.sessions r.settings.link
        (.response family i.sequence reply.protocol told) = _ := completed
    simp only [ends, Desk.endsAll, Desk.ends, Desk.endsOf, Message.sequence, found,
      Option.toList_some, List.map_cons, List.map_nil, ending, List.append_nil]
  have credited : g.credit [⟨i, .sent client (.response s.family i.parent reply.protocol body)⟩] =
      [Message.response s.family i.parent reply.protocol body].map (k, ·) := by
    simp [credit, behind, Ending.frame?]
  refine ⟨body, parent ▸ read, ?_, ?_⟩
  · have new : (g.step d r (.link id
        (.receive (.response family i.sequence reply.protocol told) succeeds))).told =
        g.told ++ [Message.response s.family i.parent reply.protocol body].map (k, ·) := by
      rw [← credited, ← ended, ← events]
      rfl
    rw [framesOf, new, framesFor_append, framesFor_own, parent]
    exact List.mem_append_right _ (List.mem_singleton_self _)
  · have heard := Board.heard_callEvents r.settings.link g.world.board id
      (.receive (.response family i.sequence reply.protocol told) succeeds)
    have queue := queue_events sound heard
    rw [← Board.desk_step, events, ended, credited, framesTo_own entry, if_pos own, parent] at queue
    exact queue

/-- The request that is made up for a peer goes over the wire, names the protocol of the client's
request, the identity it runs for and the address of the client, and stands for the value under the
serializer of the links. -/
structure Emits (r : Relay) (s : Session) (e : Errand) (v : Json) (p : Parcel) : Prop where
  request : ∃ n body,
    p.request = .peerRequest n e.message.protocol e.identity (some s.remote.text) body ∧
      ∀ z : Serializer, z.type = r.settings.link.type → z.decode body = .ok v
  crosses : ∀ limit, Frame.Within limit p.request → Frame.Crosses limit p.request

/-- The frame that the client is sent for a reply, now and ever after the only one: in its own
family and under its own number, with the value under the protocol of its request, or with the code
and the message of the error. -/
structure Tells (d : Dispatcher) (r : Relay) (client : SessionId) (s : Session) (c : Serializer)
    (k : Nat) (e : Errand) (reply : Reply) (before after : Gateway) (frame : Message) : Prop where
  made : ∃ body, frame = .response s.family e.message.sequence reply.protocol body
  queue : after.world.sessions.queueOf client = before.world.sessions.queueOf client ++ [frame]
  ever : ∀ h, Leads d r client after h → h.callsOf k = [] ∧ h.framesOf k = [frame]
  crosses : ∀ limit, Frame.Within limit frame → Frame.Crosses limit frame
  value : ∀ w, reply = .value e.message.protocol w →
    frame.protocol = e.message.protocol ∧ c.decode frame.body = .ok w
  error : ∀ code message, reply = .error code message → frame.isError = true ∧
    c.decodeAs ErrorResponse.shape frame.body = .ok ⟨code, message⟩

/-- A call that is out stays out until an answer comes, its link ends, its time is up, or another
call takes its number. The answer of a peer goes over the wire and is told to the client. -/
structure Awaits (d : Dispatcher) (r : Relay) (client : SessionId) (s : Session) (c : Serializer)
    (g : Gateway) (k : Nat) (e : Errand) (i : Invocation) : Prop where
  stays : ∀ move, g.Admits d r client move → g.Spares r i move → i ∈ (g.step d r move).callsOf k
  crosses : ∀ (reply : Reply) answer, reply.Portable →
    reply.Comes r.settings.link i.sequence answer →
      ∀ limit, Frame.Within limit answer → Frame.Crosses limit answer
  tells : ∀ (reply : Reply) answer, reply.Portable →
    reply.Comes r.settings.link i.sequence answer →
      ∀ id l succeeds, g.world.peers.link? id = some l → l.phase = .running →
        ∃ frame, Tells d r client s c k e reply g (g.step d r (.link id (.receive answer succeeds)))
          frame

/-- What a gateway does with a request of a client is what the dispatcher does with requests that
have no handler. The body of the request is always moved to the serializer of the links. A link
that takes what is sent to the peer queues it, and a call is out under its number. -/
structure Transparent (d : Dispatcher) (r : Relay) (client : SessionId) (s : Session)
    (c : Serializer) (g : Gateway) (k : Nat) (e : Errand) (v : Json) : Prop where
  routes : (Errand.fresh r client e.message e.identity).rest d r =
    d.routeUnbound client e.message ⟨e.identity, e.message.sequence⟩
  works : ∀ (e : Errand) reason w, (e.rest d r).tick reason w =
    ((e.work d r reason w).1, (e.work d r reason w).2.rest d r)
  moved : ∀ fault, e.stage ≠ .answering (.failed (.codec fault))
  emits : ∀ p, e.stage.parcel? = some p → Emits r s e v p
  queues : ∀ p link l reason, e.stage = .posting p link → g.world.peers.link? link = some l →
    l.phase ≠ .stopped → ∃ i ∈ (g.step d r (.work k reason)).callsOf k,
      p.request.sequence = i.sequence ∧
      (g.step d r (.work k reason)).world.peers.link? link =
        some { l with queue := l.queue ++ [p.request] }
  awaits : ∀ i ∈ g.callsOf k, Awaits d r client s c g k e i

/-- A gateway is transparent to every request of its client whose body stands for a value without
floating-point numbers. -/
theorem transparent (relays : d.forward = r.forward) (steady : Steady d r client s g)
    (serializer : r.settings.serializers.find? s.serializeType = some c) (proper : s.remote.Proper)
    (entry : g.errands[k]? = some e) (own : e.session = client) (asked : e.message.sequence ≠ 0)
    {v : Json} (sent : c.decode e.message.body = .ok v) (free : v.FloatFree) :
    Transparent d r client s c g k e v := by
  have sound := sound_of_run steady.run
  have carries := steady.carries serializer free entry own sent
  refine ⟨Errand.rest_fresh d r relays client e.message e.identity, Errand.tick_rest d r,
    ?_, ?_, ?_, ?_⟩
  · intro fault failed
    simp only [Errand.Carries, failed] at carries
  · intro p held
    have asks := Errand.asks_of_parcel carries held
    obtain ⟨n, body, request, found⟩ := asks
    refine ⟨⟨n, body, request, fun z same => ?_⟩, fun limit within => ?_⟩
    · exact (Serializer.decode_of_type same body).trans found
    · exact Parcel.Asks.crosses ⟨n, body, request, found⟩ (SocketAddress.size_text_le proper) within
  · intro p link l reason stage there takes
    exact queued sound entry asked stage there takes reason
  · refine fun i out => ⟨fun move => stays sound out, ?_, ?_⟩
    · intro reply answer portable comes
      obtain ⟨-, -, family, body, rfl⟩ := comes.legible portable
      exact fun limit => Frame.crosses_response
    · intro reply answer portable comes id l succeeds there running
      obtain ⟨body, legible, told, queue⟩ :=
        answered steady serializer entry own out portable comes there running succeeds
      have run := steady.run.step (.link id (.receive answer succeeds)) trivial
      refine ⟨_, ⟨body, rfl⟩, queue, fun h leads => leads.frames run entry own told,
        fun limit => Frame.crosses_response, ?_, ?_⟩
      · rintro w rfl
        exact ⟨rfl, legible.body⟩
      · rintro code message rfl
        exact ⟨legible.isError, legible.decodeAs_error⟩

/-! A client that talks under the deflate serializer, in front of a peer that talks JSON. -/

def talker : Session :=
  { id := ⟨1⟩, remote := .loopback 5000, family := .external, serializeType := 1 }

def bazaar : World :=
  { World.empty with clusters := market.clusters }.withSessions
    (Sessions.empty.create talker.remote talker.family talker.serializeType).1

theorem steady_moves (steady : Steady d r client s g) {moves : List Move}
    (own : ∀ move ∈ moves, ∀ w, move ≠ .elsewhere w) :
    Steady d r client s (moves.foldl (step d r) g) := by
  induction moves generalizing g with
  | nil => exact steady
  | cons move rest ih =>
    obtain ⟨here, later⟩ := List.forall_mem_cons.mp own
    have admits : g.Admits d r client move := by
      cases move with
      | elsewhere w => exact absurd rfl (here w)
      | arrive | work | link | reap | close => trivial
    exact ih (steady.step move admits fun w same => absurd same (here w)) later

/-- An offer of 7 pieces that is queued for the trade server. -/
def offer7 : Message :=
  .clientRequest 2 ⟨50, 1⟩ ((Serializer.deflateAt 1).encode (.number (.natural 7)))

def offered : List Move := .arrive ⟨1⟩ offer7 9 :: List.replicate 7 (.work 0 none)

def waiting : Gateway := after (gatekeeper none) (gateway none) bazaar offered

theorem waiting_steady : Steady (gatekeeper none) (gateway none) ⟨1⟩ talker waiting := by
  have run : Run (gatekeeper none) (gateway none) ⟨1⟩ { world := bazaar } :=
    .start ⟨⟨_, rfl, rfl, rfl⟩, ⟨_, rfl, rfl, rfl⟩⟩ .nil (by intro i out; cases out)
  exact steady_moves (.start run ⟨_, rfl, rfl, rfl, rfl⟩) (by simp [offered])

/-- The call that is out for the offer. -/
def asking : Invocation := .forwarding 0 ⟨9, 2⟩ 1 ⟨50, 1⟩ ⟨1⟩ (.ofSeconds 5)

def accepted : Reply := .value ⟨50, 1⟩ (.bool true)

def acceptance : Message := .response .internal 1 ⟨50, 1⟩ (Serializer.json.encode (.bool true))

theorem accepted_comes : accepted.Comes .json 1 acceptance :=
  ⟨.standard, (Sessions.empty.create (.loopback 1) .internal 0).1, ⟨1⟩, _, ⟨9, 1⟩,
    rfl, rfl, rfl, rfl⟩

theorem transparent_offer : ∃ frame,
    (waiting.step (gatekeeper none) (gateway none)
      (.link ⟨0⟩ (.receive acceptance true))).framesOf 0 = [frame] ∧
    frame.sequence = 2 ∧ (Serializer.deflateAt 1).decode frame.body = .ok (.bool true) := by
  have entry : waiting.errands[0]? = some ⟨⟨1⟩, offer7, 9, .answering (.forwarded 5)⟩ := rfl
  have sent : (Serializer.deflateAt 1).decode offer7.body = .ok (.number (.natural 7)) :=
    ((Serializer.deflateAt 1).decode_encode (.number (Json.readsBack_natural 7))).mpr (.number _ _)
  have relayed :=
    transparent rfl waiting_steady rfl trivial entry rfl (by decide) sent (.natural 7)
  have out : asking ∈ waiting.callsOf 0 := List.mem_singleton_self asking
  obtain ⟨frame, tells⟩ := (relayed.awaits asking out).tells accepted acceptance
    ⟨.bool true, .bool true, .bool _ true⟩ accepted_comes ⟨0⟩ _ true rfl rfl
  obtain ⟨body, made⟩ := tells.made
  refine ⟨frame, (tells.ever _ .refl).2, ?_, (tells.value _ rfl).2⟩
  rw [made]
  rfl

end Dispatch.Relay.Gateway
end ClusterWire
